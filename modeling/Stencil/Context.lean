import Stencil.Config.Settings
import Stencil.Files.Access
import Stencil.Formats.Json
import Stencil.Formats.Toml.Read
import Stencil.Formats.Yaml.Read
import Stencil.Text.Blank

/-!
# Contexts

The data of a rendering. It is layered from files, in the order in which they are given, and from
variables written as `key=value`, which come last. Every layer replaces whole values: a table of a
later file does not mix with the table that an earlier file has under the same key. A key keeps the
place where it first occurs.
-/

namespace Stencil

/-- Why a context is refused. -/
inductive ContextError where
  /-- The file's suffix belongs to no format. -/
  | unsupported (path : Path)
  | unreadable (path : Path)
  | malformed (path : Path)
  /-- The file holds something other than a table, of the given kind. -/
  | notMapping (path : Path) (kind : Text)
  | noValue (given : Text)
  | emptyKey (given : Text)
deriving DecidableEq, Repr

namespace Context

/-- The formats of context files. -/
inductive Format where
  | json
  | toml
  | yaml
deriving DecidableEq, Repr

namespace Format

/-- The formats by the suffixes of their files, in the order in which they are listed to the user. -/
def bySuffix : List (Text × Format) :=
  [(".json".toList, json), (".toml".toList, toml), (".yaml".toList, yaml), (".yml".toList, yaml)]

/-- The format of a file. Its suffix may be written in capitals. -/
def ofPath? (path : Path) : Option Format := bySuffix.lookup (Text.lowered path.suffix)

/-- Reads a text in a format. -/
def read : Format → Text → Except DocumentError Value
  | json => Json.read
  | toml => Toml.read
  | yaml => Yaml.read

end Format

end Context

namespace ContextError

/-- The refusal in words. -/
def message : ContextError → Text
  | .unsupported path =>
    "Unsupported context file type '" ++ path.suffix ++ "' for " ++ path.toText ++ ". Use one of: " ++
      Text.joined [',', ' '] (Context.Format.bySuffix.map (·.1)) ++ "."
  | .unreadable path =>
    "Failed to read context file " ++ path.toText ++ ": " ++ ConfigError.foreignCause
  | .malformed path =>
    "Failed to parse context file " ++ path.toText ++ ": " ++ ConfigError.foreignCause
  | .notMapping path kind =>
    "Context file " ++ path.toText ++ " must contain a mapping at the top level, got " ++ kind ++ "."
  | .noValue v => "Invalid variable '" ++ v ++ "'. Expected KEY=VALUE."
  | .emptyKey v => "Invalid variable '" ++ v ++ "'. Key must not be empty."

/-- The refusal as a report. -/
def report (e : ContextError) : Report := .plain .context e.message

end ContextError

namespace Context

/-! ## Variables -/

/-- A variable's key, without blanks around it, and its value: all behind the first equals sign. -/
def ofVariable (v : Text) : Except ContextError (Text × Text) :=
  match Text.cut '=' v with
  | none => .error (.noValue v)
  | some (key, value) =>
    match key.stripped with
    | [] => .error (.emptyKey v)
    | key => .ok (key, value)

/-- The dictionary of some variables; of those with one key the last counts. -/
def ofVariables (vs : List Text) : Except ContextError Dict := do
  let pairs ← vs.mapM ofVariable
  return Dict.ofEntries (pairs.map fun (key, value) => (.text key, .text value))

/-! ## Files -/

/-- The table of a document; a document that holds nothing is an empty table. -/
def tableOf (path : Path) (v : Value) : Except ContextError Dict :=
  match v, v.entries? with
  | .null, _ => .ok []
  | _, some entries => .ok entries
  | v, none => .error (.notMapping path v.kindName)

/-- What a reader's fault means for a file. -/
def documentFailure (path : Path) (e : DocumentError) : Failure ContextError :=
  match e.escape? with
  | none => .reported (.malformed path)
  | some e => .escaped e

/-- What a read that failed means for a file. -/
def readFailure (path : Path) (e : Escape) : Failure ContextError :=
  if e.isAccess then .reported (.unreadable path) else .escaped e

/-- The table that a context file holds. The suffix is looked at before the file is read. -/
def ofFile (t : FileTree) (path : Path) : Except (Failure ContextError) Dict := do
  match Format.ofPath? path with
  | none => throw (.reported (.unsupported path))
  | some format =>
    let s ← (t.readText path.toText).mapError (readFailure path)
    let v ← (format.read s).mapError (documentFailure path)
    (tableOf path v).mapError .reported

/-! ## The whole context -/

/-- The context of some files and variables. -/
def build (t : FileTree) (files : List Path) (vars : List Text) :
    Except (Failure ContextError) Dict := do
  let tables ← files.mapM (ofFile t)
  let given ← (ofVariables vars).mapError .reported
  return (tables ++ [given]).foldl Dict.update []

end Context

end Stencil
