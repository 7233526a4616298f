import Stencil.CommandLine.Options
import Stencil.Config.Policy
import Stencil.Decimal.Numeral
import Stencil.Files.Access

/-!
# Requests

What a command line asks for. Options for the whole program stand before the command, and those of a
command behind it, also among its arguments. Where an option that is used once is given several times,
the last one counts, and only its value is looked at. Paths are looked at before anything is done: what
has to be a file must be there, and what must not be a directory must not be one.
-/

namespace Stencil.CommandLine

/-! ## Options of the program -/

/-- The options. -/
inductive Key where
  | verbose
  | plainLogs
  | profile
  | version
  | help
  | templateDir
  | extension
  | policy
  | maxDepth
  | context
  | setting
  | output
  | clipboard
deriving DecidableEq, Repr

/-- How the options of the whole program are written. -/
def programForms : List (OptionForm Key) :=
  [⟨.verbose, "--verbose", some 'v', false⟩, ⟨.plainLogs, "--force-json-logs", none, false⟩,
    ⟨.profile, "--config-profile", none, true⟩, ⟨.version, "--version", none, false⟩,
    ⟨.help, "--help", some 'h', false⟩]

/-- How the help is asked for. -/
def helpForm : OptionForm Key := ⟨.help, "--help", some 'h', false⟩

/-- How the depth limit is given. -/
def depthForm : OptionForm Key := ⟨.maxDepth, "--max-depth", none, true⟩

/-- How the options for rendering are written. -/
def renderForms : List (OptionForm Key) :=
  [⟨.templateDir, "--template-dir", some 'd', true⟩, ⟨.extension, "--ext", none, true⟩,
    ⟨.policy, "--cache-policy", none, true⟩, depthForm, ⟨.context, "--context", some 'c', true⟩,
    ⟨.setting, "--var", none, true⟩, ⟨.output, "--output", some 'o', true⟩,
    ⟨.clipboard, "--clipboard", none, false⟩, helpForm]

/-! ## Requests -/

/-- What is asked of rendering. -/
structure Rendering where
  template : Text := []
  templateDir : Option Path := none
  extensions : List Text := []
  policy : Option Policy := none
  maxDepth : Option Int := none
  contextFiles : List Path := []
  vars : List Text := []
  output : Option Path := none
  clipboard : Bool := false
deriving DecidableEq, Repr

/-- The commands. -/
inductive Command where
  | render (r : Rendering)
  | check (files : List Path) (maxDepth : Option Int)
  | tree (file : Path)
deriving DecidableEq, Repr

/-- What a command line asks for. -/
inductive Request where
  | version
  | help
  | command (profile : Option Text) (c : Command)
deriving DecidableEq, Repr

/-- Why a command line asks for nothing that can be done. -/
inductive UsageError where
  | option (e : OptionError)
  | missingCommand
  | unknownCommand (name : Text)
  | missingArgument
  | extraArgument (word : Text)
  | unknownPolicy (word : Text)
  | badDepth (word : Text)
  | missingFile (path : Text)
  | unexpectedFile (path : Text)
  | unexpectedDirectory (path : Text)
deriving DecidableEq, Repr

namespace UsageError

/-- The fault in words. -/
def message : UsageError → Text
  | .option (.unknown name) => "no such option: " ++ name
  | .option (.noValue name) => "option " ++ name ++ " takes a value"
  | .option (.unwantedValue name) => "option " ++ name ++ " takes no value"
  | .missingCommand => "no command"
  | .unknownCommand name => "no such command: " ++ name
  | .missingArgument => "no file or template is named"
  | .extraArgument word => "one argument too many: " ++ word
  | .unknownPolicy word => "no such cache policy: " ++ word
  | .badDepth word => "not a depth limit: " ++ word
  | .missingFile path => "no such file: " ++ path
  | .unexpectedFile path => "a file, not a directory: " ++ path
  | .unexpectedDirectory path => "a directory, not a file: " ++ path

end UsageError

namespace Request

/-- What is wrong with a command line, or with looking at a path on it. -/
abbrev Refused := Failure UsageError

/-! ## Values -/

/-- What a word has to name. -/
inductive Wanted where
  /-- A file that is there. -/
  | file
  /-- A file, which need not be there. -/
  | newFile
  /-- A directory, which need not be there. -/
  | directory
deriving DecidableEq

/-- Why something that was found is not what a word has to name. -/
def objection (wanted : Wanted) (path : Text) : Except Escape Item → Option Refused
  | .error .badValue => some (.escaped .badValue)
  | .error _ => if wanted = .file then some (.reported (.missingFile path)) else none
  | .ok (.file _) => if wanted = .directory then some (.reported (.unexpectedFile path)) else none
  | .ok .directory =>
    if wanted = .directory then none else some (.reported (.unexpectedDirectory path))
  | .ok (.link _) => none

/-- The path that a word names. -/
def readPath (t : FileTree) (wanted : Wanted) (path : Text) : Except Refused Path :=
  match objection wanted path (t.stat path) with
  | none => .ok (.ofText path)
  | some e => .error e

/-- The policy that a word names, in small letters. -/
def readPolicy (word : Text) : Except Refused Policy :=
  match Policy.all.find? fun p => p.name = word with
  | some p => .ok p
  | none => .error (.reported (.unknownPolicy word))

/-- The depth limit that a word gives: a whole number above zero. -/
def readDepth (word : Text) : Except Refused Int :=
  match Decimal.integer? 10 word with
  | none => .error (.reported (.badDepth word))
  | some n => if n < 1 then .error (.reported (.badDepth word)) else .ok n

/-- The value of an option, if it is given, as its reader takes it. -/
def optional {α : Type} (read : Text → Except Refused α) : Option Text → Except Refused (Option α)
  | none => .ok none
  | some word => (read word).map some

/-- The first argument of a command. -/
def first : List Text → Except Refused Text
  | [] => .error (.reported .missingArgument)
  | word :: _ => .ok word

/-- Nothing stands behind the first argument. -/
def noMore : List Text → Except Refused Unit
  | _ :: word :: _ => .error (.reported (.extraArgument word))
  | _ => .ok ()

/-! ## Commands -/

/-- The words of a command. -/
def commandWords (forms : List (OptionForm Key)) (words : List Text) :
    Except Refused (Words Key) :=
  (readWords forms true words).mapError fun e => .reported (.option e)

/-- A command, or nothing when help is asked for. -/
def orHelp (forms : List (OptionForm Key)) (words : List Text)
    (read : Words Key → Except Refused Command) : Except Refused (Option Command) := do
  let ws ← commandWords forms words
  if ws.has .help then return none
  return some (← read ws)

/-- A request for rendering with what an option asks for. -/
def readOption (t : FileTree) (ws : Words Key) (r : Rendering) (key : Key) :
    Except Refused Rendering := do
  match key with
  | .templateDir =>
    return { r with templateDir := ← optional (readPath t .directory) (ws.value? key) }
  | .policy => return { r with policy := ← optional readPolicy (ws.value? key) }
  | .maxDepth => return { r with maxDepth := ← optional readDepth (ws.value? key) }
  | .context => return { r with contextFiles := ← (ws.values key).mapM (readPath t .file) }
  | .output => return { r with output := ← optional (readPath t .newFile) (ws.value? key) }
  | .extension => return { r with extensions := ws.values key }
  | .setting => return { r with vars := ws.values key }
  | .clipboard => return { r with clipboard := true }
  | .verbose | .plainLogs | .profile | .version | .help => return r

/-- What rendering is asked for. Options are looked at in the order in which they were first given, and
arguments behind all of them. -/
def readRendering (t : FileTree) (ws : Words Key) : Except Refused Command := do
  let r ← (ws.options.map (·.key)).foldlM (readOption t ws) {}
  let template ← first ws.arguments
  noMore ws.arguments
  return .render { r with template }

/-- What checking is asked for. -/
def readCheck (t : FileTree) (ws : Words Key) : Except Refused Command := do
  let maxDepth ← optional readDepth (ws.value? .maxDepth)
  let files ← ws.arguments.mapM (readPath t .file)
  if files = [] then throw (.reported .missingArgument)
  return .check files maxDepth

/-- What drawing is asked for. -/
def readTree (t : FileTree) (ws : Words Key) : Except Refused Command := do
  let file ← readPath t .file (← first ws.arguments)
  noMore ws.arguments
  return .tree file

/-- The command that words ask for; nothing when they ask for help. -/
def readCommand (t : FileTree) : List Text → Except Refused (Option Command)
  | [] => .error (.reported .missingCommand)
  | name :: words =>
    if name = "render".toList then orHelp renderForms words (readRendering t)
    else if name = "check".toList then orHelp [depthForm, helpForm] words (readCheck t)
    else if name = "tree".toList then orHelp [helpForm] words (readTree t)
    else .error (.reported (.unknownCommand name))

/-- What the words of a command line ask for, given the files that they may name. Of version and help
the one that is asked for first is given. -/
def ofWords (t : FileTree) (words : List Text) : Except Refused Request := do
  let ws ← (readWords programForms false words).mapError fun e => .reported (.option e)
  let answering : List Key := [.version, .help]
  match (ws.options.map (·.key)).find? fun key => answering.contains key with
  | some .version => return .version
  | some _ => return .help
  | none =>
    match ← readCommand t ws.arguments with
    | none => return .help
    | some c => return .command (ws.value? .profile) c

end Request

end Stencil.CommandLine
