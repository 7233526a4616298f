import Stencil.Config.Policy
import Stencil.Failure
import Stencil.Files.Path
import Stencil.Report
import Stencil.Value.Display

/-!
# Engine settings

The four settings of an engine, the values that may be chosen for them, and what is wrong with a
value that is refused. Choices come as plain values, because they are read from tables; a setting
that nothing chooses has its default.

A text that is chosen may hold half of a pair. It is configured like any other (`Configured`), but it
names no file, so no engine is made of it (`Settings`).
-/

namespace Stencil

/-- Why a configuration is refused. A value that is refused is given as it is written. -/
inductive ConfigError where
  /-- The configuration file cannot be read or is not a table file. -/
  | unreadable (path : Text)
  | profileMissing (name : Text)
  | unknownOption (name : Text)
  | unknownPolicy (word : Text)
  | badDepth (value : Text)
  | badTemplateDir (value : Text)
  | badPolicy (value : Text)
  | badExtensions (value : Text)
deriving DecidableEq, Repr

namespace ConfigError

/-- Words of the file system or of a reader, which are not this library's to choose. -/
def foreignCause : Text := "<cause>"

/-- The refusal in words. -/
def message : ConfigError → Text
  | .unreadable path => "Could not read config file " ++ path ++ ": " ++ foreignCause
  | .profileMissing name => "Config profile '" ++ name ++ "' not found."
  | .unknownOption name => "Unknown engine option '" ++ name ++ "'."
  | .unknownPolicy word =>
    "Invalid cache_policy '" ++ word ++ "'. Expected one of: " ++ Policy.names ++ "."
  | .badDepth v => "max_nesting_depth must be a positive integer, got " ++ v ++ "."
  | .badTemplateDir v => "template_dir must be a path string, got " ++ v ++ "."
  | .badPolicy v => "cache_policy must be one of: " ++ Policy.names ++ "; got " ++ v ++ "."
  | .badExtensions v => "extensions must be a list of strings, got " ++ v ++ "."

/-- The refusal as a report. -/
def report (e : ConfigError) : Report := .plain .config e.message

end ConfigError

/-- What choosing settings can answer instead of them. -/
abbrev ConfigFailure := Failure ConfigError

/-- The refusal of a value. One that cannot be written cannot be refused in words either. -/
def Value.refused (cause : Text → ConfigError) (v : Value) : ConfigFailure :=
  match v.written with
  | some s => .reported (cause s)
  | none => .escaped .badValue

/-- The settings of an engine. The depth limit may be empty; then no block is within it. -/
structure Settings where
  templateDir : Text
  extensions : List Text
  policy : Policy
  maxDepth : Option Int
deriving DecidableEq, Repr, Inhabited

/-- The settings as they are configured. Half of a pair may stand in the directory and in an extension. -/
structure Configured where
  templateDir : Symbols
  extensions : List Symbols
  policy : Policy
  maxDepth : Option Int
deriving DecidableEq, Repr, Inhabited

/-- The settings of an engine, when everything that is configured is text. -/
def Configured.settings (c : Configured) : Except Escape Settings :=
  match c.templateDir.text?, c.extensions.mapM Symbols.text? with
  | some templateDir, some extensions => .ok ⟨templateDir, extensions, c.policy, c.maxDepth⟩
  | _, _ => .error .unencodable

/-- Values chosen for the settings; what is not chosen is left to a lower layer. -/
structure Choices where
  templateDir : Option Value := none
  extensions : Option Value := none
  policy : Option Value := none
  maxDepth : Option (Option Int) := none
deriving Inhabited

namespace Settings

/-- The settings of an engine for which nothing is chosen. -/
def default : Settings :=
  ⟨"templates", [".html".toList, ".xml".toList, ".txt".toList], .environment, some 64⟩

/-- An extension begins with a dot; one that lacks it is given it. -/
def dotted (ext : Symbols) : Symbols :=
  match ext with
  | .char '.' :: _ => ext
  | _ => .char '.' :: ext

/-- The symbols that a text is made of. -/
def symbols? : Value → Option Symbols
  | .text s => some (Symbols.ofText s)
  | .broken s => some s
  | _ => none

/-- The normal form of a path in which half of a pair stands. -/
def normalSymbols (s : Symbols) : Symbols :=
  let slash : Symbol := .char '/'
  let slashes := Path.leading (s.filled '-')
  let names := (Text.split [slash] s.length s).filter fun name =>
    name ≠ [] ∧ name ≠ Symbols.ofText Path.here
  if slashes = 0 ∧ names = [] then Symbols.ofText Path.here
  else List.replicate slashes slash ++ [slash].intercalate names

/-- The template directory that a value names, in the normal form of its path. -/
def readTemplateDir : Value → Except ConfigFailure Symbols
  | .text s => .ok (Symbols.ofText (Path.ofText s).toText)
  | .broken s => .ok (normalSymbols s)
  | v => .error (v.refused .badTemplateDir)

/-- The policy that a value names; an unknown word stands for the default policy. -/
def readPolicy : Value → Except ConfigFailure Policy
  | .text s => .ok ((Policy.ofName? s).getD default.policy)
  | .broken _ => .ok default.policy
  | v => .error (v.refused .badPolicy)

/-- The extensions that a value lists. -/
def readExtensions (v : Value) : Except ConfigFailure (List Symbols) :=
  match v.elements?.bind (List.mapM symbols?) with
  | some exts => .ok (exts.map dotted)
  | none => .error (v.refused .badExtensions)

/-- A chosen value as its reader takes it, or the default. -/
def chosen {α : Type} (read : Value → Except ConfigFailure α) (choice : Option Value) (fallback : α) :
    Except ConfigFailure α :=
  match choice with
  | none => .ok fallback
  | some v => read v

/-- The settings with the given choices. Values are looked at in a fixed order, so of several bad
ones the template directory is refused first, then the policy, then the extensions. -/
def configured (c : Choices) : Except ConfigFailure Configured := do
  let templateDir ← chosen readTemplateDir c.templateDir (Symbols.ofText default.templateDir)
  let policy ← chosen readPolicy c.policy default.policy
  let extensions ← chosen readExtensions c.extensions (default.extensions.map Symbols.ofText)
  return ⟨templateDir, extensions, policy, c.maxDepth.getD default.maxDepth⟩

/-- The settings of an engine with the given choices. -/
def ofChoices (c : Choices) : Except ConfigFailure Settings := do
  (← configured c).settings.mapError .escaped

end Settings

end Stencil
