import Stencil.CommandLine.Request
import Stencil.Config.Files
import Stencil.Context
import Stencil.Engine.Loading
import Stencil.Output
import Stencil.Template.Outline

/-!
# Runs of the program

What the program does with a command line, as a value: the exit code, what it prints, the files
afterwards and what it copied. Rendering changes nothing before the whole output is there. An output
goes into a file or to the clipboard where that is asked for, and is printed where it is not, or where
copying fails.

A failure that can be described is printed behind the word `Error` and ends the run with the code one;
so does a failure that escapes, without a word. The code two says that the command line asks for
nothing that can be done.
-/

namespace Stencil.CommandLine

/-- What the program finds around it. -/
structure Surroundings where
  files : FileTree
  /-- Where the user's configuration may be. -/
  userFile : Path
  /-- The name of the environment. -/
  environment : Option Text
  /-- Whether copying works. -/
  clipboard : Bool
  /-- How many columns the console has. -/
  width : Nat

/-- What a run leaves behind. -/
structure Outcome where
  exitCode : Nat
  output : Symbols
  errors : Text
  files : FileTree
  copied : List Symbols
  escape : Option Escape

/-- A step of a run. -/
abbrev Run (α : Type) := Except (Failure Report) α

namespace Outcome

/-- A run that prints a text and does nothing else. -/
def printing (w : Surroundings) (exitCode : Nat) (output : Text) : Outcome :=
  ⟨exitCode, .ofText output, [], w.files, [], none⟩

/-- A message on a line of its own. -/
def notice (word s : Text) : Text := Console.colourless (word ++ ": " ++ s) ++ ['\n']

/-- A run that fails. -/
def failing (w : Surroundings) : Failure Report → Outcome
  | .reported r => ⟨1, [], notice "Error" r.message, w.files, [], none⟩
  | .escaped e => ⟨1, [], [], w.files, [], some e⟩

/-- A run that comes to nothing because of its command line. -/
def refusing (w : Surroundings) : Failure UsageError → Outcome
  | .reported e => ⟨2, [], notice "Error" e.message, w.files, [], none⟩
  | .escaped e => failing w (.escaped e)

end Outcome

namespace Surroundings

/-- The settings for a profile and options. -/
def settings (w : Surroundings) (profile : Option Text) (options : List (Text × Value)) :
    Run Settings := do
  let here : Path := ⟨1, w.files.workingDirectory⟩
  let table ← (Config.load w.files w.userFile here).mapError (·.map ConfigError.report)
  (Config.build table profile options).mapError (·.map ConfigError.report)

/-- The store of the template directory. The directory is looked for with every engine, even where no
template is taken from it. -/
def store (w : Surroundings) (s : Settings) : Run Store := do
  let dir ← (w.files.resolved (.ofText s.templateDir)).mapError .escaped
  return w.files.store dir

/-- The source of a template that is named by its path. -/
def readTemplate (w : Surroundings) (path : Path) : Run Text :=
  (w.files.readText path.toText).mapError fun e =>
    if e.isAccess ∨ e = .undecodable then
      .reported (.plain .general
        ("Failed to read template file " ++ path.toText ++ ": " ++ ConfigError.foreignCause))
    else .escaped e

end Surroundings

/-! ## Rendering -/

/-- The option that chooses a value for a setting, or leaves it open. -/
def choosing (s : Setting) (v : Option Value) : Text × Value := (s.name, v.getD .null)

namespace Rendering

/-- What the request chooses for the settings. -/
def options (r : Rendering) : List (Text × Value) :=
  [choosing .templateDir (r.templateDir.map fun p => .text p.toText),
    choosing .extensions
      (if r.extensions = [] then none else some (.list (r.extensions.map Value.text))),
    choosing .policy (r.policy.map fun p => .text p.name),
    choosing .maxDepth (r.maxDepth.map Value.int)]

/-- What is rendered. -/
def symbols (w : Surroundings) (profile : Option Text) (r : Rendering) : Run Symbols := do
  let settings ← w.settings profile r.options
  let context ← (Context.build w.files r.contextFiles r.vars).mapError (·.map ContextError.report)
  let store ← w.store settings
  (store.render settings w.environment .empty r.template context).1.result.mapError
    (·.map TemplateError.report)

/-- The files after an output was to be written where the request asks for it, and how that went. -/
def written (w : Surroundings) (r : Rendering) (s : Symbols) : FileTree × Run Unit :=
  match r.output with
  | none => (w.files, .ok ())
  | some path =>
    let (files, result) := Output.writeFile w.files path s
    (files, result.mapError (·.map OutputError.report))

/-- What is said about where an output went. -/
def notices (w : Surroundings) (r : Rendering) : Text :=
  (match r.output with
    | none => []
    | some path => Outcome.notice "Info" ("Output written to: " ++ path.toText)) ++
  (if r.clipboard ∧ !w.clipboard then
    Outcome.notice "Info" "Clipboard copy failed. Outputting to stdout instead."
  else [])

/-- Whether the output is printed. -/
def prints (w : Surroundings) (r : Rendering) : Bool :=
  if r.clipboard then !w.clipboard else r.output.isNone

/-- A run that has rendered something and puts it where the request asks for it. -/
def finish (w : Surroundings) (r : Rendering) (s : Symbols) : Outcome :=
  match r.written w s with
  | (files, .error e) => .failing { w with files } e
  | (files, .ok ()) => {
      exitCode := 0
      output := if r.prints w then s else []
      errors := r.notices w
      files
      copied := if r.clipboard ∧ w.clipboard then [s] else []
      escape := none }

/-- A run that renders. -/
def outcome (w : Surroundings) (profile : Option Text) (r : Rendering) : Run Outcome :=
  (r.symbols w profile).map (r.finish w)

end Rendering

/-! ## Checking and drawing -/

/-- The option that chooses the depth limit. -/
def depthOption (maxDepth : Option Int) : List (Text × Value) :=
  [choosing .maxDepth (maxDepth.map Value.int)]

/-- A syntax error as the report on a file words it. -/
def complaint (e : Template.SyntaxError) : Text :=
  "line " ++ Text.ofNat e.position.line ++ ", column " ++ Text.ofNat e.position.column ++ ": " ++
    e.misuse.message

/-- What is wrong with a template, if anything, and where. -/
def complaint? (s : Settings) (path : Path) (source : Text) : Run (Option Text) :=
  match s.compile path.toText source with
  | .ok _ => .ok none
  | .error (.reported (.malformed _ e)) => .ok (some (complaint e))
  | .error e => .error (e.map TemplateError.report)

/-- The report on a template, as a console shows it. -/
def checkReport (width : Nat) (path : Path) (complaint : Option Text) : Text :=
  let file := Markup.escape path.toText
  Console.ended (Console.shown width (match complaint with
    | none => Markup.styled "green" "ok" ++ "   " ++ file
    | some s => Markup.styled "red" "FAIL" ++ " " ++ file ++ ": " ++ Markup.escape s))

/-- The reports on templates: what is wrong with each, in their order. -/
def complaints (w : Surroundings) (s : Settings) (files : List Path) :
    Run (List (Path × Option Text)) :=
  files.mapM fun path => do
    let source ← w.readTemplate path
    return (path, ← complaint? s path source)

/-- A run that checks templates. -/
def checkOutcome (w : Surroundings) (profile : Option Text) (files : List Path)
    (maxDepth : Option Int) : Run Outcome := do
  let s ← w.settings profile (depthOption maxDepth)
  discard (w.store s)
  let results ← complaints w s files
  let exitCode := if results.any (·.2.isSome) then 1 else 0
  return .printing w exitCode
    (results.flatMap fun (path, complaint) => checkReport w.width path complaint)

/-- A run that draws a template. -/
def treeOutcome (w : Surroundings) (profile : Option Text) (file : Path) : Run Outcome := do
  let s ← w.settings profile []
  discard (w.store s)
  let source ← w.readTemplate file
  let nodes ← (s.compile file.toText source).mapError (·.map TemplateError.report)
  return .printing w 0 ((Template.Outline.ofTemplate file.toText nodes).drawn w.width)

/-! ## The program -/

/-- The name and the version of the program. -/
def versionText : Text := "lightbars, version 0.1.0\n"

/-- How the program is used. -/
def helpText : Text :=
  "Usage: lightbars [OPTIONS] COMMAND [ARGS]...\n\n" ++
  "Commands:\n  render  Render a template from the template directory.\n" ++
  "  check   Check templates for unbalanced or misplaced block tags.\n" ++
  "  tree    Print the parsed structure of a template.\n"

/-- What a command does. -/
def Command.outcome (w : Surroundings) (profile : Option Text) : Command → Run Outcome
  | .render r => r.outcome w profile
  | .check files maxDepth => checkOutcome w profile files maxDepth
  | .tree file => treeOutcome w profile file

/-- What a request does. -/
def Request.outcome (w : Surroundings) : Request → Outcome
  | .version => .printing w 0 versionText
  | .help => .printing w 0 helpText
  | .command profile c =>
    match c.outcome w profile with
    | .ok outcome => outcome
    | .error e => .failing w e

/-- What the words of a command line do. -/
def run (w : Surroundings) (words : List Text) : Outcome :=
  match Request.ofWords w.files words with
  | .ok request => request.outcome w
  | .error e => .refusing w e

end Stencil.CommandLine
