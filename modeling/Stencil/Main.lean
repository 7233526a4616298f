import Stencil.CommandLine.Run

/-!
# The program

Looks at the files that a command line may touch, runs it on them, and carries out what came of it.
Only what can be named is looked at: the words of the command line, the configuration files, and the
candidates for the template that is asked for.
-/

namespace Stencil.Main

/-- The text of a place. -/
def pathOf (p : Place) : String := String.ofList ('/' :: Text.joined ['/'] p)

/-- The place of a path in the file system, with every link followed; nothing when it is not there. -/
def realPlace (path : String) : IO (Option Place) := do
  try
    let real ← IO.FS.realPath path
    return some (Path.ofText real.toString.toList).names
  catch _ => return none

/-- What stands at a place that no link leads to. -/
def itemAt (p : Place) : IO (Option Item) := do
  try
    let real ← IO.FS.realPath (pathOf p)
    if ← real.isDir then return some .directory
    return some (.file (← IO.FS.readBinFile real))
  catch _ => return none

/-- The tree with what names lead to from a place, as far as they do. -/
def look (t : FileTree) (p : Place) : List Text → IO FileTree
  | [] => return t
  | name :: rest => do
    if FileTree.isHere name then look t p rest
    else if name = Path.up then look t p.dropLast rest
    else
      let next := p ++ [name]
      match ← realPlace (pathOf next) with
      | none => return t
      | some real =>
        let t := if real = next then t else t.put next (.link (pathOf real).toList)
        match ← itemAt real with
        | none => return t
        | some item =>
          let t := (t.makeDirectories real.dropLast).put real item
          look t real rest

/-- The tree with what a path leads to. -/
def lookAt (t : FileTree) (path : Text) : IO FileTree :=
  look t (FileTree.startOf t.workingDirectory path) (Text.parts '/' path)

/-- The tree with what paths lead to. -/
def lookAll (t : FileTree) (paths : List Text) : IO FileTree := paths.foldlM lookAt t

/-- The paths that a word of the command line may name: itself, and the value attached to an option. -/
def pathsIn (word : Text) : List Text :=
  [word, word.drop 2] ++ ((Text.cut '=' word).map (·.2)).toList

/-- The paths of the templates that a request may ask for. -/
def templatePaths (w : CommandLine.Surroundings) (words : List Text) : List Text :=
  match CommandLine.Request.ofWords w.files words with
  | .ok (.command profile (.render r)) =>
    match w.settings profile r.options with
    | .ok settings =>
      (settings.candidates r.template).map fun name => ((Path.ofText settings.templateDir).within (.ofText name)).toText
    | .error _ => []
  | _ => []

/-- The columns of a console that does not say how many it has. -/
def defaultWidth : Nat := 80

/-- The columns that the environment gives the console. -/
def widthOf (given : Option String) : Nat :=
  (given.bind fun s => if s.all Char.isDigit then s.toNat? else none).getD defaultWidth

/-- Carries out the changes of a run. -/
def install (changes : List (Place × ByteArray)) : IO Unit := do
  for (p, bytes) in changes do
    IO.FS.writeBinFile (pathOf p) bytes

/-- Runs a command line. -/
def run (args : List String) : IO UInt32 := do
  let words := args.map String.toList
  let here := (Path.ofText (← IO.currentDir).toString.toList).names
  let home := ((← IO.getEnv "HOME").getD "/").toList
  let userFile := (Path.ofText home).within (.ofText ".config/lightbars/config.toml")
  let start := (FileTree.mk [] here).makeDirectories here
  let files ← lookAll start
    (userFile.toText :: Config.projectFiles ++ words.flatMap pathsIn)
  let environment := (← IO.getEnv "LIGHTBARS_ENV").map String.toList
  let width := widthOf (← IO.getEnv "COLUMNS")
  let w : CommandLine.Surroundings := ⟨files, userFile, environment, false, width⟩
  let w := { w with files := ← lookAll files (templatePaths w words) }
  let outcome := CommandLine.run w words
  let stdout ← IO.getStdout
  let stderr ← IO.getStderr
  install (w.files.changes outcome.files)
  stdout.write (Output.sent .utf8 outcome.output)
  stderr.write (Output.sent .utf8 (.ofText outcome.errors))
  if outcome.escape.isSome then stderr.putStrLn "Error: broken off by a failure of the system."
  return outcome.exitCode.toUInt32

end Stencil.Main

/-- The program. -/
def main (args : List String) : IO UInt32 := Stencil.Main.run args
