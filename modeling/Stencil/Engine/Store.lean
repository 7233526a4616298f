import Stencil.Files.Access

/-!
# Template stores

A store answers two questions about a template path: whether it is there, and what its text is. A
store over a map of texts answers from the map. A store over a directory answers from the files below
that directory: the place that a path means is found first, through its links, and what lies outside
the directory is not there, whatever the path looks like.
-/

namespace Stencil

/-- A store of templates, as far as reading goes. -/
structure Store where
  probe : Text → Except Escape Bool
  read : Text → Except Escape Text

/-- Templates by path. -/
abbrev Templates := List (Text × Text)

namespace Templates

/-- The text of a template. -/
def get? (path : Text) : Templates → Option Text
  | [] => none
  | (p, content) :: rest => if p = path then some content else get? path rest

/-- The templates without a path. -/
def erase (path : Text) (ts : Templates) : Templates := ts.filter fun (p, _) => p ≠ path

/-- The templates with a text at a path. -/
def put (path content : Text) (ts : Templates) : Templates := (path, content) :: erase path ts

/-- The store that serves these templates. -/
def store (ts : Templates) : Store where
  probe path := .ok (get? path ts).isSome
  read path := match get? path ts with
    | some content => .ok content
    | none => .error .missingFile

end Templates

namespace FileTree

/-- The place that a path means, when nothing has to be there and links are followed. A path that leads
to a link which leads back to itself means the place of its names, unless that place is such a link or
lies behind one. -/
def resolved (t : FileTree) (path : Path) : Except Escape Place :=
  if Text.nul ∈ path.toText then .error .badValue
  else
    match t.resolve [] (if path.isAbsolute then [] else t.workingDirectory) path.names with
    | .place p => .ok p
    | .circle names =>
      let p := settled [] names
      match t.walk mostLinks [] p with
      | .error .linkLoop => .error .unresolvable
      | _ => .ok p

/-- The place of a template below `dir`; nothing when the path leads outside. -/
def placeBelow (t : FileTree) (dir : Place) (path : Text) : Except Escape (Option Place) := do
  let p ← t.resolved (Path.within ⟨1, dir⟩ (.ofText path))
  return if dir.isPrefixOf p then some p else none

/-- Whether a template file is there below `dir`. -/
def hasBelow (t : FileTree) (dir : Place) (path : Text) : Except Escape Bool := do
  match ← t.placeBelow dir path with
  | none => return false
  | some p => foundFile (t.itemAt p)

/-- The text of the template file below `dir`. -/
def readBelow (t : FileTree) (dir : Place) (path : Text) : Except Escape Text := do
  match ← t.placeBelow dir path with
  | none => throw .missingFile
  | some p =>
    if ← foundFile (t.itemAt p) then textOf (← bytesOf (← t.itemAt p))
    else throw .missingFile

/-- The store that serves the files below a directory. -/
def store (t : FileTree) (dir : Place) : Store := ⟨t.hasBelow dir, t.readBelow dir⟩

end FileTree

end Stencil
