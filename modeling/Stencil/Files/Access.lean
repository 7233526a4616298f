import Stencil.Files.Tree
import Stencil.Text.Encoding

/-!
# Reading and writing files

What programs do with a file tree: look whether a file is there, read it as text, write it, delete
it. Texts are UTF-8. Reading ends every line with a line feed, however the file ends it; writing
changes nothing. A write goes through links to the place they lead to, and makes that file when its
directory is there.
-/

namespace Stencil

namespace Text

/-- The character that no path may hold. -/
def nul : Char := Char.ofNat 0

end Text

namespace FileTree

/-! ## Looking -/

/-- What a place leads to, links on the way included. -/
def itemAt (t : FileTree) (p : Place) : Except Escape Item := do
  if longestPath < size ('/' :: Text.joined ['/'] p) then throw .nameTooLong
  match t.item? (← t.walk mostLinks [] p) with
  | some item => return item
  | none => throw .missingFile

/-- Whether looking at something found a file. A name too long for the file system is refused, every
other obstacle on the way means that there is none. -/
def foundFile : Except Escape Item → Except Escape Bool
  | .ok (.file _) => .ok true
  | .ok _ => .ok false
  | .error .nameTooLong => .error .nameTooLong
  | .error _ => .ok false

/-- The bytes of a file that was found. -/
def bytesOf : Item → Except Escape ByteArray
  | .file bytes => .ok bytes
  | .directory => .error .isDirectory
  | .link _ => .error .linkLoop

/-- The text that bytes hold. -/
def textOf (bytes : ByteArray) : Except Escape Text :=
  match Text.decode? bytes with
  | some s => .ok s.unixLines
  | none => .error .undecodable

/-- The place that a path leads to; the last name need not be there. -/
def locate (t : FileTree) (path : Text) : Except Escape Place :=
  if Text.nul ∈ path then .error .badValue
  else if path = [] then .error .missingFile
  else if longestPath < size path then .error .nameTooLong
  else t.walk mostLinks (startOf t.workingDirectory path) (Text.parts '/' path)

/-- What a path leads to. -/
def stat (t : FileTree) (path : Text) : Except Escape Item := do
  match t.item? (← t.locate path) with
  | some item => return item
  | none => throw .missingFile

/-- Whether a path leads to a file. -/
def isFile (t : FileTree) (path : Text) : Except Escape Bool := foundFile (t.stat path)

/-- The text of the file that a path leads to. -/
def readText (t : FileTree) (path : Text) : Except Escape Text := do
  textOf (← bytesOf (← t.stat path))

/-! ## Changing -/

/-- Items with something new at a place. -/
def setItem (p : Place) (item : Item) : List (Place × Item) → List (Place × Item)
  | [] => [(p, item)]
  | (q, old) :: rest => if q = p then (p, item) :: rest else (q, old) :: setItem p item rest

/-- The tree with something new at a place. -/
def put (t : FileTree) (p : Place) (item : Item) : FileTree :=
  { t with items := setItem p item t.items }

/-- The tree in which the file that a path leads to holds a text. -/
def write (t : FileTree) (path : Text) (content : Text) : Except Escape FileTree := do
  let p ← t.locate path
  match t.item? p with
  | some .directory => throw .isDirectory
  | _ => return t.put p (.file content.encoded)

/-- The tree with a directory at a place and at every place on the way to it. -/
def makeDirectories (t : FileTree) (p : Place) : FileTree :=
  ((List.range (p.length + 1)).map p.take).foldl (fun t q => if (t.item? q).isSome then t else t.put q .directory) t

/-- The place of the directory that a path's last name stands in, when nothing has to be there. -/
def parentOf (t : FileTree) (path : Text) : Place :=
  let p := Path.ofText path
  let start := if p.isAbsolute then [] else t.workingDirectory
  match t.resolve [] start p.names.dropLast with
  | .place q => q
  | .circle _ => start ++ p.names.dropLast

/-- The tree with every directory on the way to what a path names. -/
def makeParents (t : FileTree) (path : Text) : FileTree := t.makeDirectories (t.parentOf path)

/-- The tree with an item where a path names it, and every directory on the way. -/
def install (t : FileTree) (path : Text) (item : Item) : FileTree :=
  (t.makeParents path).put (t.parentOf path ++ (Path.ofText path).names.getLast?.toList) item

/-- The tree without whatever a path names, the last name not followed when it is a link. -/
def delete (t : FileTree) (path : Text) : FileTree :=
  let names := (Path.ofText path).names
  match t.walk mostLinks (startOf t.workingDirectory path) names.dropLast with
  | .error _ => t
  | .ok dir => { t with items := t.items.filter fun (p, _) => p ≠ dir ++ names.getLast?.toList }

/-- The text of every file, with its place. -/
def files (t : FileTree) : List (Place × ByteArray) :=
  t.items.filterMap fun (p, item) => match item with
    | .file bytes => some (p, bytes)
    | _ => none

/-- The files of a later tree that an earlier one does not have, or has with other bytes. -/
def changes (before after : FileTree) : List (Place × ByteArray) :=
  after.files.filter fun (p, bytes) =>
    match before.item? p with
    | some (.file old) => old != bytes
    | _ => true

end FileTree

end Stencil
