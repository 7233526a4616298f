import Stencil.Failure
import Stencil.Files.Path

/-!
# File trees

A tree of files as a value: what stands at each place, and the directory that relative paths start
from. A place is the list of names that leads to it from the root, with no link on the way.

Two ways lead from a path to a place. `walk` goes as the system does: every name but the last must be
there, every name but the last must be a directory or a link to one, and `..` is the directory that
was walked from. It follows a bounded number of links, so links that lead back to themselves end it.

`resolve` asks for nothing to be there: a name that is not a link is taken as it is, and `..` drops the
last name. It follows links without a bound, but none while it is being followed. A link that is met
again ends what `resolve` knows about links: the names that are left stand as they are. The links that
are not being followed grow fewer, and that bounds it.
-/

namespace Stencil

/-- A place in a file tree: the names that lead to it from the root. -/
abbrev Place := List Text

/-- What stands at a place. -/
inductive Item where
  | file (bytes : ByteArray)
  | directory
  /-- A link and the text of the path it stands for. -/
  | link (target : Text)
deriving Inhabited

/-- A tree of files. The root is always a directory. -/
structure FileTree where
  items : List (Place × Item)
  workingDirectory : Place
deriving Inhabited

namespace FileTree

/-- What stands at a place, in a list of items. -/
def find? (p : Place) : List (Place × Item) → Option Item
  | [] => none
  | (q, item) :: rest => if q = p then some item else find? p rest

/-- What stands at a place. -/
def item? (t : FileTree) (p : Place) : Option Item :=
  if p = [] then some .directory else find? p t.items

/-- The places of all links. -/
def links (t : FileTree) : List Place :=
  t.items.filterMap fun (p, item) => match item with
    | .link _ => some p
    | _ => none

/-- The links that are not being followed. -/
def idle (t : FileTree) (busy : List Place) : Nat := (t.links.filter fun p => p ∉ busy).length

theorem mem_links_of_find? {p : Place} {target : Text} {items : List (Place × Item)} {dir : Place}
    (h : find? p items = some (.link target)) : p ∈ (FileTree.mk items dir).links := by
  simp only [links]
  induction items with
  | nil => simp [find?] at h
  | cons entry rest ih =>
    obtain ⟨q, item⟩ := entry
    simp only [find?] at h
    split at h
    next hq => cases h; subst hq; simp
    next =>
      have := ih h
      cases item <;> simp_all

theorem mem_links_of_item? {t : FileTree} {p : Place} {target : Text}
    (h : t.item? p = some (.link target)) : p ∈ t.links := by
  unfold item? at h
  split at h
  next => cases h
  next => exact mem_links_of_find? h

/-- Following one more link leaves fewer links idle. -/
theorem idle_cons_lt {t : FileTree} {busy : List Place} {p : Place} (hp : p ∈ t.links)
    (hb : p ∉ busy) : t.idle (p :: busy) < t.idle busy := by
  have hsub : (t.links.filter fun q => q ∉ p :: busy) =
      (t.links.filter fun q => q ∉ busy).filter fun q => q ≠ p := by
    simp [List.filter_filter]
  have hmem : p ∈ t.links.filter fun q => q ∉ busy := by simp [hp, hb]
  unfold idle
  rw [hsub]
  exact List.length_filter_lt_length_iff_exists.2 ⟨p, hmem, by simp⟩

/-! ## From paths to places -/

/-- Whether a name stands for the directory it is read in. -/
def isHere (name : Text) : Bool := name == [] || name == Path.here

/-- The place at which the names of a path start, when it is read inside `p`. -/
def startOf (p : Place) (path : Text) : Place := if path.head? = some '/' then [] else p

/-- Where names lead when nothing has to be there. -/
inductive Landing where
  /-- To a place. -/
  | place (p : Place)
  /-- To a link that leads back to itself: the names that lead to it from the root and the names that
  are left, among which links may be. -/
  | circle (names : List Text)
deriving DecidableEq, Repr

/-- Names read after others. Names that start at the root stand alone. -/
def onward (names rest : List Text) : List Text :=
  match rest with
  | [] :: _ :: _ => rest
  | _ => names ++ rest

/-- The place that names mean after those of `p` when no link is looked at, so that `..` drops the name
before it. -/
def settled (p : Place) : List Text → Place
  | [] => p
  | name :: rest =>
    if isHere name then settled p rest
    else if name = Path.up then settled p.dropLast rest
    else settled (p ++ [name]) rest

/-- Where names lead from `p` when nothing has to be there. The links in `busy` are being followed. -/
def resolve (t : FileTree) (busy : List Place) (p : Place) : List Text → Landing
  | [] => .place p
  | name :: rest =>
    if isHere name then resolve t busy p rest
    else if name = Path.up then resolve t busy p.dropLast rest
    else
      match _h : t.item? (p ++ [name]) with
      | some (.link target) =>
        if _hb : p ++ [name] ∈ busy then .circle (onward (p ++ [name]) rest)
        else
          match resolve t ((p ++ [name]) :: busy) (startOf p target) (Text.parts '/' target) with
          | .circle names => .circle (onward names rest)
          | .place q => resolve t busy q rest
      | _ => resolve t busy (p ++ [name]) rest
termination_by names => (t.idle busy, names.length)
decreasing_by
  · exact Prod.Lex.right _ (by simp)
  · exact Prod.Lex.right _ (by simp)
  · exact Prod.Lex.left _ _ (idle_cons_lt (mem_links_of_item? _h) _hb)
  · exact Prod.Lex.right _ (by simp)
  · exact Prod.Lex.right _ (by simp)

/-- The longest name that a directory holds, in bytes. -/
def longestName : Nat := 255

/-- The longest path that the system takes, in bytes. -/
def longestPath : Nat := 4095

/-- How many links one walk follows. -/
def mostLinks : Nat := 40

/-- The bytes of a text. -/
def size (s : Text) : Nat := (String.ofList s).utf8ByteSize

/-- The place that names lead to from `p`, where all but the last must be there. The names of a link's
target stand in front of those behind the link. -/
def walk (t : FileTree) (links : Nat) (p : Place) : List Text → Except Escape Place
  | [] => .ok p
  | name :: rest =>
    match t.item? p with
    | none => .error .missingFile
    | some (.file _) | some (.link _) => .error .notDirectory
    | some .directory =>
      if isHere name then walk t links p rest
      else if name = Path.up then walk t links p.dropLast rest
      else if longestName < size name then .error .nameTooLong
      else
        match t.item? (p ++ [name]) with
        | some (.link target) =>
          match links with
          | 0 => .error .linkLoop
          | links + 1 => walk t links (startOf p target) (Text.parts '/' target ++ rest)
        | _ => walk t links (p ++ [name]) rest
termination_by names => (links, names.length)

end FileTree

end Stencil
