import Stencil.Text.Blank

/-!
# Tags

The six tags that a template may hold between double braces. A tag knows everything about its own
spelling: a block opener keeps the gap between its keyword and its name, so `Tag.spelling` gives back
the very characters that were read.

`Tag.scan` reads a tag at the head of a text. The six spellings exclude one another by their first
characters, so no order of attempts matters, and what does not spell a tag is left to be plain text.
-/

namespace Stencil.Template

/-- A name is made of Latin letters, digits and underscores. -/
def isNameChar (c : Char) : Bool := c.isAlphanum || c == '_'

/-- A tag. The `gap` of an opener is the white space between its keyword and its name. -/
inductive Tag where
  | variable (name : Text)
  | ifOpen (gap name : Text)
  | elseMark
  | ifClose
  | eachOpen (gap name : Text)
  | eachClose
deriving DecidableEq, Repr

/-- A proper name: at least one character, and name characters only. -/
def IsName (name : Text) : Prop := name ≠ [] ∧ ∀ c ∈ name, isNameChar c = true

/-- A proper gap: at least one character, and blanks only. -/
def IsGap (gap : Text) : Prop := gap ≠ [] ∧ ∀ c ∈ gap, isBlank c = true

namespace Tag

/-- What is written for a tag. -/
def spelling : Tag → Text
  | .variable name => ['{', '{'] ++ name ++ ['}', '}']
  | .ifOpen gap name => ['{', '{', '#', 'i', 'f'] ++ gap ++ name ++ ['}', '}']
  | .elseMark => ['{', '{', '#', 'e', 'l', 's', 'e', '}', '}']
  | .ifClose => ['{', '{', '/', 'i', 'f', '}', '}']
  | .eachOpen gap name => ['{', '{', '#', 'e', 'a', 'c', 'h'] ++ gap ++ name ++ ['}', '}']
  | .eachClose => ['{', '{', '/', 'e', 'a', 'c', 'h', '}', '}']

/-- The name that a tag carries, if its kind has one. -/
def name? : Tag → Option Text
  | .variable name | .ifOpen _ name | .eachOpen _ name => some name
  | .elseMark | .ifClose | .eachClose => none

/-- A tag whose name and gap are proper: the tags of the grammar. -/
def Proper : Tag → Prop
  | .variable name => IsName name
  | .ifOpen gap name | .eachOpen gap name => IsGap gap ∧ IsName name
  | .elseMark | .ifClose | .eachClose => True

/-! ## Reading a tag -/

/-- A name and the braces that close its tag. -/
def scanName (s : Text) : Option (Text × Text) :=
  match s.takeWhile isNameChar, s.dropWhile isNameChar with
  | c :: name, '}' :: '}' :: rest => some (c :: name, rest)
  | _, _ => none

/-- A gap, then a name and the braces that close its tag. -/
def scanGapName (s : Text) : Option (Text × Text × Text) :=
  match s.takeWhile isBlank with
  | [] => none
  | c :: gap => (scanName (s.dropWhile isBlank)).map fun (name, rest) => (c :: gap, name, rest)

/-- The tag at the head of a text and the text after it. -/
def scan : Text → Option (Tag × Text)
  | '{' :: '{' :: '#' :: 'i' :: 'f' :: s =>
    (scanGapName s).map fun (gap, name, rest) => (.ifOpen gap name, rest)
  | '{' :: '{' :: '#' :: 'e' :: 'a' :: 'c' :: 'h' :: s =>
    (scanGapName s).map fun (gap, name, rest) => (.eachOpen gap name, rest)
  | '{' :: '{' :: '#' :: 'e' :: 'l' :: 's' :: 'e' :: '}' :: '}' :: rest => some (.elseMark, rest)
  | '{' :: '{' :: '/' :: 'i' :: 'f' :: '}' :: '}' :: rest => some (.ifClose, rest)
  | '{' :: '{' :: '/' :: 'e' :: 'a' :: 'c' :: 'h' :: '}' :: '}' :: rest => some (.eachClose, rest)
  | '{' :: '{' :: s => (scanName s).map fun (name, rest) => (.variable name, rest)
  | _ => none

theorem eq_of_scanName {s name rest : Text} (h : scanName s = some (name, rest)) :
    s = name ++ ['}', '}'] ++ rest := by
  unfold scanName at h
  split at h
  next c n r hn hr =>
    cases h
    have := List.takeWhile_append_dropWhile (p := isNameChar) (l := s)
    rw [← this, hn, hr]
    simp
  next => cases h

theorem eq_of_scanGapName {s gap name rest : Text} (h : scanGapName s = some (gap, name, rest)) :
    s = gap ++ name ++ ['}', '}'] ++ rest := by
  unfold scanGapName at h
  split at h
  next => cases h
  next c g hg =>
    simp only [Option.map_eq_some_iff, Prod.exists, Prod.mk.injEq] at h
    obtain ⟨n, r, hscan, rfl, rfl, rfl⟩ := h
    have := List.takeWhile_append_dropWhile (p := isBlank) (l := s)
    rw [← this, hg, eq_of_scanName hscan]
    simp

/-- What `scan` reads is the spelling of the tag it answers. -/
theorem eq_spelling_of_scan {s rest : Text} {tag : Tag} (h : scan s = some (tag, rest)) :
    s = tag.spelling ++ rest := by
  unfold scan at h
  split at h
  case h_1 | h_2 =>
    simp only [Option.map_eq_some_iff, Prod.exists, Prod.mk.injEq] at h
    obtain ⟨gap, name, r, hscan, rfl, rfl⟩ := h
    simp [spelling, eq_of_scanGapName hscan]
  case h_3 | h_4 | h_5 => cases h; rfl
  case h_6 =>
    simp only [Option.map_eq_some_iff, Prod.exists, Prod.mk.injEq] at h
    obtain ⟨name, r, hscan, rfl, rfl⟩ := h
    simp [spelling, eq_of_scanName hscan]
  case h_7 => cases h

theorem spelling_ne_nil (tag : Tag) : tag.spelling ≠ [] := by cases tag <;> simp [spelling]

/-- Reading a tag uses up at least one character. -/
theorem length_lt_of_scan {s rest : Text} {tag : Tag} (h : scan s = some (tag, rest)) :
    rest.length < s.length := by
  have : 0 < tag.spelling.length := List.length_pos_iff.2 (spelling_ne_nil tag)
  rw [eq_spelling_of_scan h, List.length_append]
  omega

end Tag

end Stencil.Template
