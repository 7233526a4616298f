import Stencil.Text.Emoji

/-!
# Console markup

The console gives styles to text by tags in square brackets. A tag is a bracket, a small letter or
one of `#`, `/`, `@`, and everything up to the next closing bracket, as long as no other bracket opens
before it. A backslash in front of a tag makes it plain text, and two backslashes in front of a tag
stand for one. Between tags, emoji may be given by their names.

`escape` makes text without tags of any text, and `plain` is what the console shows of a text with tags.
-/

namespace Stencil.Markup

/-- Whether a character may come first in a tag. -/
def opensTag (c : Char) : Bool := c.isLower || c == '#' || c == '/' || c == '@'

/-- Whether a character may stand inside a tag. -/
def staysInTag (c : Char) : Bool := c != '[' && c != ']'

/-- The tag at the head of a text, with its brackets, and the text after it. -/
def tag? : Text → Option (Text × Text)
  | '[' :: c :: s =>
    if opensTag c then
      match s.dropWhile staysInTag with
      | ']' :: rest => some ('[' :: c :: s.takeWhile staysInTag ++ [']'], rest)
      | _ => none
    else none
  | _ => none

theorem length_lt_of_tag? {s tag rest : Text} (h : tag? s = some (tag, rest)) :
    rest.length < s.length := by
  unfold tag? at h
  split at h
  next c t =>
    split at h
    next =>
      split at h
      next r hr =>
        cases h
        have := (List.dropWhile_sublist staysInTag (l := t)).length_le
        rw [hr] at this
        simp only [List.length_cons] at this ⊢
        omega
      next => cases h
    next => cases h
  next => cases h

/-- A text in which a tag or a run of backslashes has been told apart from the characters between. -/
inductive Item where
  /-- A tag behind a number of backslashes. -/
  | tag (backslashes : Nat) (tag : Text)
  /-- A character that begins no tag. -/
  | char (c : Char)

/-- The items of a text. Backslashes belong to a tag when they stand right before it. -/
def items (s : Text) : List Item :=
  let slashes := s.takeWhile (· == '\\')
  match _h : tag? (s.dropWhile (· == '\\')) with
  | some (tag, rest) => .tag slashes.length tag :: items rest
  | none =>
    match s with
    | [] => []
    | c :: rest => .char c :: items rest
termination_by s.length
decreasing_by
  · have := length_lt_of_tag? _h
    have := (List.dropWhile_sublist (· == '\\') (l := s)).length_le
    omega
  · simp

/-- A final backslash that stands alone is doubled, so that it cannot reach what follows. -/
def guardEnd (s : Text) : Text :=
  match s.reverse with
  | '\\' :: '\\' :: _ => s
  | '\\' :: _ => s ++ ['\\']
  | _ => s

/-- A text as the markup that shows it. -/
def escape (s : Text) : Text :=
  guardEnd ((items s).flatMap fun
    | .tag backslashes tag => List.replicate (2 * backslashes + 1) '\\' ++ tag
    | .char c => [c])

/-- A text in the markup of a style. -/
def styled (style s : Text) : Text :=
  ['['] ++ style ++ [']'] ++ s ++ ['[', '/'] ++ style ++ [']']

/-- A stretch between tags, in which a backslash before an opening bracket is not shown. -/
def shownStretch : Text → Text
  | '\\' :: '[' :: rest => '[' :: shownStretch rest
  | c :: rest => c :: shownStretch rest
  | [] => []

/-- The shown text of the items, with the stretch read so far. -/
def shownItems (stretch : Text) : List Item → Text
  | [] => Emoji.shown (shownStretch stretch)
  | .char c :: rest => shownItems (stretch ++ [c]) rest
  | .tag backslashes tag :: rest =>
    Emoji.shown (shownStretch stretch) ++ List.replicate (backslashes / 2) '\\' ++
      (if backslashes % 2 = 1 then Emoji.shown tag else []) ++ shownItems [] rest

/-- What the console shows of a text with tags. -/
def plain (s : Text) : Text := shownItems [] (items s)

end Stencil.Markup
