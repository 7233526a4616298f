/-!
# Text

A text is the list of its code points. Offsets, columns and lengths of this library count code
points, so every law about positions is a law of lists, and nothing here depends on how a text is
stored as bytes.

The module holds the few operations on texts that the rest of the library shares: decimal numerals,
joining, splitting at a character, and the lower case of the Latin letters.
-/

namespace Stencil

/-- A text: its code points in order. -/
abbrev Text := List Char

instance : Coe String Text := ⟨String.toList⟩

namespace Text

/-- The decimal numeral of a natural number. -/
def ofNat (n : Nat) : Text := Nat.toDigits 10 n

/-- A number that is not below a power of ten has more digits than the power has zeros. -/
theorem lt_length_ofNat {k n : Nat} (hk : 0 < k) (hn : Nat.pow 10 k ≤ n) : k < (ofNat n).length := by
  rw [← Nat.not_le, ofNat, Nat.length_toDigits_le_iff (by decide) hk]
  exact Nat.not_lt.mpr hn

/-- The decimal numeral of an integer, with a sign only when it is negative. -/
def ofInt : Int → Text
  | .ofNat n => ofNat n
  | .negSucc n => '-' :: ofNat (n + 1)

/-- A numeral brought to at least `width` characters by zeros on the left. -/
def zeroPadded (width n : Nat) : Text :=
  let digits := ofNat n
  List.replicate (width - digits.length) '0' ++ digits

/-- The texts in order, with `separator` between neighbours. -/
def joined (separator : Text) (parts : List Text) : Text := separator.intercalate parts

/-- The parts of a text between the occurrences of `separator`; a text without one is a single part. -/
def parts (separator : Char) : Text → List Text
  | [] => [[]]
  | c :: rest =>
    if c = separator then [] :: parts separator rest
    else match parts separator rest with
      | [] => [[c]]
      | part :: others => (c :: part) :: others

theorem parts_ne_nil (separator : Char) (s : Text) : parts separator s ≠ [] := by
  cases s with
  | nil => exact List.cons_ne_nil _ _
  | cons c rest =>
    rw [parts]
    split
    next => exact List.cons_ne_nil _ _
    next => split <;> exact List.cons_ne_nil _ _

/-- A text is one part where the separator is not in it. -/
theorem parts_of_notMem {separator : Char} {s : Text} (h : separator ∉ s) : parts separator s = [s] := by
  induction s with
  | nil => rfl
  | cons c rest ih =>
    rw [List.mem_cons, not_or] at h
    rw [parts, if_neg (Ne.symm h.1), ih h.2]

/-- In a row, the parts are the text without the separators. -/
theorem flatten_parts (separator : Char) (s : Text) :
    (parts separator s).flatten = s.filter (· ≠ separator) := by
  induction s with
  | nil => rfl
  | cons c rest ih =>
    rw [parts]
    split
    next hc => rw [List.flatten_cons, ih, List.filter_cons_of_neg (by simp [hc]), List.nil_append]
    next hc =>
      rw [List.filter_cons_of_pos (by simp [hc]), ← ih]
      split
      next hnil => exact absurd hnil (parts_ne_nil separator rest)
      next part others hparts =>
        rw [hparts]
        rfl

/-- What is in a part of a text is in the text. -/
theorem mem_of_mem_parts {separator c : Char} {s part : Text} (h : part ∈ parts separator s)
    (hc : c ∈ part) : c ∈ s := by
  have hmem := List.mem_flatten_of_mem h hc
  rw [flatten_parts] at hmem
  exact (List.mem_filter.mp hmem).1

/-- The parts of a text do not hold the character that it was cut at. -/
theorem notMem_of_mem_parts {separator : Char} {s part : Text} (h : part ∈ parts separator s) :
    separator ∉ part := by
  intro hc
  have hmem := List.mem_flatten_of_mem h hc
  rw [flatten_parts] at hmem
  simp at hmem

/-- Cuts a list at the first `most` occurrences of a separator. While `skip` is not zero the list is
inside an occurrence. -/
def splitFrom {α : Type} [BEq α] (separator : List α) : (most skip : Nat) → List α → List (List α)
  | _, _, [] => [[]]
  | most, skip + 1, _ :: rest => splitFrom separator most skip rest
  | most, 0, c :: rest =>
    if 0 < most ∧ separator.isPrefixOf (c :: rest) then
      [] :: splitFrom separator (most - 1) (separator.length - 1) rest
    else match splitFrom separator most 0 rest with
      | [] => [[c]]
      | part :: others => (c :: part) :: others

/-- The parts of a text, or of another list, between the first `most` occurrences of a separator. -/
def split {α : Type} [BEq α] (separator : List α) (most : Nat) (s : List α) : List (List α) :=
  splitFrom separator most 0 s

/-- The text without its first and its last character. -/
def inner (s : Text) : Text := (s.drop 1).dropLast

/-- The text before the first `separator` and the text after it; nothing when it does not occur. -/
def cut (separator : Char) : Text → Option (Text × Text)
  | [] => none
  | c :: rest =>
    if c = separator then some ([], rest)
    else (cut separator rest).map fun (before, after) => (c :: before, after)

/-- The text with every Latin capital A to Z in lower case. -/
def lowered (s : Text) : Text := s.map Char.toLower

/-- The text after `start`, when the text begins with it. -/
def after? : Text → Text → Option Text
  | [], s => some s
  | _ :: _, [] => none
  | c :: start, d :: s => if c = d then after? start s else none

end Text

end Stencil
