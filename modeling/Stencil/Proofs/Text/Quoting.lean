import Stencil.Formats.Document
import Stencil.Text.Quoted

/-!
# Reading quoted texts back

No two texts are quoted alike (`Text.quoted_inj`). The first character of a quoted text is its quote, and
with the quote known the characters are read back one by one (`written?`): what follows a character in the
quoted text has no say in which character it is. A backslash is never a character of its own, the letter
or quote behind it says what it stands for, and a code point has as many digits as the letter in front of
it announces.
-/

namespace Stencil

/-! ## Hexadecimal numerals -/

theorem hexNumber?_append_singleton (digits : Text) (c : Char) :
    hexNumber? (digits ++ [c]) =
      (hexNumber? digits).bind fun n => (hexDigit? c).map (n * 16 + ·) := by
  rw [hexNumber?, List.foldl_append]
  rfl

/-- The digits of a number are read back to it. -/
theorem hexNumber?_toDigits (n : Nat) : hexNumber? (Nat.toDigits 16 n) = some n := by
  have hdigit : ∀ d < 16, hexDigit? (Nat.digitChar d) = some d := by decide
  induction n using Nat.strongRecOn with
  | ind n ih =>
    by_cases hn : n < 16
    · rw [Nat.toDigits_of_lt_base hn, ← List.nil_append [n.digitChar], hexNumber?_append_singleton,
        hdigit n hn]
      exact congrArg some (Nat.zero_add n)
    · rw [Nat.toDigits_of_base_le (by decide) (Nat.le_of_not_lt hn), hexNumber?_append_singleton,
        ih (n / 16) (by omega), hdigit (n % 16) (Nat.mod_lt n (by decide))]
      exact congrArg some (Nat.div_add_mod' n 16)

/-- Leading zeros do not count. -/
theorem hexNumber?_zeros_append (k : Nat) (digits : Text) :
    hexNumber? (List.replicate k '0' ++ digits) = hexNumber? digits := by
  induction k with
  | zero => rfl
  | succ k ih => exact ih

namespace Text

theorem hexNumber?_hexPadded (width n : Nat) : hexNumber? (hexPadded width n) = some n := by
  rw [hexPadded, hexNumber?_zeros_append, hexNumber?_toDigits]

/-- A number that fits has exactly the digits it is given. -/
theorem length_hexPadded {width n : Nat} (hwidth : 0 < width) (h : n < Nat.pow 16 width) :
    (hexPadded width n).length = width := by
  have hdigits : (Nat.toDigits 16 n).length ≤ width :=
    (Nat.length_toDigits_le_iff (by decide) hwidth).mpr h
  rw [hexPadded, List.length_append, List.length_replicate, Nat.sub_add_cancel hdigits]

/-! ## Characters -/

/-- The character that stands at the head of a text between quotes. -/
def written? : Text → Option Char
  | '\\' :: 'n' :: _ => some '\n'
  | '\\' :: 'r' :: _ => some '\r'
  | '\\' :: 't' :: _ => some '\t'
  | '\\' :: 'x' :: s => (hexNumber? (s.take 2)).map Char.ofNat
  | '\\' :: 'u' :: s => (hexNumber? (s.take 4)).map Char.ofNat
  | '\\' :: 'U' :: s => (hexNumber? (s.take 8)).map Char.ofNat
  | '\\' :: c :: _ => some c
  | c :: _ => some c
  | [] => none

/-- A code point is read back from its digits, whatever follows them. -/
theorem ofNat_hexPadded {width : Nat} {c : Char} (hwidth : 0 < width) (h : c.toNat < Nat.pow 16 width)
    (s : Text) : (hexNumber? ((hexPadded width c.toNat ++ s).take width)).map Char.ofNat = some c := by
  rw [List.take_left' (length_hexPadded hwidth h), hexNumber?_hexPadded, Option.map_some,
    Char.ofNat_toNat]

theorem written?_codeEscape (c : Char) (s : Text) : written? (codeEscape c ++ s) = some c := by
  unfold codeEscape
  split
  next h => exact ofNat_hexPadded (by decide) h s
  next =>
    split
    next h => exact ofNat_hexPadded (by decide) h s
    next =>
      have hbound : c.toNat < Nat.pow 16 8 := c.val.toNat_lt
      exact ofNat_hexPadded (by decide) hbound s

/-- **A character inside a quoted text is read back**, whatever follows it. -/
theorem written?_escapedChar {quote : Char} (hquote : quote = '\'' ∨ quote = '"') (c : Char) (s : Text) :
    written? (escapedChar quote c ++ s) = some c := by
  unfold escapedChar
  split
  next h =>
    rcases h with rfl | rfl
    · rfl
    · rcases hquote with rfl | rfl <;> rfl
  next hplain =>
    split
    next h => exact congrArg some h.symm
    next =>
      split
      next h => exact congrArg some h.symm
      next =>
        split
        next h => exact congrArg some h.symm
        next =>
          split
          next =>
            have hslash : c ≠ '\\' := fun h => hplain (.inl h)
            unfold written?
            split <;> simp_all
          next => exact written?_codeEscape c s

/-! ## Texts -/

/-- Texts that are written character by character are the same when they are written alike, if every
character can be told from what is written. -/
theorem flatMap_inj_of_read {write : Char → Text} {read : Text → Option Char} (hnil : read [] = none)
    (h : ∀ c s, read (write c ++ s) = some c) {s t : Text} :
    s.flatMap write = t.flatMap write ↔ s = t := by
  refine ⟨fun heq => ?_, congrArg _⟩
  have hne (c : Char) (u : Text) : write c ++ u ≠ [] := by
    intro hempty
    have hread := h c u
    rw [hempty, hnil] at hread
    cases hread
  induction s generalizing t with
  | nil =>
    cases t with
    | nil => rfl
    | cons d t => exact absurd heq.symm (hne d _)
  | cons c s ih =>
    cases t with
    | nil => exact absurd heq (hne c _)
    | cons d t =>
      rw [List.flatMap_cons, List.flatMap_cons] at heq
      have hread := h c (s.flatMap write)
      rw [heq, h d] at hread
      cases hread
      rw [ih (List.append_cancel_left heq)]

theorem quoteFor_eq (s : Text) : quoteFor s = '\'' ∨ quoteFor s = '"' := by
  unfold quoteFor
  split
  next => exact .inr rfl
  next => exact .inl rfl

/-- **No two texts are quoted alike.** -/
theorem quoted_inj {s t : Text} : s.quoted = t.quoted ↔ s = t := by
  refine ⟨fun h => ?_, congrArg _⟩
  obtain ⟨hquote, hrest⟩ := List.cons.inj h
  rw [hquote] at hrest
  exact (flatMap_inj_of_read rfl (written?_escapedChar (quoteFor_eq t))).mp
    (List.append_cancel_right hrest)

/-- A quoted text ends with its quote. -/
theorem getLast?_quoted (s : Text) : s.quoted.getLast? = some (quoteFor s) := List.getLast?_concat

end Text

end Stencil
