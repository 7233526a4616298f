import Stencil.Text.Quoted

/-!
# Symbols

Data formats write characters by number, and a number may be that of one half of a pair: of the two
units that stand for a character beyond the first 65,536. A half that stands alone is no character, so
what holds one is no text. It is a list of symbols, which may be quoted, and written where something
else may stand for its halves, but not encoded.

Halves that stand side by side stay two symbols.
-/

namespace Stencil

/-- A character, or one half of a pair: the first 1,024 halves come first in a pair, the others
second. -/
inductive Symbol where
  | char (c : Char)
  | half (n : Fin 0x800)
deriving DecidableEq, Repr, Inhabited

/-- Symbols in order. -/
abbrev Symbols := List Symbol

namespace Symbol

/-- The number of the first half. -/
def firstHalf : Nat := 0xD800

/-- The number of a symbol. -/
def code : Symbol → Nat
  | .char c => c.toNat
  | .half n => firstHalf + n

/-- The symbol of a number, if it is not too large. -/
def ofCode? (n : Nat) : Option Symbol :=
  if n.isValidChar then some (.char (Char.ofNat n))
  else if h : firstHalf ≤ n ∧ n - firstHalf < 0x800 then some (.half ⟨n - firstHalf, h.2⟩)
  else none

/-- The character that a symbol is. -/
def char? : Symbol → Option Char
  | .char c => some c
  | .half _ => none

/-- A symbol as text: a half is written by its number, as in a quoted text. -/
def spelled : Symbol → Text
  | .char c => [c]
  | .half n => ['\\', 'u'] ++ Text.hexPadded 4 (firstHalf + n)

/-- A symbol inside a quoted text. -/
def escaped (quote : Char) : Symbol → Text
  | .char c => Text.escapedChar quote c
  | s => s.spelled

end Symbol

namespace Symbols

/-- A text as its symbols. -/
def ofText (s : Text) : Symbols := s.map .char

/-- The text that symbols are, if there is no half among them. -/
def text? (s : Symbols) : Option Text := s.mapM Symbol.char?

/-- The text with a character in the place of every half. -/
def filled (c : Char) (s : Symbols) : Text := s.map fun x => x.char?.getD c

/-- The text with the number of every half in its place. -/
def spelled (s : Symbols) : Text := s.flatMap Symbol.spelled

/-- Symbols between quotes. -/
def quoted (s : Symbols) : Text :=
  let quote := Text.quoteFor (s.filterMap Symbol.char?)
  [quote] ++ s.flatMap (Symbol.escaped quote) ++ [quote]

@[simp]
theorem text?_ofText (s : Text) : text? (ofText s) = some s := by
  induction s with
  | nil => rfl
  | cons c s ih =>
    simp only [text?, ofText, List.map_cons, List.mapM_cons] at ih ⊢
    simp [ih, Symbol.char?]

/-- Symbols are a text when they are the symbols of that text. -/
theorem text?_eq_some_iff {x : Symbols} {s : Text} : x.text? = some s ↔ x = ofText s := by
  constructor
  · intro h
    induction x generalizing s with
    | nil =>
      cases h
      rfl
    | cons symbol rest ih =>
      rw [text?, List.mapM_cons] at h
      obtain ⟨c, hc, h⟩ := Option.bind_eq_some_iff.mp h
      obtain ⟨t, ht, h⟩ := Option.bind_eq_some_iff.mp h
      cases h
      cases symbol with
      | half n => cases hc
      | char d =>
        cases hc
        exact congrArg (Symbol.char c :: ·) (ih ht)
  · rintro rfl
    exact text?_ofText s

/-- The texts that lists of symbols are have their symbols among them. -/
theorem mem_of_mapM_text? {xs : List Symbols} {texts : List Text} (h : xs.mapM text? = some texts) :
    ∀ s ∈ texts, ofText s ∈ xs := by
  induction xs generalizing texts with
  | nil =>
    cases h
    exact List.forall_mem_nil _
  | cons x xs ih =>
    rw [List.mapM_cons] at h
    obtain ⟨s, hs, h⟩ := Option.bind_eq_some_iff.mp h
    obtain ⟨rest, hrest, h⟩ := Option.bind_eq_some_iff.mp h
    cases h
    rw [text?_eq_some_iff.mp hs]
    exact List.forall_mem_cons.mpr
      ⟨List.mem_cons_self, fun t ht => List.mem_cons_of_mem _ (ih hrest t ht)⟩

end Symbols

end Stencil
