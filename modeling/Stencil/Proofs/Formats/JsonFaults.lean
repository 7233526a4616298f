import Mathlib
import Stencil.Formats.Json
import Stencil.Proofs.Failure

/-!
# What a JSON document fails at

A text that is not written in the format is malformed, and that is described to the user. One fault is
not: an integer of more digits than are read. `fault_of_read` says that there is no other.

A reader works at the head of a text and leaves a tail of it behind, so what it fails at stands in the
text (`Reads`). Sequences of readers have this from their parts, and the readers of values, elements and
members have it together, by induction on the fuel that they share.
-/

namespace Stencil.Json

variable {α β : Type} {s rest : Text}

/-- A text in which more digits stand in a row than an integer may have. -/
def LongNumber (s : Text) : Prop :=
  ∃ digits, digits <:+: s ∧ (∀ c ∈ digits, c.isDigit = true) ∧
    Decimal.longestInteger < digits.length

/-- The faults that reading a text may have. -/
inductive Fault (s : Text) : DocumentError → Prop
  | malformed : Fault s .malformed
  | long : LongNumber s → Fault s .badValue

theorem Fault.of_suffix {fault : DocumentError} (h : Fault rest fault) (hrest : rest <:+ s) :
    Fault s fault := by
  cases h with
  | malformed => exact .malformed
  | long h =>
    obtain ⟨digits, hdigits, hall, hlength⟩ := h
    exact .long ⟨digits, hdigits.trans hrest.isInfix, hall, hlength⟩

/-- A reader at the head of a text leaves a tail of it behind, or fails at something in it. -/
structure Reads (s : Text) (x : Except DocumentError (α × Text)) : Prop where
  rest : Yields (fun r => r.2 <:+ s) x
  fault : ∀ fault, x = .error fault → Fault s fault

namespace Reads

theorem ok {a : α} (h : rest <:+ s) : Reads s (.ok (a, rest)) := ⟨.ok h, nofun⟩

theorem malformed : Reads (α := α) s (.error .malformed) := by
  refine ⟨.error _, ?_⟩
  rintro _ ⟨⟩
  exact .malformed

/-- What is read behind a reader is read from what that leaves. -/
theorem bind {x : Except DocumentError (α × Text)} {f : α × Text → Except DocumentError (β × Text)}
    (hx : Reads s x) (hf : ∀ a rest, rest <:+ s → Reads s (f (a, rest))) : Reads s (x >>= f) where
  rest := hx.rest.bind fun (a, rest) h => (hf a rest h).rest
  fault := by
    intro fault h
    rcases bind_eq_error_iff.mp h with h | ⟨⟨a, rest⟩, ha, h⟩
    · exact hx.fault fault h
    · exact (hf a rest (hx.rest _ ha)).fault fault h

/-- What reads a tail of a text reads the text. -/
theorem of_suffix {x : Except DocumentError (α × Text)} (h : Reads rest x) (hrest : rest <:+ s) :
    Reads s x where
  rest := fun r hr => (h.rest r hr).trans hrest
  fault := fun fault hfault => (h.fault fault hfault).of_suffix hrest

end Reads

/-! ## Texts -/

theorem skipBlanks_suffix (s : Text) : skipBlanks s <:+ s := List.dropWhile_suffix _

/-- What follows blanks and one more character. -/
theorem suffix_of_skipBlanks {c : Char} (h : skipBlanks s = c :: rest) : rest <:+ s :=
  (List.suffix_cons c rest).trans (h ▸ skipBlanks_suffix s)

theorem unit?_suffix {n : Nat} (h : unit? s = some (n, rest)) : rest <:+ s := by
  unfold unit? at h
  split at h
  next a b c d tail =>
    obtain ⟨_, -, heq⟩ := Option.map_eq_some_iff.mp h
    cases heq
    exact List.suffix_append [a, b, c, d] rest
  next => cases h

theorem unicodeEscape?_suffix {x : Symbol} (h : unicodeEscape? s = some (x, rest)) : rest <:+ s := by
  obtain ⟨⟨high, tail⟩, hunit, h⟩ := Option.bind_eq_some_iff.mp h
  have htail : tail <:+ s := unit?_suffix hunit
  have halone {found : Symbol × Text}
      (h : (Symbol.ofCode? high).map (fun x => (x, tail)) = some found) : found.2 <:+ s := by
    obtain ⟨_, -, rfl⟩ := Option.map_eq_some_iff.mp h
    exact htail
  dsimp only at h
  split at h
  next more =>
    have hmore : more <:+ s := (List.suffix_append ['\\', 'u'] more).trans htail
    split at h
    next =>
      obtain ⟨⟨low, after⟩, hlow, h⟩ := Option.bind_eq_some_iff.mp h
      dsimp only at h
      split at h
      next =>
        cases h
        exact (unit?_suffix hlow).trans hmore
      next => exact halone h
    next => exact halone h
  next => exact halone h

theorem string?_suffix {fuel : Nat} {content : Symbols} (h : string? fuel s = some (content, rest)) :
    rest <:+ s := by
  induction fuel generalizing s content rest with
  | zero => cases h
  | succ fuel ih =>
    unfold string? at h
    -- What is left behind the head of the text is read further, and the head put in front.
    have hmore {tail : Text} {x : Symbol} (htail : tail <:+ s)
        (h : ((string? fuel tail).bind fun found => some (x :: found.1, found.2)) =
          some (content, rest)) : rest <:+ s := by
      obtain ⟨⟨_, _⟩, hcontent, heq⟩ := Option.bind_eq_some_iff.mp h
      cases heq
      exact (ih hcontent).trans htail
    dsimp only at h
    split at h
    next => cases h
    next =>
      cases h
      exact List.suffix_cons _ _
    next tail =>
      obtain ⟨⟨x, after⟩, hescape, h⟩ := Option.bind_eq_some_iff.mp h
      exact hmore ((unicodeEscape?_suffix hescape).trans (List.suffix_append ['\\', 'u'] tail)) h
    next e tail _ =>
      obtain ⟨c, -, h⟩ := Option.bind_eq_some_iff.mp h
      exact hmore (List.suffix_append ['\\', e] tail) h
    next c tail _ _ _ =>
      split at h
      next => cases h
      next => exact hmore (List.suffix_cons c tail) h

/-! ## Numbers -/

theorem fraction_suffix (s : Text) : (fraction s).2 <:+ s := by
  unfold fraction
  split
  next tail =>
    split
    next => exact List.suffix_rfl
    next => exact (List.dropWhile_suffix _).trans (List.suffix_cons _ _)
  next => exact List.suffix_rfl

theorem signed_suffix (s : Text) : (Decimal.signed s).2 <:+ s := by
  unfold Decimal.signed
  split
  next => exact List.suffix_cons _ _
  next => exact List.suffix_cons _ _
  next => exact List.suffix_rfl

theorem exponent_suffix (s : Text) : (exponent s).2 <:+ s := by
  unfold exponent
  split
  next e tail =>
    have hsigned : (Decimal.signed tail).2 <:+ e :: tail :=
      (signed_suffix tail).trans (List.suffix_cons e tail)
    dsimp only
    split
    next => exact List.suffix_rfl
    next =>
      split
      next => exact (List.dropWhile_suffix _).trans hsigned
      next => exact List.suffix_rfl
  next => exact List.suffix_rfl

theorem reads_number (negative : Bool) (s : Text) : Reads s (number negative s) := by
  unfold number
  extract_lets behind
  -- Whatever digits a number begins with, it goes on with a fraction and an exponent or ends.
  have hbehind {digits rest : Text} (hbegins : digits <+: s) (hall : ∀ c ∈ digits, c.isDigit = true)
      (hrest : rest <:+ s) : Reads s (behind (digits, rest)) := by
    have hlast : (exponent (fraction rest).2).2 <:+ s :=
      (exponent_suffix _).trans ((fraction_suffix rest).trans hrest)
    dsimp only [behind]
    split
    next =>
      unfold readInteger
      split
      next hlong =>
        refine ⟨.error _, ?_⟩
        rintro _ ⟨⟩
        exact .long ⟨digits, hbegins.isInfix, hall, hlong⟩
      next => exact .ok hlast
    next => exact .ok hlast
  split
  next tail => exact hbehind ⟨tail, rfl⟩ (by simp) (List.suffix_cons _ _)
  next =>
    split
    next => exact .malformed
    next =>
      exact hbehind (List.takeWhile_prefix _) (fun c hc => List.mem_takeWhile_imp hc)
        (List.dropWhile_suffix _)

theorem after?_suffix {start : Text} (h : Text.after? start s = some rest) : rest <:+ s := by
  fun_induction Text.after? start s with
  | case1 s =>
    cases h
    exact List.suffix_rfl
  | case2 => cases h
  | case3 _ c s ih => exact (ih h).trans (List.suffix_cons c s)
  | case4 => cases h

theorem reads_scalar (s : Text) : Reads s (scalar s) := by
  unfold scalar
  split
  next found hfound =>
    obtain ⟨_, ⟨word, v⟩, _, -, hword, -⟩ := List.findSome?_eq_some_iff.mp hfound
    obtain ⟨rest, hrest, rfl⟩ := Option.map_eq_some_iff.mp hword
    exact .ok (after?_suffix hrest)
  next =>
    split
    next tail _ => exact (reads_number true tail).of_suffix (List.suffix_cons _ _)
    next => exact reads_number false s

/-! ## Values -/

/-- The readers that share a fuel. -/
structure ReadsWithin (fuel : Nat) : Prop where
  value : ∀ s, Reads s (Json.value fuel s)
  elements : ∀ s, Reads s (Json.elements fuel s)
  members : ∀ s, Reads s (Json.members fuel s)

theorem readsWithin (fuel : Nat) : ReadsWithin fuel := by
  induction fuel with
  | zero => exact ⟨fun _ => .malformed, fun _ => .malformed, fun _ => .malformed⟩
  | succ fuel ih =>
    refine ⟨?_, ?_, ?_⟩
    · intro s
      unfold Json.value
      split
      next tail =>
        have htail : tail <:+ '"' :: tail := List.suffix_cons _ _
        split
        next content rest hcontent => exact .ok ((string?_suffix hcontent).trans htail)
        next => exact .malformed
      next tail =>
        have htail : tail <:+ '[' :: tail := List.suffix_cons _ _
        split
        next rest hblank => exact .ok ((suffix_of_skipBlanks hblank).trans htail)
        next =>
          refine .bind ((ih.elements _).of_suffix ((skipBlanks_suffix tail).trans htail)) ?_
          exact fun _ rest hrest => .ok hrest
      next tail =>
        have htail : tail <:+ '{' :: tail := List.suffix_cons _ _
        split
        next rest hblank => exact .ok ((suffix_of_skipBlanks hblank).trans htail)
        next =>
          refine .bind ((ih.members _).of_suffix ((skipBlanks_suffix tail).trans htail)) ?_
          exact fun _ rest hrest => .ok hrest
      next => exact reads_scalar s
    · intro s
      rw [Json.elements]
      refine .bind (ih.value s) fun v rest hrest => ?_
      dsimp only
      split
      next tail hblank => exact .ok ((suffix_of_skipBlanks hblank).trans hrest)
      next tail hblank =>
        have htail : tail <:+ s := (suffix_of_skipBlanks hblank).trans hrest
        refine .bind ((ih.elements _).of_suffix ((skipBlanks_suffix tail).trans htail)) ?_
        exact fun _ rest hrest => .ok hrest
      next => exact .malformed
    · intro s
      unfold Json.members
      dsimp only
      split
      next tail =>
        have htail : tail <:+ '"' :: tail := List.suffix_cons _ _
        split
        next => exact .malformed
        next key rest hkey =>
          have hrest : rest <:+ '"' :: tail := (string?_suffix hkey).trans htail
          split
          next after hblank =>
            have hafter : after <:+ '"' :: tail := (suffix_of_skipBlanks hblank).trans hrest
            refine .bind ((ih.value _).of_suffix ((skipBlanks_suffix after).trans hafter)) ?_
            intro v rest hrest
            dsimp only
            split
            next last hblank => exact .ok ((suffix_of_skipBlanks hblank).trans hrest)
            next last hblank =>
              have hlast : last <:+ '"' :: tail := (suffix_of_skipBlanks hblank).trans hrest
              refine .bind ((ih.members _).of_suffix ((skipBlanks_suffix last).trans hlast)) ?_
              exact fun _ rest hrest => .ok hrest
            next => exact .malformed
          next => exact .malformed
      next => exact .malformed

/-- **A JSON document is malformed or has an integer of too many digits**, when it is not read. -/
theorem fault_of_read {fault : DocumentError} (h : read s = .error fault) : Fault s fault := by
  rcases bind_eq_error_iff.mp h with h | ⟨⟨v, rest⟩, -, h⟩
  · exact (((readsWithin _).value _).fault fault h).of_suffix (skipBlanks_suffix s)
  · dsimp only at h
    split at h
    next => cases h
    next =>
      cases h
      exact .malformed

end Stencil.Json
