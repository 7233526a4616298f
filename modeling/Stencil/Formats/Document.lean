import Stencil.Decimal.Numeral
import Stencil.Failure
import Stencil.Value.Basic

/-!
# Documents

What the readers of the data formats have in common. A text is read to a value, or it is refused:
because it is not written in the format, or because it is and asks for a value that cannot be made,
such as the thirtieth of February.
-/

namespace Stencil

/-- Why a text is not read to a value. -/
inductive DocumentError where
  /-- The text is not written in the format. -/
  | malformed
  /-- The text asks for a value that does not exist. -/
  | badValue
  /-- The text puts something into a value that has no room for it. -/
  | notTable
  /-- The text stops where something has to follow. -/
  | outOfRange
  /-- The text looks into a value that has no parts. -/
  | noParts
  /-- The text asks for a word that is not in the list of those it may be. -/
  | noEntry
  /-- The text leaves a name without the value it was to have. -/
  | noValue
  /-- The text gives a number that is too large for a character. -/
  | overflow
  /-- The text asks for the characters of a value that has them inside of itself. -/
  | endless
deriving DecidableEq, Repr

/-- What escapes for a text that is refused; nothing for one that is not written in the format, which
is described to the user. -/
def DocumentError.escape? : DocumentError → Option Escape
  | .malformed => none
  | .badValue => some .badValue
  | .notTable => some .notTable
  | .outOfRange => some .outOfRange
  | .noParts => some .noParts
  | .noEntry => some .noEntry
  | .noValue => some .noValue
  | .overflow => some .overflow
  | .endless => some .endless

/-- An integer by its decimal digits. -/
def readInteger (negative : Bool) (digits : Text) : Except DocumentError Value :=
  if Decimal.longestInteger < digits.length then .error .badValue
  else .ok (.int (if negative then -(Decimal.ofDigits digits : Int) else Decimal.ofDigits digits))

/-- The value of a hexadecimal digit. -/
def hexDigit? (c : Char) : Option Nat :=
  if c.isDigit then some (c.toNat - '0'.toNat)
  else if 'a' ≤ c ∧ c ≤ 'f' then some (c.toNat - 'a'.toNat + 10)
  else if 'A' ≤ c ∧ c ≤ 'F' then some (c.toNat - 'A'.toNat + 10)
  else none

/-- The value of a hexadecimal numeral. -/
def hexNumber? (digits : Text) : Option Nat :=
  digits.foldl (fun n c => n.bind fun n => (hexDigit? c).map (n * 16 + ·)) (some 0)

end Stencil
