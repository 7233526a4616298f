import Stencil.Decimal.Float
import Stencil.Text.Blank

/-!
# Numerals as they are typed

A number that somebody typed may have blanks around it, a sign, the digits of any script, and a
single underscore between two digits. A numeral in base two, eight or sixteen may say so in front of
its digits.
-/

namespace Stencil.Decimal

/-- The zeros of all scripts; the digits one to nine follow each of them. -/
def scriptZeros : List Nat := [
  0x30, 0x660, 0x6F0, 0x7C0, 0x966, 0x9E6, 0xA66, 0xAE6, 0xB66, 0xBE6, 0xC66, 0xCE6, 0xD66, 0xDE6,
  0xE50, 0xED0, 0xF20, 0x1040, 0x1090, 0x17E0, 0x1810, 0x1946, 0x19D0, 0x1A80, 0x1A90, 0x1B50,
  0x1BB0, 0x1C40, 0x1C50, 0xA620, 0xA8D0, 0xA900, 0xA9D0, 0xA9F0, 0xAA50, 0xABF0, 0xFF10, 0x104A0,
  0x10D30, 0x11066, 0x110F0, 0x11136, 0x111D0, 0x112F0, 0x11450, 0x114D0, 0x11650, 0x116C0, 0x11730,
  0x118E0, 0x11950, 0x11C50, 0x11D50, 0x11DA0, 0x16A60, 0x16AC0, 0x16B50, 0x1D7CE, 0x1D7D8, 0x1D7E2,
  0x1D7EC, 0x1D7F6, 0x1E140, 0x1E2F0, 0x1E950, 0x1FBF0]

/-- A digit of any script as the digit of ASCII, and any other character as itself. -/
def plainDigit (c : Char) : Char :=
  match scriptZeros.find? fun first => first ≤ c.toNat && c.toNat < first + 10 with
  | some first => Char.ofNat ('0'.toNat + (c.toNat - first))
  | none => c

/-- Whether a character may stand around a numeral: every blank but the four separators. -/
def isMargin (c : Char) : Bool := isBlank c && !(28 ≤ c.toNat && c.toNat ≤ 31)

/-- A typed numeral without the blanks around it, its digits in ASCII. -/
def tidied (s : Text) : Text :=
  (((s.dropWhile isMargin).reverse.dropWhile isMargin).reverse).map plainDigit

/-- The value of a digit below a base. -/
def digitOf? (base : Nat) (c : Char) : Option Nat :=
  let n :=
    if c.isDigit then c.toNat - '0'.toNat
    else if 'a' ≤ c ∧ c ≤ 'z' then c.toNat - 'a'.toNat + 10
    else if 'A' ≤ c ∧ c ≤ 'Z' then c.toNat - 'A'.toNat + 10
    else base
  if n < base then some n else none

/-- The value of digits with single underscores between them. -/
def grouped? (base : Nat) (s : Text) : Option Nat := do
  let groups := Text.parts '_' s
  if groups.any (·.isEmpty) then none
  groups.flatten.foldlM (fun n c => (digitOf? base c).map (n * base + ·)) 0

/-- The letters that announce a base. -/
def baseLetters : Nat → Text
  | 2 => ['b', 'B']
  | 8 => ['o', 'O']
  | 16 => ['x', 'X']
  | _ => []

/-- The digits behind the announcement of a base. -/
def afterBase (base : Nat) (s : Text) : Text :=
  match s with
  | '0' :: letter :: rest =>
    if (baseLetters base).contains letter then
      (match rest with
      | '_' :: rest => rest
      | rest => rest)
    else s
  | _ => s

/-- The integer that was typed. -/
def integer? (base : Nat) (s : Text) : Option Int := do
  let (negative, s) := signed (tidied s)
  if base = 10 ∧ longestInteger < (s.filter (· ≠ '_')).length then none
  let n ← grouped? base (afterBase base s)
  return if negative then -(n : Int) else n

/-- The integer that was typed, in the base that its digits announce, or else in base ten. In base ten
it begins with a zero only if it is zero. -/
def announced? (s : Text) : Option Int := do
  let (negative, s) := signed (tidied s)
  let base := match s with
    | '0' :: letter :: _ => ([2, 8, 16].find? fun b => (baseLetters b).contains letter).getD 10
    | _ => 10
  if base = 10 ∧ longestInteger < (s.filter (· ≠ '_')).length then none
  let n ← grouped? base (afterBase base s)
  if base = 10 ∧ s.head? = some '0' ∧ n ≠ 0 then none
  return if negative then -(n : Int) else n

/-- The text without its underscores, if each of them stands between two digits. -/
def withoutLines : (afterDigit : Bool) → Text → Option Text
  | _, [] => some []
  | afterDigit, '_' :: rest =>
    if afterDigit && rest.head?.any Char.isDigit then withoutLines false rest else none
  | _, c :: rest => (withoutLines c.isDigit rest).map (c :: ·)

/-- The floating-point number that was typed. -/
def number? (s : Text) : Option Float := do
  let s ← withoutLines false (tidied s)
  let (negative, bare) := signed s
  let word := Text.lowered bare
  if word = "inf".toList ∨ word = "infinity".toList then
    return if negative then -infinity else infinity
  else if word = "nan".toList then return notANumber
  else ofNumeral? s

end Stencil.Decimal
