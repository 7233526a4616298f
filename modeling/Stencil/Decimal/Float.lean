import Stencil.Text.Basic
import Stencil.Decimal.Shortest

/-!
# Floating-point numerals

How a floating-point number is written and read. Between one ten-thousandth and ten to the sixteenth
the point stands in its place and at least one digit follows it; beyond that one digit stands before
the point and an exponent of at least two digits follows. The digits are the shortest that read back.
-/

namespace Stencil.Decimal

/-- The digits before and after a point that stands behind `point` of them. -/
def positional (digits : Text) (point : Int) : Text :=
  if point ≤ 0 then ['0', '.'] ++ List.replicate (-point).toNat '0' ++ digits
  else if digits.length ≤ point then
    digits ++ List.replicate (point.toNat - digits.length) '0' ++ ['.', '0']
  else digits.take point.toNat ++ ['.'] ++ digits.drop point.toNat

/-- One digit, the others after a point, and the exponent of ten. -/
def scientific (digits : Text) (exponent : Int) : Text :=
  let fraction := match digits.drop 1 with
    | [] => []
    | rest => '.' :: rest
  digits.take 1 ++ fraction ++ ['e', if exponent < 0 then '-' else '+'] ++
    Text.zeroPadded 2 exponent.natAbs

/-- A magnitude that is neither zero nor infinite. -/
def writtenMagnitude (x : Binary) : Text :=
  let (digits, point) := x.shortest
  if -4 < point ∧ point ≤ 16 then positional digits point else scientific digits (point - 1)

/-- Whether a number is not a number. -/
def isNotANumber (x : Float) : Bool :=
  (Binary.ofBits x.toBits).isNone && x.toBits &&& 0xFFFFFFFFFFFFF != 0

/-- A floating-point number as written. -/
def written (x : Float) : Text :=
  let sign : Text := if x.toBits >>> 63 = 1 then ['-'] else []
  match Binary.ofBits x.toBits with
  | none => if isNotANumber x then "nan" else sign ++ "inf"
  | some x => sign ++ (if x.significand = 0 then ("0.0" : Text) else writtenMagnitude x)

/-- The positive infinity. -/
def infinity : Float := 1.0 / 0.0

/-- Not a number. -/
def notANumber : Float := 0.0 / 0.0

/-- The number nearest to `digits * 10 ^ exponent`. Beyond the largest number it is infinite, and a
magnitude too small for any number is zero. -/
def nearest (negative : Bool) (digits : Nat) (exponent : Int) : Float :=
  let size : Int := (Nat.toDigits 10 digits).length + exponent
  let magnitude :=
    if digits = 0 ∨ size < -400 then 0.0
    else if 400 < size then infinity
    else Float.ofScientific digits (exponent < 0) exponent.natAbs
  if negative then -magnitude else magnitude

/-- The integer that a number is equal to, if there is one. -/
def toInt? (x : Float) : Option Int :=
  match Binary.ofBits x.toBits with
  | none => none
  | some b =>
    let shift := (-b.exponent).toNat
    let magnitude := b.significand * Nat.pow 2 b.exponent.toNat
    if magnitude % Nat.pow 2 shift = 0 then
      let whole := magnitude / Nat.pow 2 shift
      some (if x.toBits >>> 63 = 1 then -(whole : Int) else whole)
    else none

/-- The greatest number of digits that a decimal integer may be written with. -/
def longestInteger : Nat := 4300

/-- The value of a run of decimal digits. -/
def ofDigits (digits : Text) : Nat :=
  digits.foldl (fun n c => n * 10 + (c.toNat - '0'.toNat)) 0

/-! ## Reading -/

/-- A sign at the head of a text: whether it is a minus, and the text after it. -/
def signed : Text → Bool × Text
  | '-' :: s => (true, s)
  | '+' :: s => (false, s)
  | s => (false, s)

/-- The exponent at the end of a numeral: a letter e, a sign or none, and digits. -/
def exponent? : Text → Option Int
  | [] => some 0
  | e :: s =>
    let (negative, digits) := signed s
    if (e = 'e' || e = 'E') && digits ≠ [] && digits.all Char.isDigit then
      some (if negative then -(ofDigits digits : Int) else ofDigits digits)
    else none

/-- The number that a numeral stands for: a sign or none, digits with at most one point among them or
at an end, and an exponent or none. -/
def ofNumeral? (s : Text) : Option Float :=
  let (negative, s) := signed s
  let whole := s.takeWhile Char.isDigit
  let afterWhole := s.dropWhile Char.isDigit
  let (fraction, rest) : Text × Text := match afterWhole with
    | '.' :: t => (t.takeWhile Char.isDigit, t.dropWhile Char.isDigit)
    | t => ([], t)
  if whole = [] ∧ fraction = [] then none
  else (exponent? rest).map fun e => nearest negative (ofDigits (whole ++ fraction)) (e - fraction.length)

end Stencil.Decimal
