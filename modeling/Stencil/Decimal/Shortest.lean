/-!
# Shortest decimals

A binary floating-point number stands for the interval of reals that round to it, and its shortest
decimal is the one with the fewest digits inside that interval, the nearest to the number among
those. Everything is exact: a finite number is `significand * 2 ^ exponent`, and the grid of decimals
with a given number of digits is searched in natural-number arithmetic, where only the two
neighbours of the number can be nearest.
-/

namespace Stencil.Decimal

/-- A positive real `significand * 2 ^ exponent`; `lowEdge` marks a significand at the bottom of its
binade, below which numbers lie twice as close. -/
structure Binary where
  significand : Nat
  exponent : Int
  lowEdge : Bool
deriving DecidableEq, Repr

/-- The magnitude of a floating-point number given by its bits; nothing for infinities and NaNs. -/
def Binary.ofBits (bits : UInt64) : Option Binary :=
  let fraction := (bits &&& 0xFFFFFFFFFFFFF).toNat
  let field := ((bits >>> 52) &&& 0x7FF).toNat
  if field = 0x7FF then none
  else if field = 0 then some ⟨fraction, -1074, false⟩
  else some ⟨fraction + Nat.pow 2 52, (field : Int) - 1075, fraction = 0 && 1 < field⟩

/-- Compares `a * 2 ^ p * 10 ^ d` with `b * 2 ^ q`, in whole numbers. -/
def compareScaled (a : Nat) (p d : Int) (b : Nat) (q : Int) : Ordering :=
  let low := min p q
  let left := a * Nat.pow 2 (p - low).toNat * Nat.pow 10 d.toNat
  let right := b * Nat.pow 2 (q - low).toNat * Nat.pow 10 (-d).toNat
  compare left right

namespace Binary

/-- Whether the decimal `n * 10 ^ d` rounds to the number. The ends of the interval belong to it when
the significand is even. -/
def covers (x : Binary) (n : Nat) (d : Int) : Bool :=
  let closed := x.significand % 2 = 0
  let below := if x.lowEdge then 4 * x.significand - 1 else 4 * x.significand - 2
  let above := 4 * x.significand + 2
  let lower := compareScaled n 0 d below (x.exponent - 2)
  let upper := compareScaled n 0 d above (x.exponent - 2)
  (lower == .gt || (closed && lower == .eq)) && (upper == .lt || (closed && upper == .eq))

/-- The whole part of the number divided by `10 ^ d`. -/
def wholePart (x : Binary) (d : Int) : Nat :=
  x.significand * Nat.pow 2 x.exponent.toNat * Nat.pow 10 (-d).toNat /
    (Nat.pow 2 (-x.exponent).toNat * Nat.pow 10 d.toNat)

/-- The number of digits before the decimal point; not positive for numbers below one tenth. -/
def magnitude (x : Binary) : Int :=
  ((Nat.toDigits 10 (x.wholePart (-400))).length : Int) - 400

/-- The nearest point to the number on the grid of multiples of `10 ^ d`, if it rounds to the number.
A tie goes to the even neighbour. -/
def nearest? (x : Binary) (d : Int) : Option Nat :=
  let low := x.wholePart d
  let high := low + 1
  match x.covers low d && low != 0, x.covers high d with
  | false, false => none
  | true, false => some low
  | false, true => some high
  | true, true =>
    match compareScaled (low + high) 0 d (2 * x.significand) x.exponent with
    | .gt => some low
    | .lt => some high
    | .eq => if low % 2 = 0 then some low else some high

/-- Tries grids of ever finer digits, from `10 ^ d` down. -/
def search (x : Binary) : (grids : Nat) → (d : Int) → Nat × Int
  | 0, d => (x.wholePart d, d)
  | grids + 1, d =>
    match x.nearest? d with
    | some n => (n, d)
    | none => search x grids (d - 1)

/-- The digits of the shortest decimal, and where its point stands: the number of digits before it. -/
def shortest (x : Binary) : List Char × Int :=
  let (n, d) := x.search 17 (x.magnitude - 1)
  let digits := Nat.toDigits 10 n
  let kept := (digits.reverse.dropWhile (· == '0')).reverse
  (if kept = [] then ['0'] else kept, digits.length + d)

end Binary

end Stencil.Decimal
