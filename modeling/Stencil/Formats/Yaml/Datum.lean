import Stencil.Formats.Base64
import Stencil.Formats.Yaml.Tag

/-!
# The values of YAML scalars

What the characters of a scalar mean under its tag. A tag that is written at a node need not fit its
characters, so every reader here may fail: a truth value is a word of a list, a number may be no
number, and a date may be in no calendar.
-/

namespace Stencil.Yaml

/-- What stands for half of a pair where the characters of a scalar are looked at. -/
def halfMark : Char := Char.ofNat 0xFFFD

/-- The truth value of a word. -/
def readBool (s : Text) : Except DocumentError Value :=
  let word := Text.lowered s
  if word ∈ trueWords then .ok (.bool true)
  else if word ∈ falseWords then .ok (.bool false)
  else .error .noEntry

/-- The number that groups of sixty make up. -/
def ofSixtieths (groups : List Int) : Int := groups.foldl (fun n group => n * 60 + group) 0

/-- The integer that digits without a sign stand for: in base two after `0b`, sixteen after `0x`,
eight after another zero, in groups of sixty between colons, and else in base ten. -/
def magnitude? (s : Text) : Option Int :=
  match s with
  | ['0'] => some 0
  | '0' :: 'b' :: digits => Decimal.integer? 2 digits
  | '0' :: 'x' :: digits => Decimal.integer? 16 digits
  | '0' :: _ => Decimal.integer? 8 s
  | _ => ((Text.parts ':' s).mapM (Decimal.integer? 10)).map ofSixtieths

/-- An integer. Underscores in it do not count. -/
def readInt (s : Text) : Except DocumentError Value :=
  let (negative, digits) := Decimal.signed (s.filter (· ≠ '_'))
  if digits = [] then .error .outOfRange
  else
    match magnitude? digits with
    | none => .error .badValue
    | some n => .ok (.int (if negative then -n else n))

/-- The number that groups of sixty make up, added from the last to the first, where the last one counts
by `unit`. A unit that is too large for a floating-point number stops the sum. -/
def sumOfSixtieths (unit : Nat) (sum : Float) : List Float → Except DocumentError Float
  | [] => .ok sum
  | group :: before =>
    let size := Float.ofNat unit
    if size.isInf then .error .overflow
    else sumOfSixtieths (unit * 60) (sum + group * size) before

/-- The number that the figures between two colons, or all of them, stand for. -/
def groupOf (figures : Text) : Except DocumentError Float :=
  match Decimal.number? figures with
  | some x => .ok x
  | none => .error .badValue

/-- A floating-point number. Underscores in it do not count. The word with a point in front of it is the
one that is not a number; without the point it is a new one. -/
def readFloat (s : Text) : Except DocumentError Value :=
  let s := Text.lowered (s.filter (· ≠ '_'))
  let (negative, digits) := Decimal.signed s
  if s = [] then .error .outOfRange
  else if digits = ".nan".toList then .ok .nan
  else do
    let x ←
      if digits = ".inf".toList then .ok Decimal.infinity
      else if ':' ∈ digits then do
        sumOfSixtieths 1 0.0 (← (Text.parts ':' digits).mapM groupOf).reverse
      else groupOf digits
    return .float (if negative then -x else x)

/-- The bytes that are written in base 64. -/
def readBinary (s : Text) : Except DocumentError Value :=
  if s.all fun c => c.toNat < 128 then
    match Base64.decode? s with
    | none => .error .malformed
    | some bytes => .ok (.bytes bytes)
  else .error .malformed

/-- The microseconds of a fraction of a second. -/
def microseconds (fraction : Text) : Nat :=
  Decimal.ofDigits ((fraction ++ List.replicate 6 '0').take 6)

/-- A zone by its offset, which is less than a day. -/
def readZone : Option (Bool × Nat × Nat) → Except DocumentError (Option Zone)
  | none => .ok none
  | some (negative, hours, minutes) =>
    let seconds : Int := hours * 3600 + minutes * 60
    let zone : Zone := ⟨if negative then -seconds else seconds⟩
    if zone.isProper then .ok (some zone) else .error .badValue

/-- A date or a date-time. A line feed behind it does not count. -/
def readStamp (s : Text) : Except DocumentError Value := do
  match stamp? (withoutFeed s) with
  | none => throw .notTable
  | some ⟨(year, month, day), time, zone⟩ =>
    match Date.ofParts? year month day with
    | none => throw .badValue
    | some date =>
      match time with
      | none => return .date date
      | some (hour, minute, second, fraction) =>
        match Clock.ofParts? hour minute second (microseconds fraction) with
        | none => throw .badValue
        | some clock => return .dateTime date clock (← readZone zone)

/-- The value of a scalar. Half of a pair stands in a text only. -/
def readScalar (tag : Tag) (s : Symbols) : Except DocumentError Value :=
  let characters := s.filled halfMark
  match tag with
  | .null => .ok .null
  | .bool => readBool characters
  | .int => readInt characters
  | .float => readFloat characters
  | .binary => readBinary characters
  | .timestamp => readStamp characters
  | .text => .ok (.ofSymbols s)
  | .list | .map | .set | .pairs | .merge | .value | .other => .error .malformed

end Stencil.Yaml
