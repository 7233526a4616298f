import Stencil.Value.Basic

/-!
# Values as text

A value has two texts. `Value.shown` is what a template puts into its output: a text as it is, and
`true` or `false` for a truth value. `Value.written` is how the value stands inside a list, a
dictionary or a message: a text in quotes, truth values with a capital, dates by their parts. A value
that holds itself is written as three dots where it stands inside of itself.

Not every value can be shown: an integer may have too many digits, and a zone may be a day or more away
from universal time, which only dates that are shown as they are care about.
-/

namespace Stencil

/-- A comma and a blank, between the elements of a list. -/
def comma : Text := [',', ' ']

/-- The written form of a zone. -/
def Zone.written (z : Zone) : Text :=
  if z.seconds = 0 then "datetime.timezone.utc"
  else
    let days := z.seconds / 86400
    let seconds := z.seconds % 86400
    let shownDays : Text := if days = 0 then [] else "days=" ++ Text.ofInt days ++ comma
    "datetime.timezone(datetime.timedelta(" ++ shownDays ++ "seconds=" ++ Text.ofInt seconds ++ "))"

/-- Numbers in order, between commas. -/
def writtenNumbers (numbers : List Nat) : Text := Text.joined comma (numbers.map Text.ofNat)

/-- An integer that has not too many digits. -/
def writtenInt (n : Int) : Option Text :=
  if Decimal.longestInteger < (Text.ofNat n.natAbs).length then none else some (Text.ofInt n)

/-- An integer of more digits than are allowed cannot be written. -/
theorem writtenInt_eq_none {n : Nat} (hn : Nat.pow 10 Decimal.longestInteger ≤ n) :
    writtenInt n = none := by
  refine if_pos ?_
  rw [Int.natAbs_natCast]
  exact Text.lt_length_ofNat (by decide) hn

namespace Value

/-- What stands for a collection inside of itself. -/
def dots : Value → Text
  | .dict _ => ['{', '.', '.', '.', '}']
  | .tuple _ => "(...)"
  | _ => "[...]"

/-- The elements of a tuple between its brackets; behind a single one a comma stays. -/
def writtenTuple : List Text → Text
  | [x] => "(" ++ x ++ ",)"
  | parts => "(" ++ Text.joined comma parts ++ ")"

/-- The elements of a set between its braces. The empty set is written without them. -/
def writtenSet : List Text → Text
  | [] => "set()"
  | parts => ['{'] ++ Text.joined comma parts ++ ['}']

mutual

/-- A value as it stands inside of the knots in `around`, of which it is known what stands for each. -/
def writtenWithin (around : List (Nat × Text)) : Value → Option Text
  | .null => some "None"
  | .bool b => some (if b then ("True" : Text) else "False")
  | .int n => writtenInt n
  | .float x => some (Decimal.written x)
  | .nan => some "nan"
  | .text s => some s.quoted
  | .broken s => some s.quoted
  | .bytes b => some (quotedBytes b)
  | .list xs =>
    (writtenElements around xs).map fun parts => "[" ++ Text.joined comma parts ++ "]"
  | .tuple xs => (writtenElements around xs).map writtenTuple
  | .set xs => (writtenElements around xs).map writtenSet
  | .dict entries =>
    (writtenEntries around entries).map fun parts => ['{'] ++ Text.joined comma parts ++ ['}']
  | .date d => some ("datetime.date(" ++ writtenNumbers d.fields ++ ")")
  | .dateTime d c zone =>
    let shownZone : Text := match zone with
      | none => []
      | some z => ", tzinfo=" ++ z.written
    some ("datetime.datetime(" ++ writtenNumbers (d.fields ++ c.fields) ++ shownZone ++ ")")
  | .time c => some ("datetime.time(" ++ writtenNumbers c.fields ++ ")")
  | .knot n inner =>
    match around.lookup n with
    | some known => some known
    | none => writtenWithin ((n, inner.dots) :: around) inner
  | .back n => some ((around.lookup n).getD "[...]")

/-- Elements in order. -/
def writtenElements (around : List (Nat × Text)) : List Value → Option (List Text)
  | [] => some []
  | x :: xs => do return (← writtenWithin around x) :: (← writtenElements around xs)

/-- Entries in order, each key before its value. -/
def writtenEntries (around : List (Nat × Text)) : List (Value × Value) → Option (List Text)
  | [] => some []
  | (k, v) :: rest => do
    let entry := (← writtenWithin around k) ++ [':', ' '] ++ (← writtenWithin around v)
    return entry :: (← writtenEntries around rest)

end

/-- A value as it stands inside another value or a message. -/
def written (v : Value) : Option Text := v.writtenWithin []

/-- A zone behind a date and a time; one that is a day or more away cannot be shown. -/
def shownZone : Option Zone → Option Text
  | none => some []
  | some z => if z.isProper then some z.shown else none

/-- A value as plain text. It differs from `written` for texts and calendar values only. -/
def plain : Value → Option Symbols
  | .text s => some (.ofText s)
  | .broken s => some s
  | .date d => some (.ofText d.shown)
  | .dateTime d c zone =>
    (shownZone zone).map fun z => Symbols.ofText (d.shown ++ " " ++ c.shown ++ z)
  | .time c => some (.ofText c.shown)
  | v => v.written.map Symbols.ofText

/-- A value as a template puts it into its output. -/
def shown : Value → Option Symbols
  | .bool b => some (.ofText (if b then ("true" : Text) else "false"))
  | v => v.plain

/-- What kind of value it is, as messages call it. -/
def kindName : Value → Text
  | .null => "NoneType"
  | .bool _ => "bool"
  | .int _ => "int"
  | .float _ | .nan => "float"
  | .text _ | .broken _ => "str"
  | .bytes _ => "bytes"
  | .list _ | .back _ => "list"
  | .tuple _ => "tuple"
  | .set _ => "set"
  | .dict _ => "dict"
  | .date _ => "date"
  | .dateTime .. => "datetime"
  | .time _ => "time"
  | .knot _ inner => inner.kindName

end Value

end Stencil
