import Stencil.Formats.Document
import Stencil.Text.Blank

/-!
# TOML scalars

Texts, dates, times and numbers of a TOML document. Each reader takes the characters of one value,
without blanks around them.

A time counts the digits of its fraction as microseconds, however many there are. In a date-time they
are a fraction, which is worked out in floating point when there are more than six of them; a date-time
whose zone cannot be read has none. A number may have a sign and single underscores between its digits, and
does not begin with a zero unless that is all there is before its point. Behind its sign it is read as
it may be typed anywhere, so an integer may have another one.
-/

namespace Stencil.Toml

/-- The last character of a text. -/
def lastOf (s : Text) : Option Char := s.getLast?

/-- A natural number the way it is read in the parts of a date: as it may be typed anywhere. -/
def looseNatural? (s : Text) : Option Nat := do
  let n ← Decimal.integer? 10 s
  if n < 0 then none else return n.toNat

/-- The part of a text from one place up to another. -/
def slice (s : Text) (low high : Nat) : Text := (s.take high).drop low

/-! ## Dates and times -/

/-- The zone that an offset means: `Z`, or a sign, two digits, any character and two digits. -/
def zone? (offset : Text) : Option Zone := do
  if offset = ['Z'] then return ⟨0⟩
  let hours ← Decimal.integer? 10 (slice offset 1 3)
  let minutes ← Decimal.integer? 10 (slice offset 4 6)
  let seconds := hours * 3600 + minutes * 60
  return ⟨if offset.head? = some '-' then -seconds else seconds⟩

/-- A number times a power of ten below one, as floating-point numbers, cut off behind the point.
Nothing when it is too large for one. -/
def scaledDown (n : Int) (places : Nat) : Option Int :=
  let x := Float.ofNat n.natAbs
  if x.isInf then none
  else
    let size : Int := (x * Decimal.nearest false 1 (-places)).toUInt64.toNat
    some (if n < 0 then -size else size)

/-- The microseconds that the digits of a fraction mean; nothing when they are no digits. -/
def microseconds (digits : Text) : Except DocumentError (Option Int) :=
  match Decimal.integer? 10 digits with
  | none => .ok none
  | some n =>
    if digits.length ≤ 6 then .ok (some (n * Int.pow 10 (6 - digits.length)))
    else
      match scaledDown n (digits.length - 6) with
      | none => .error .overflow
      | some micro => .ok (some micro)

/-- A fraction of a second and the offset after it, if there is one. -/
def fractionAndOffset (s : Text) : Text × Option Text :=
  if lastOf s = some 'Z' ∨ lastOf s = some 'z' then (s.dropLast, some ['Z'])
  else
    let sign := if '+' ∈ s then '+' else '-'
    match Text.cut sign s with
    | some (digits, offset) => (digits, some (sign :: offset))
    | none => (s, none)

/-- What follows the seconds of a date-time: its microseconds and its zone. -/
def secondsTail (s : Text) : Except DocumentError (Int × Option Zone) :=
  match s with
  | [] => .ok (0, none)
  | '.' :: rest =>
    let (digits, offset) := fractionAndOffset rest
    match offset.map zone? with
    | some none => .ok (0, none)
    | zone => do
      match ← microseconds digits with
      | none => return (0, none)
      | some micro => return (micro, zone.join)
  | offset => .ok (0, zone? offset)

/-- A time of a day whose microseconds are given as an integer. -/
def clock? (hour minute second : Nat) (micro : Int) : Option Clock :=
  if micro < 0 then none else Clock.ofParts? hour minute second micro.toNat

/-- The date or date-time that a text means, when what follows its seconds is known. Its figures are
found by their places. -/
def dateWith? (s : Text) (micro : Int) (zone : Option Zone) : Option Value := do
  if '-' ∉ s.drop 1 then none
  let date ← Date.ofParts? (← looseNatural? (slice s 0 4)) (← looseNatural? (slice s 5 7))
    (← looseNatural? (slice s 8 10))
  if s.length = 10 then return .date date
  let clock ← clock? (← looseNatural? (slice s 11 13)) (← looseNatural? (slice s 14 16))
    (← looseNatural? (slice s 17 19)) micro
  return .dateTime date clock zone

/-- The date or date-time that a text means, if it means one. What would follow the seconds is looked
at in any text. -/
def date? (s : Text) : Except DocumentError (Option Value) := do
  let (micro, zone) ← secondsTail (s.drop 19)
  return dateWith? s micro zone

/-- The figures of a time at the head of a text: hour, minute, second and the digits of a fraction of
three to six digits. -/
def timeFigures? (s : Text) : Option (Nat × Nat × Nat × Nat) :=
  match s with
  | a :: b :: ':' :: c :: d :: ':' :: e :: f :: rest =>
    if [a, b, c, d, e, f].all Char.isDigit then
      let fraction := match rest with
        | '.' :: digits => (digits.takeWhile Char.isDigit).take 6
        | _ => []
      let micro := if 3 ≤ fraction.length then Decimal.ofDigits fraction else 0
      some (Decimal.ofDigits [a, b], Decimal.ofDigits [c, d], Decimal.ofDigits [e, f], micro)
    else none
  | _ => none

/-! ## Numbers -/

/-- Whether a part of a text holds another. -/
def holds (needle : Text) (s : Text) : Bool := 1 < (Text.split needle 1 s).length

/-- Whether a number is written with zeros and underscores where they may stand. -/
def isTidyNumber (s : Text) : Bool :=
  match s.stripped with
  | [] => false
  | [c] => c != '_'
  | c :: d :: rest =>
    let n := c :: d :: rest
    let signed := c == '+' || c == '-'
    let afterSign := if signed then d :: rest else n
    if c == '_' || lastOf n == some '_' || holds ['_', '.'] n || holds ['.', '_'] n then false
    else if c == '0' && !(d == '.' || d == 'o' || d == 'b' || d == 'x') then false
    else
      match signed, afterSign with
      | true, '0' :: e :: _ => e == '.' && !holds ['_', '_'] afterSign
      | _, _ => !holds ['_', '_'] afterSign

/-- The kinds of values that an array does not mix. -/
inductive Kind where
  | bool
  | text
  | array
  | inlineTable
  | time
  | date
  | int
  | float
deriving DecidableEq

/-- The words for the numbers that no digits write. -/
def wordNumber? (s : Text) : Option Float :=
  if s.lowered = "inf" then some Decimal.infinity
  else if s.lowered = "nan" then some Decimal.notANumber
  else none

/-- A number, of which the sign has been taken off and the underscores left out. -/
def unsigned? (digits : Text) : Option (Value × Kind) :=
  if '.' ∈ digits ∨ ('x' ∉ digits ∧ ('e' ∈ digits ∨ 'E' ∈ digits)) then
    if lastOf digits = some '.' ∧ digits.count '.' = 1 then none
    else if !digits.head?.any Char.isDigit then none
    else (Decimal.number? digits).map fun x => (.float x, .float)
  else
    match wordNumber? digits with
    | some x => some (.float x, .float)
    | none => (Decimal.announced? digits).map fun n => (.int n, .int)

/-- A number less than zero by as much as another is more. The one that is subtracted from zero leaves
no sign behind when it is zero. -/
def opposite : Value → Value
  | .float x => .float (0 - x)
  | .int n => .int (0 - n)
  | v => v

/-- A number. -/
def number (s : Text) : Except DocumentError (Value × Kind) :=
  let (negative, digits) := Decimal.signed s
  match unsigned? (digits.filter (· != '_')) with
  | none => .error .malformed
  | some (v, kind) => .ok (if negative then opposite v else v, kind)

/-! ## Texts -/

/-- The characters that may stand for others behind a backslash, and what they stand for. -/
def escapes : List (Char × Char) :=
  [('0', Char.ofNat 0), ('b', Char.ofNat 8), ('f', Char.ofNat 12), ('n', '\n'), ('r', '\r'),
    ('t', '\t'), ('"', '"')]

/-- The symbols with their one-letter escapes read; the escapes of code points are left alone. -/
def unescaped : Symbols → Except DocumentError Symbols
  | [] => .ok []
  | [x] => .ok [x]
  | .char '\\' :: x :: rest =>
    match x.char?.bind fun c => escapes.lookup c with
    | some d => (unescaped rest).map (.char d :: ·)
    | none =>
      if x = .char '\\' then (unescaped rest).map (.char '\\' :: ·)
      else if x = .char 'u' ∨ x = .char 'U' then (unescaped rest).map fun s => .char '\\' :: x :: s
      else .error .malformed
  | x :: rest => (unescaped rest).map (x :: ·)

/-- A name with its one-letter escapes read. None of them stands for half of a pair. -/
def unescapedName (s : Text) : Except DocumentError Text :=
  (unescaped (.ofText s)).map (Symbols.filled '\\')

/-- Whether a list ends in an odd number of backslashes. -/
def endsOdd {α : Type} [BEq α] (backslash : α) (s : List α) : Bool :=
  (s.reverse.takeWhile (· == backslash)).length % 2 == 1

/-- Whether a text ends in an odd number of backslashes. -/
def endsEscaping (s : Text) : Bool := endsOdd '\\' s

/-- The symbol that the hexadecimal digits of an escape mean. A `d` begins no number of a half where a
digit other than an octal one follows, and a number that is too large for a word is no number here. -/
def codePoint (digits : Text) : Except DocumentError Symbol :=
  match hexNumber? digits with
  | none => .error .malformed
  | some n =>
    match digits.map Char.toLower with
    | [] => .error .outOfRange
    | ['d'] => .error .outOfRange
    | first :: second =>
      if first = 'd' ∧ second.head?.any (fun c => !('0' ≤ c && c ≤ '7')) then .error .malformed
      else if 0x80000000 ≤ n then .error .overflow
      else
        match Symbol.ofCode? n with
        | none => .error .malformed
        | some x => .ok x

/-- The parts of symbols after the first one, with the code point escapes between them read. `skip`
says that a part stands behind a backslash of its own, so that its escape is none. -/
def codePoints (letter : Char) (width : Nat) :
    (skip : Bool) → List Symbols → Except DocumentError Symbols
  | _, [] => .ok []
  | true, part :: rest =>
    (codePoints letter width (endsOdd (.char '\\') part) rest).map fun s =>
      .char '\\' :: .char letter :: part ++ s
  | false, part :: rest => do
    match Symbols.text? (part.take width) with
    | none => throw .malformed
    | some digits =>
      let x ← codePoint digits
      return x :: part.drop width ++ (← codePoints letter width false rest)

/-- The symbols with their escapes of code points read. -/
def withCodePoints (letter : Char) (width : Nat) (s : Symbols) : Except DocumentError Symbols :=
  match Text.split [.char '\\', .char letter] s.length s with
  | [] => .ok s
  | [whole] => .ok whole
  | first :: rest =>
    (codePoints letter width (endsOdd (.char '\\') first) rest).map (first ++ ·)

/-- Whether every escape of a text, cut at its backslashes, is one that may be used. -/
def escapesAllowed : (backslash : Bool) → List Text → Bool
  | _, [] => true
  | backslash, [] :: rest => escapesAllowed (!backslash) rest
  | backslash, (c :: _) :: rest =>
    ((escapes.lookup c).isSome || c == 'u' || c == 'U' || backslash) && escapesAllowed false rest

/-- Whether nothing stands behind the quotes that close a text, which is cut at its quotes. -/
def closesOnce (tripled : Bool) : (closed : Bool) → (count : Nat) → List Text → Bool
  | _, _, [] => true
  | closed, count, [] :: rest =>
    if tripled then closesOnce tripled closed (count + 1) rest else closesOnce tripled true count rest
  | closed, count, part :: rest =>
    if endsEscaping part then closesOnce tripled closed count rest
    else if closed then false
    else if !tripled || 1 < count then closesOnce tripled true count rest
    else closesOnce tripled closed 0 rest

/-- What stands between the quotes of a text, one or three at each end. -/
def unquoted (quote : Symbol) (s : Symbols) : Symbols :=
  let s := match s with
    | [_, b] => if b = quote then [] else s
    | _ :: b :: c :: _ => if b = quote ∧ c = quote then (s.drop 2).dropLast.dropLast else s
    | _ => s
  (s.drop 1).dropLast

/-- A text between quotes. Between double quotes escapes are read. -/
def quotedText (quote : Char) (s : Text) : Except DocumentError Value := do
  let parts := Text.parts quote (s.drop 1)
  let (parts, tripled) : List Text × Bool := match parts with
    | [] :: [] :: rest => (rest, true)
    | _ => (parts, false)
  if !closesOnce tripled false 0 parts then throw .malformed
  let symbols := Symbols.ofText s
  let symbols ← if quote = '"' then do
      if !escapesAllowed false ((Text.parts '\\' s).drop 1) then throw .malformed
      unescaped (← withCodePoints 'U' 8 (← withCodePoints 'u' 4 symbols))
    else .ok symbols
  return .ofSymbols (unquoted (.char quote) symbols)

/-- Whether a text is a whole quoted one: it ends in the quote that it begins with, and no backslash
takes that quote away. -/
def isBounded (s : Text) : Bool :=
  match s with
  | [] => true
  | c :: rest =>
    lastOf s == some c && !endsEscaping rest.dropLast

end Stencil.Toml
