import Stencil.Formats.Yaml.Property
import Stencil.Value.Calendar

/-!
# Tags of YAML nodes

What a node is. A tag may be written at the node; a plain scalar without one has the tag that its
characters suggest, and is a text when they suggest none. Truth values may be written in nine words
of three spellings each, integers in four bases and in groups of sixty, and a date or a date-time in
figures.
-/

namespace Stencil.Yaml

/-- What a node is. -/
inductive Tag where
  | null
  | bool
  | int
  | float
  | binary
  | timestamp
  | text
  | list
  | map
  /-- A mapping of which only the keys count. -/
  | set
  /-- A list of mappings with one entry each, for an ordered mapping or one with repeated keys. -/
  | pairs
  /-- As a key: the entries of other mappings belong here. -/
  | merge
  /-- As a key: the entry stands for its whole mapping. -/
  | value
  /-- A tag that this library gives no meaning. -/
  | other
deriving DecidableEq, Repr

/-- Whether a node with the tag is read from its symbols. -/
def Tag.isScalar : Tag → Bool
  | .null | .bool | .int | .float | .binary | .timestamp | .text => true
  | .list | .map | .set | .pairs | .merge | .value | .other => false

/-! ## Words -/

/-- The spellings of a word: small, with a capital, in capitals. -/
def spellings (word : Text) : List Text :=
  [word, (word.take 1).map Char.toUpper ++ word.drop 1, word.map Char.toUpper]

/-- The words for true. -/
def trueWords : List Text := ["yes".toList, "true".toList, "on".toList]

/-- The words for false. -/
def falseWords : List Text := ["no".toList, "false".toList, "off".toList]

/-- Whether a scalar is written like a truth value. -/
def isBool (s : Text) : Bool := ((trueWords ++ falseWords).flatMap spellings).contains s

/-- Whether a scalar is written like nothing. -/
def isNull (s : Text) : Bool := s.isEmpty || s == ['~'] || (spellings "null".toList).contains s

/-! ## Numbers -/

/-- One or more characters for which a test holds. -/
def isRun (test : Char → Bool) (s : Text) : Bool := !s.isEmpty && s.all test

/-- A decimal digit or an underscore. -/
def isDigitOrLine (c : Char) : Bool := c.isDigit || c == '_'

/-- Digits and underscores, of which a digit comes first. -/
def isDigits : Text → Bool
  | [] => false
  | c :: rest => c.isDigit && rest.all isDigitOrLine

/-- A number below sixty in one or two digits. -/
def isSixtieth : Text → Bool
  | [a] => a.isDigit
  | [a, b] => '0' ≤ a && a ≤ '5' && b.isDigit
  | _ => false

/-- Whether a scalar is written like an integer. -/
def isInt (s : Text) : Bool :=
  let s := (Decimal.signed s).2
  match s with
  | ['0'] => true
  | '0' :: 'b' :: digits => isRun (fun c => c == '0' || c == '1' || c == '_') digits
  | '0' :: 'x' :: digits => isRun (fun c => (hexDigit? c).isSome || c == '_') digits
  | '0' :: digits => isRun (fun c => ('0' ≤ c && c ≤ '7') || c == '_') digits
  | _ =>
    match Text.parts ':' s with
    | first :: sixtieths => isDigits first && sixtieths.all isSixtieth
    | [] => false

/-- Nothing, or a letter e with a sign and digits. -/
def isExponent : Text → Bool
  | [] => true
  | e :: sign :: digits => (e == 'e' || e == 'E') && (sign == '+' || sign == '-') && isRun Char.isDigit digits
  | _ => false

/-- Whether a scalar is written like a floating-point number. -/
def isFloat (s : Text) : Bool :=
  let bare := (Decimal.signed s).2
  let whole := bare.takeWhile fun c => c != '.'
  match bare.drop whole.length with
  | [] => false
  | _ :: fraction =>
    let rest := fraction.dropWhile isDigitOrLine
    if whole = [] then
      (spellings "inf".toList).contains fraction ||
        (s == bare && (["nan".toList, "NaN".toList, "NAN".toList].contains fraction ||
          (fraction.head?.any Char.isDigit && isExponent rest)))
    else
      match Text.parts ':' whole with
      | first :: sixtieths =>
        isDigits first && sixtieths.all isSixtieth &&
          (if sixtieths.isEmpty then isExponent rest else rest.isEmpty)
      | [] => false

/-! ## Dates and times -/

/-- A date and perhaps a time in figures: year, month and day; hour, minute, second and the digits of
a fraction; the offset of a zone in hours and minutes, negative if its sign is a minus. -/
structure Stamp where
  date : Nat × Nat × Nat
  time : Option (Nat × Nat × Nat × Text)
  zone : Option (Bool × Nat × Nat)

/-- A number of at least and at most so many digits. -/
def figures (least most : Nat) (s : Text) : Option (Nat × Text) :=
  let digits := (s.take most).takeWhile Char.isDigit
  if digits.length < least then none else some (Decimal.ofDigits digits, s.drop digits.length)

/-- The text behind one of some characters. -/
def behind (test : Char → Bool) : Text → Option Text
  | c :: rest => if test c then some rest else none
  | [] => none

/-- The offset of a zone at the end of a stamp. -/
def stampZone (s : Text) : Option (Option (Bool × Nat × Nat)) :=
  match s.dropWhile fun c => c == ' ' || c == '\t' with
  | [] => if s.isEmpty then some none else none
  | ['Z'] => some (some (false, 0, 0))
  | sign :: rest => do
    if sign ≠ '+' ∧ sign ≠ '-' then none
    let (hours, rest) ← figures 1 2 rest
    let (minutes, rest) ← match rest with
      | [] => some (0, [])
      | c :: rest => if c = ':' then figures 2 2 rest else none
    if rest ≠ [] then none
    return some (sign == '-', hours, minutes)

/-- The time of a stamp, with the mark or the blanks before it, and the offset behind it. -/
def stampTime (s : Text) : Option ((Nat × Nat × Nat × Text) × Option (Bool × Nat × Nat)) := do
  let s ← match s with
    | c :: rest =>
      if c = 'T' ∨ c = 't' then some rest
      else if c = ' ' ∨ c = '\t' then some (rest.dropWhile fun c => c == ' ' || c == '\t')
      else none
    | [] => none
  let (hour, s) ← figures 1 2 s
  let (minute, s) ← figures 2 2 (← behind (· == ':') s)
  let (second, s) ← figures 2 2 (← behind (· == ':') s)
  let (fraction, s) : Text × Text := match s with
    | '.' :: rest => (rest.takeWhile Char.isDigit, rest.dropWhile Char.isDigit)
    | _ => ([], s)
  return ((hour, minute, second, fraction), ← stampZone s)

/-- A date or a date-time in figures, without a line feed behind it. -/
def stamp? (s : Text) : Option Stamp := do
  let (year, s) ← figures 4 4 s
  let (month, s) ← figures 1 2 (← behind (· == '-') s)
  let (day, s) ← figures 1 2 (← behind (· == '-') s)
  if s = [] then return ⟨(year, month, day), none, none⟩
  let (time, zone) ← stampTime s
  return ⟨(year, month, day), some time, zone⟩

/-- Whether a scalar is written like a date or a date-time; a date alone has all its figures. -/
def isStamp (s : Text) : Bool :=
  match stamp? s with
  | some stamp => stamp.time.isSome || s.length == 10
  | none => false

/-- A scalar without the line feed at its end, which says nothing about what it is written like unless
nothing stands before it. -/
def withoutFeed (s : Text) : Text :=
  match s.reverse with
  | '\n' :: c :: rest => (c :: rest).reverse
  | _ => s

namespace Tag

/-- The tag that the characters of a scalar suggest. A lone mark of an anchor, an alias or a tag
suggests one that means nothing. -/
def ofCharacters (s : Text) : Tag :=
  let s := withoutFeed s
  if isNull s then null
  else if isBool s then bool
  else if isFloat s then float
  else if isInt s then int
  else if isStamp s then timestamp
  else if s = ['<', '<'] then merge
  else if s = ['='] then value
  else if s = ['!'] ∨ s = ['&'] ∨ s = ['*'] then other
  else text

/-- What the common tags begin with. -/
def common : Text := "tag:yaml.org,2002:"

/-- The tag with the given name. -/
def ofName (name : Text) : Tag :=
  match Text.after? common name with
  | none => other
  | some kind =>
    let known : List (String × Tag) :=
      [("null", null), ("bool", bool), ("int", int), ("float", float), ("binary", binary),
        ("timestamp", timestamp), ("str", text), ("seq", list), ("map", map), ("omap", pairs),
        ("pairs", pairs), ("set", set), ("merge", merge), ("value", value)]
    ((known.find? fun (word, _) => word.toList = kind).map (·.2)).getD other

end Tag

end Stencil.Yaml
