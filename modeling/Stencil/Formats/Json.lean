import Stencil.Formats.Document

/-!
# JSON

Reads a JSON document. An integer may be of any size, and a number with a fraction or an exponent is
a floating-point number; the words `NaN`, `Infinity` and `-Infinity` are read as well. Of a key that is
given twice the last value counts. Texts hold no control characters except as escapes; an escape may
also stand for half of a pair.
-/

namespace Stencil.Json

/-- What is left after blanks. -/
def skipBlanks : Text → Text := List.dropWhile fun c => c == ' ' || c == '\t' || c == '\n' || c == '\r'

/-- The character of a one-letter escape. -/
def escape? : Char → Option Char
  | '"' => some '"'
  | '\\' => some '\\'
  | '/' => some '/'
  | 'b' => some (Char.ofNat 8)
  | 'f' => some (Char.ofNat 12)
  | 'n' => some '\n'
  | 'r' => some '\r'
  | 't' => some '\t'
  | _ => none

/-- A character by the two halves of a pair. -/
def ofPair (high low : Nat) : Symbol :=
  .char (Char.ofNat (0x10000 + (high - 0xD800) * 0x400 + (low - 0xDC00)))

/-- The code unit that an escape of four hexadecimal digits stands for, and the text after it. -/
def unit? : Text → Option (Nat × Text)
  | a :: b :: c :: d :: rest => (hexNumber? [a, b, c, d]).map fun n => (n, rest)
  | _ => none

/-- The symbol of an escape that has begun with a `u`, and the text after it. Two halves of a pair
behind one another are the character that they make up. -/
def unicodeEscape? (s : Text) : Option (Symbol × Text) := do
  let (high, rest) ← unit? s
  let alone := (Symbol.ofCode? high).map fun x => (x, rest)
  match rest with
  | '\\' :: 'u' :: more =>
    if 0xD800 ≤ high ∧ high < 0xDC00 then
      let (low, after) ← unit? more
      if 0xDC00 ≤ low ∧ low < 0xE000 then return (ofPair high low, after) else alone
    else alone
  | _ => alone

/-- The rest of a text after its opening quote: its symbols, and what follows the closing quote. -/
def string? : (fuel : Nat) → Text → Option (Symbols × Text)
  | 0, _ => none
  | fuel + 1, s =>
    match s with
    | [] => none
    | '"' :: rest => some ([], rest)
    | '\\' :: 'u' :: rest => do
      let (x, rest) ← unicodeEscape? rest
      let (content, rest) ← string? fuel rest
      return (x :: content, rest)
    | '\\' :: e :: rest => do
      let c ← escape? e
      let (content, rest) ← string? fuel rest
      return (.char c :: content, rest)
    | c :: rest => do
      if c.toNat < 0x20 ∨ c = '\\' then none
      else
        let (content, rest) ← string? fuel rest
        return (.char c :: content, rest)

/-- A fraction: a point and at least one digit, or nothing. -/
def fraction (s : Text) : Text × Text :=
  match s with
  | '.' :: rest =>
    match rest.takeWhile Char.isDigit with
    | [] => ([], s)
    | digits => (digits, rest.dropWhile Char.isDigit)
  | _ => ([], s)

/-- An exponent: a letter e, a sign or none, and at least one digit; or nothing. -/
def exponent (s : Text) : Option Int × Text :=
  match s with
  | e :: rest =>
    let (negative, rest) := Decimal.signed rest
    match rest.takeWhile Char.isDigit with
    | [] => (none, s)
    | digits =>
      if e = 'e' ∨ e = 'E' then
        let n : Int := Decimal.ofDigits digits
        (some (if negative then -n else n), rest.dropWhile Char.isDigit)
      else (none, s)
  | [] => (none, s)

/-- A number, after its sign. -/
def number (negative : Bool) (s : Text) : Except DocumentError (Value × Text) := do
  let (whole, rest) ← match s with
    | '0' :: rest => .ok (['0'], rest)
    | _ =>
      match s.takeWhile Char.isDigit with
      | [] => .error .malformed
      | digits => .ok (digits, s.dropWhile Char.isDigit)
  let (digits, rest) := fraction rest
  let (power, rest) := exponent rest
  if digits = [] ∧ power = none then
    return (← readInteger negative whole, rest)
  else
    let x := Decimal.nearest negative (Decimal.ofDigits (whole ++ digits))
      (power.getD 0 - digits.length)
    return (.float x, rest)

/-- The words that stand for values. -/
def words : List (Text × Value) :=
  [("null", .null), ("true", .bool true), ("false", .bool false), ("NaN", .float Decimal.notANumber),
    ("Infinity", .float Decimal.infinity), ("-Infinity", .float (-Decimal.infinity))]

/-- A value that is neither a text nor a list nor an object. -/
def scalar (s : Text) : Except DocumentError (Value × Text) :=
  match words.findSome? fun (word, v) => (Text.after? word s).map fun rest => (v, rest) with
  | some found => .ok found
  | none =>
    match s with
    | '-' :: rest => number true rest
    | _ => number false s

mutual

/-- A value at the head of a text, and the text after it. -/
def value : (fuel : Nat) → Text → Except DocumentError (Value × Text)
  | 0, _ => .error .malformed
  | fuel + 1, s =>
    match s with
    | '"' :: rest =>
      match string? (rest.length + 1) rest with
      | some (content, rest) => .ok (.ofSymbols content, rest)
      | none => .error .malformed
    | '[' :: rest =>
      match skipBlanks rest with
      | ']' :: rest => .ok (.list [], rest)
      | rest => do
        let (elements, rest) ← elements fuel rest
        return (.list elements, rest)
    | '{' :: rest =>
      match skipBlanks rest with
      | '}' :: rest => .ok (.dict [], rest)
      | rest => do
        let (entries, rest) ← members fuel rest
        return (.dict (Dict.ofEntries entries), rest)
    | _ => scalar s

/-- The elements of a list up to its closing bracket. -/
def elements : (fuel : Nat) → Text → Except DocumentError (List Value × Text)
  | 0, _ => .error .malformed
  | fuel + 1, s => do
    let (v, rest) ← value fuel s
    match skipBlanks rest with
    | ']' :: rest => return ([v], rest)
    | ',' :: rest =>
      let (others, rest) ← elements fuel (skipBlanks rest)
      return (v :: others, rest)
    | _ => throw .malformed

/-- The members of an object up to its closing brace. -/
def members : (fuel : Nat) → Text → Except DocumentError (List (Value × Value) × Text)
  | 0, _ => .error .malformed
  | fuel + 1, s => do
    match s with
    | '"' :: rest =>
      match string? (rest.length + 1) rest with
      | none => throw .malformed
      | some (key, rest) =>
        match skipBlanks rest with
        | ':' :: rest =>
          let (v, rest) ← value fuel (skipBlanks rest)
          match skipBlanks rest with
          | '}' :: rest => return ([(.ofSymbols key, v)], rest)
          | ',' :: rest =>
            let (others, rest) ← members fuel (skipBlanks rest)
            return ((.ofSymbols key, v) :: others, rest)
          | _ => throw .malformed
        | _ => throw .malformed
    | _ => throw .malformed

end

/-- Reads a document: one value, with nothing but blanks around it. Every step of the reader uses up
a character, so the length of the text bounds their number. -/
def read (s : Text) : Except DocumentError Value := do
  let (v, rest) ← value (2 * s.length + 1) (skipBlanks s)
  if skipBlanks rest = [] then return v else throw .malformed

end Stencil.Json
