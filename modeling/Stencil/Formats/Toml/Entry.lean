import Stencil.Formats.Toml.Scalar

/-!
# TOML entries

An entry is a line that gives a key a value. The equals sign that ends the key is the first one that
no quotes hold. A key may lead through tables by dots; a table that is missing on the way is made.

Values hold values: an array holds its elements, an inline table its entries. Both are cut at commas,
and a cut that falls inside a quoted text or a nested value is undone. An array holds values of one
kind only. A text of three quotes that its line does not end is left unfinished, and only an entry that has a name can wait for its
end.
-/

namespace Stencil.Toml

/-! ## Cutting -/

/-- Pieces of a text between double quotes, cut further at single quotes where no double ones hold
them. -/
def cutUnquoted : (quoted : Bool) → List Text → List Text
  | _, [] => []
  | true, part :: rest => part :: cutUnquoted true rest
  | false, part :: rest => Text.parts '\'' part ++ cutUnquoted true rest

/-- Joins pieces to the last of some others, cutting again at single quotes, until the number of
pieces is odd. -/
def cutJoined : List Text → List Text → List Text × List Text
  | singles, [] => (singles, [])
  | singles, part :: rest =>
    if singles.length % 2 = 1 then (singles, part :: rest)
    else
      let last := (singles.getLast?.getD []) ++ '"' :: part
      cutJoined (singles.dropLast ++ Text.parts '\'' last) rest

/-- A line cut at its quotes: every second piece is what quotes hold. -/
def cutAtQuotes (line : Text) : List Text :=
  match Text.parts '"' line with
  | first :: second :: rest =>
    if '\'' ∈ first then
      let (singles, doubles) := cutJoined (Text.parts '\'' first) (second :: rest)
      singles ++ cutUnquoted false doubles
    else cutUnquoted false (first :: second :: rest)
  | parts => cutUnquoted false parts

/-- How often `mark` stands in quoted pieces before the first unquoted piece that holds it. -/
def quotedCount (mark : Text) : (quoted : Bool) → List Text → Nat
  | _, [] => 0
  | quoted, piece :: rest =>
    let count := (Text.split mark piece.length piece).length - 1
    if !quoted && 0 < count then 0 else count + quotedCount mark (!quoted) rest

/-- The key and the value of an entry, cut at the equals sign after `skipped` others. -/
def cutEntry (skipped : Nat) (line : Text) : Text × Text :=
  let parts := Text.split ['='] (skipped + 1) line
  (Text.joined ['='] parts.dropLast, parts.getLast?.getD [])

/-- Whether a value that stands right behind its equals sign must be a number, a date or a time. -/
def needsFigures (value : Text) : Bool :=
  match value with
  | [] => false
  | c :: _ =>
    !(c == ' ' || c == '\t' || c == '\'' || c == '"' || c == '[' || c == '{') &&
      value.stripped != ("true" : Text) && value.stripped != ("false" : Text)

/-- Whether a value is written in figures. -/
def isFigures (value : Text) : Except DocumentError Bool := do
  if (Decimal.number? value).isSome then return true
  return (← date? value).isSome || (timeFigures? value).isSome

/-- Moves the end of the key to later equals signs until the value can be one, and keeps account of
whether all values on the way were tidy. -/
def settleEntry (line : Text) : (fuel skipped : Nat) → (tidy : Bool) → (value : Text) →
    Except DocumentError (Text × Text × Bool)
  | 0, _, _, _ => .error .malformed
  | fuel + 1, skipped, tidy, value => do
    let isSettled ← if needsFigures value then isFigures value else .ok true
    if isSettled then return ((cutEntry skipped line).1, value, tidy)
    let (_, later) := cutEntry (skipped + 1) line
    if later = value then throw .malformed
    settleEntry line fuel (skipped + 1) (tidy && isTidyNumber later) later

/-- Whether a text begins with a digit. -/
def beginsWithDigit (s : Text) : Bool := (s.head?).any Char.isDigit

/-- An entry as its key, its value, and whether the value is tidy as a number. -/
def splitEntry (line : Text) : Except DocumentError (Text × Text × Bool) := do
  let skipped := quotedCount ['='] false (cutAtQuotes line)
  let (_, value) := cutEntry skipped line
  let tidy := isTidyNumber value
  let value := if beginsWithDigit value then value.filter (· != '_') else value
  let (key, value, tidy) ← settleEntry line (line.length + 1) skipped tidy value
  return (key.stripped, value.stripped, tidy)

/-! ## Keys -/

/-- Drops the empty names at the end; there must be another name. -/
def trimNames (names : List Text) : Except DocumentError (List Text) :=
  match names.reverse.dropWhile (· == []) with
  | [] => .error .outOfRange
  | kept => .ok kept.reverse

/-- The names that a dotted key with quotes in it leads through. -/
def quotedNames : (quoted : Bool) → List Text → List Text
  | _, [] => []
  | true, piece :: rest => piece :: quotedNames false rest
  | false, piece :: rest => (Text.parts '.' piece).map Text.stripped ++ quotedNames true rest

/-- The tables that a key leads through, and the name that is given a value. -/
def keyNames (key : Text) : Except DocumentError (List Text × Text) := do
  if '.' ∈ key then
    let names ← trimNames (if '"' ∈ key ∨ '\'' ∈ key then quotedNames false (cutAtQuotes key)
      else Text.parts '.' key)
    return (names.dropLast.filter (· ≠ []), (names.getLast?.getD []).stripped)
  else
    match key with
    | [] => throw .outOfRange
    | c :: _ =>
      if (c = '"' ∨ c = '\'') ∧ lastOf key = some c then return ([], ← unescapedName (Text.inner key))
      else return ([], key)

/-- Changes what the names lead to. Names are looked for in tables only; a missing one is made. -/
def reach (change : Value → Except DocumentError Value) : List Text → Value →
    Except DocumentError Value
  | [], v => change v
  | name :: rest, .dict entries => do
    let inner ← reach change rest ((Dict.get? name entries).getD (.dict []))
    return .dict (Dict.insert (.text name) inner entries)
  | _ :: _, _ => .error .noParts

/-- A table in which a name that it does not have is given a value. -/
def define (name : Text) (v : Value) : Value → Except DocumentError Value
  | .dict entries =>
    if (Dict.get? name entries).isSome then .error .malformed
    else .ok (.dict (Dict.insert (.text name) v entries))
  | _ => .error .malformed

/-- A table that does not have a name. -/
def lacks (name : Text) : Value → Except DocumentError Value
  | .dict entries => if (Dict.get? name entries).isSome then .error .malformed else .ok (.dict entries)
  | _ => .error .malformed

/-! ## Texts that span lines -/

/-- Whether the elements of an array begin with a quote. -/
def isTextArray (s : Text) : Bool :=
  match (Text.inner s).stripped with
  | c :: _ => c == '"' || c == '\''
  | [] => false

/-- The last element of an array that is not closed, with as many commas as its quotes hold. -/
def lastElement : List Text → Except DocumentError Text
  | [] => .ok []
  | [last] => .ok last
  | last :: before :: rest =>
    match last with
    | [] => .error .outOfRange
    | c :: _ => if c = '"' ∨ c = '\'' then .ok last else lastElement ((before ++ ',' :: last) :: rest)
termination_by parts => parts.length

/-- Whether a value is a text of three quotes that its line does not end. -/
def opensLines (value : Text) : Except DocumentError Bool := do
  if value.length < 3 then return false
  let isOpenArray := value.head? = some '[' && lastOf value.stripped ≠ some ']' && isTextArray value
  let p ← if isOpenArray then
      lastElement (Text.parts ',' (Text.stripped (value.drop 1))).reverse
    else .ok value
  match p with
  | [] => throw .outOfRange
  | a :: rest =>
    if !(a = '"' ∨ a = '\'') then return false
    match rest with
    | [] => throw .outOfRange
    | b :: rest =>
      if b ≠ a then return false
      match rest with
      | [] => throw .outOfRange
      | c :: _ => return c = a && !(5 < p.length && (p.reverse.take 3).all (· == a))

/-! ## Values -/

/-- Cuts the inside of an array at the commas that no brackets hold. -/
def cutNested : (depth : Int) → (current : Text) → Text → List Text
  | _, current, [] => [current.reverse]
  | depth, current, c :: rest =>
    if c = '[' then cutNested (depth + 1) (c :: current) rest
    else if c = ']' then cutNested (depth - 1) (c :: current) rest
    else if c = ',' ∧ depth = 0 then current.reverse :: cutNested depth [] rest
    else cutNested depth (c :: current) rest

/-- Whether three quotes open an element that they do not close. -/
def isHalfTripled (s : Text) : Bool :=
  match s with
  | a :: b :: c :: _ =>
    a == b && b == c && s.reverse[1]? != some a && s.reverse[2]? != some a
  | _ => false

/-- Joins an element of a text array with the ones after it until it is a whole quoted text. -/
def joinBounded : (fuel : Nat) → Text → List Text → Except DocumentError (Text × List Text)
  | 0, _, _ => .error .malformed
  | fuel + 1, part, rest =>
    if !isBounded part.stripped || isHalfTripled part.stripped then
      match rest with
      | [] => .error .outOfRange
      | next :: rest => joinBounded fuel (part ++ ',' :: next) rest
    else .ok (part, rest)

/-- The elements of a text array; the last one stands as it is. -/
def joinTexts : (fuel : Nat) → List Text → Except DocumentError (List Text)
  | 0, _ => .error .malformed
  | _ + 1, [] => .ok []
  | _ + 1, [last] => .ok [last]
  | fuel + 1, part :: rest => do
    let (part, rest) ← joinBounded (rest.length + 1) part rest
    return part :: (← joinTexts fuel rest)

/-- The walk along an array of inline tables: where the current table began, how many braces are
open, and whether a text is. -/
structure TableWalk where
  table : Text
  depth : Nat
  inText : Bool

/-- Backslashes right before a character, the nearest first. -/
def slashesBefore (table : Text) : Nat := (table.takeWhile (· == '\\')).length

/-- The tables in the inside of an array of inline tables. `current` is the table that has begun, its
last character first; nothing when the next one has not. -/
def cutTables : (current : Option TableWalk) → Text → List Text
  | _, [] => []
  | none, c :: rest =>
    if c = '{' then cutTables (some ⟨['{'], 1, false⟩) rest else cutTables none rest
  | some w, c :: rest =>
    let inText :=
      if c = '"' ∨ c = '\'' then
        let flipped := if w.inText then w.inText != (slashesBefore w.table % 2 == 1) else w.inText
        !flipped
      else w.inText
    let depth := if !inText ∧ c = '{' then w.depth + 1 else w.depth
    if inText ∨ c ≠ '}' then cutTables (some ⟨c :: w.table, depth, inText⟩) rest
    else if 1 < depth then cutTables (some ⟨c :: w.table, depth - 1, inText⟩) rest
    else (c :: w.table).reverse :: match rest with
      | [] => []
      | _ :: rest => cutTables none rest

/-- The tables in an array that begins with one; the first table's brace counts as open. -/
def inlineTables (inside : Text) : List Text :=
  match inside with
  | '{' :: rest => cutTables (some ⟨['{'], 1, false⟩) rest
  | c :: rest => cutTables (some ⟨[c], 0, false⟩) rest
  | [] => []

/-- The elements of an array as they are written. -/
def arrayElements (s : Text) : Except DocumentError (List Text) :=
  let inside := Text.inner s
  if '[' ∉ inside ∨ Text.stripped (inside.takeWhile (· != '[')) ≠ [] then
    let parts := if (inside.stripped).head? = some '{' then inlineTables inside
      else Text.parts ',' inside
    if isTextArray s then joinTexts (parts.length + 1) parts else .ok parts
  else .ok (cutNested 0 [] inside)

/-- Whether a value may stand in an inline table where a comma follows. -/
def isWholeValue (value : Text) : Except DocumentError Bool :=
  match value, lastOf value with
  | c :: _, some d =>
    .ok ((c = d && (c = '"' || c = '\'')) || c = '-' || c.isDigit || value = ("true" : Text) ||
      value = ("false" : Text) || (c = '[' && d = ']') || (c = '{' && d = '}'))
  | _, _ => .error .outOfRange

/-- The entries of an inline table as they are written. -/
def inlineEntries : (fuel : Nat) → List Text → Except DocumentError (List Text)
  | 0, _ => .error .malformed
  | _ + 1, [] => .ok []
  | fuel + 1, part :: rest =>
    match Text.cut '=' part with
    | none => .error .malformed
    | some (_, value) => do
      if ← isWholeValue value.stripped then return part :: (← inlineEntries fuel rest)
      else
        match rest with
        | [] => throw .malformed
        | next :: rest => inlineEntries fuel ((part ++ ',' :: next) :: rest)

/-- A text that is unfinished at the end of its line. -/
structure Unfinished where
  name : Text
  content : Text
  backslash : Bool

mutual

/-- A value. `tidy` says whether it is written as a number has to be. -/
def readValue : (fuel : Nat) → (tidy : Bool) → Text → Except DocumentError (Value × Kind)
  | 0, _, _ => .error .malformed
  | fuel + 1, tidy, s =>
    match s with
    | [] => .error .malformed
    | c :: _ =>
      if s = ("true" : Text) then .ok (.bool true, .bool)
      else if s = ("false" : Text) then .ok (.bool false, .bool)
      else if s.lowered = "true" ∨ s.lowered = "false" then .error .malformed
      else if c = '"' ∨ c = '\'' then (quotedText c s).map fun v => (v, .text)
      else if c = '[' then do
        let parts ← arrayElements s.stripped
        return (.list (← readElements fuel none (parts.map Text.stripped)), .array)
      else if c = '{' then (readInline fuel s (.dict [])).map fun v => (v, .inlineTable)
      else
        match timeFigures? s with
        | some (hour, minute, second, micro) =>
          match Clock.ofParts? hour minute second micro with
          | some clock => .ok (.time clock, .time)
          | none => .error .malformed
        | none => do
          match ← date? s with
          | some v => return (v, .date)
          | none => if tidy then number s else throw .malformed

/-- The values of an array, which are of one kind, that of the values before if there are any. An empty
element is no value. -/
def readElements : (fuel : Nat) → (before : Option Kind) → List Text →
    Except DocumentError (List Value)
  | 0, _, _ => .error .malformed
  | _ + 1, _, [] => .ok []
  | fuel + 1, before, part :: rest => do
    if part = [] then readElements fuel before rest
    else
      let (v, kind) ← readValue fuel true part
      if before.any (· ≠ kind) then throw .malformed
      return v :: (← readElements fuel (some kind) rest)

/-- An inline table, whose entries go into `table`. -/
def readInline : (fuel : Nat) → Text → (table : Value) → Except DocumentError Value
  | 0, _, _ => .error .malformed
  | fuel + 1, s, table =>
    match Text.parts ',' (Text.inner s) with
    | [only] =>
      if only.stripped = [] then .ok table
      else do readEntries fuel (← inlineEntries 2 [only]) table
    | parts => do readEntries fuel (← inlineEntries (2 * parts.length + 1) parts) table

/-- Entries in order, which go into `table`. An unfinished text ends them. -/
def readEntries : (fuel : Nat) → List Text → (table : Value) → Except DocumentError Value
  | 0, _, _ => .error .malformed
  | _ + 1, [], table => .ok table
  | fuel + 1, line :: rest, table => do
    let (table, unfinished) ← readEntry fuel line table
    match unfinished with
    | some _ => return table
    | none => readEntries fuel rest table

/-- One entry, which goes into `table`, or the text that it leaves unfinished. -/
def readEntry : (fuel : Nat) → (line : Text) → (table : Value) →
    Except DocumentError (Value × Option Unfinished)
  | 0, _, _ => .error .malformed
  | fuel + 1, line, table => do
    let (key, value, tidy) ← splitEntry line
    let (names, name) ← keyNames key
    let table ← reach .ok names table
    if ← opensLines value then
      let backslash := endsEscaping value
      let table ← reach (lacks name) names table
      if name = [] then throw .noValue
      let content := if backslash then value.dropLast else value ++ ['\n']
      return (table, some ⟨name, content, backslash⟩)
    else
      let (v, _) ← readValue fuel tidy value
      return (← reach (define name v) names table, none)

end

end Stencil.Toml
