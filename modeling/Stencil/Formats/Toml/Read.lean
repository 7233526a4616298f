import Stencil.Formats.Toml.Entry
import Stencil.Formats.Toml.Lines
import Stencil.Value.Display

/-!
# Reading TOML

A document is read line by line into one table. A header line chooses the table that the entries
after it go into; a header in two brackets appends a new table to an array of them. A text that a
line leaves unfinished takes in the lines after it up to its closing quotes.

A table that a header has only passed through may be opened by a header of its own later; any other
table is opened once.
-/

namespace Stencil.Toml

/-! ## Places in a document -/

/-- A step from a value to one that it holds. -/
inductive Hop where
  | name (name : Text)
  /-- The last element of a list. -/
  | last

/-- Changes the value that hops lead to. -/
def hop (change : Value → Except DocumentError Value) : List Hop → Value → Except DocumentError Value
  | [], v => change v
  | .name name :: rest, .dict entries =>
    match Dict.get? name entries with
    | none => .error .noParts
    | some inner => do
      return .dict (Dict.insert (.text name) (← hop change rest inner) entries)
  | .last :: rest, .list elements =>
    match elements.getLast? with
    | none => .error .outOfRange
    | some inner => do
      return .list (elements.dropLast ++ [← hop change rest inner])
  | _ :: _, _ => .error .noParts

/-- The value that hops lead to. -/
def land : List Hop → Value → Option Value
  | [], v => some v
  | .name name :: rest, .dict entries => (Dict.get? name entries).bind (land rest)
  | .last :: rest, .list elements => elements.getLast?.bind (land rest)
  | _ :: _, _ => none

/-! ## Headers -/

/-- A name may stand in a header without quotes when it is made of these. -/
def isHeaderChar (c : Char) : Bool := c.isAlphanum || c == '_' || c == '-'

/-- A quoted name of a header, joined with the names after it until it ends in its quote. `most` says
how many more may be joined. -/
def joinQuoted : (most : Nat) → (name : Text) → List Text → Except DocumentError (Text × List Text)
  | most, name, rest =>
    let shown := name.stripped
    if shown.head? = lastOf shown ∧ shown.length ≠ 1 then .ok (Text.inner shown, rest)
    else
      match most, rest with
      | most + 1, next :: rest => joinQuoted most (name ++ '.' :: next) rest
      | _, _ => .error .malformed

/-- The names of a header, cut at its dots. -/
def headerNames : (fuel : Nat) → List Text → Except DocumentError (List Text)
  | 0, _ => .error .malformed
  | _ + 1, [] => .ok []
  | fuel + 1, part :: rest => do
    let name := part.stripped
    match name with
    | c :: _ =>
      if c = '"' ∨ c = '\'' then
        let (name, rest) ← joinQuoted rest.length name rest
        return name :: (← headerNames fuel rest)
      else if name.all isHeaderChar then return name :: (← headerNames fuel rest)
      else throw .malformed
    | [] => throw .malformed

/-- The names between the brackets of a header line, of which the opening ones are taken off. -/
def readHeader (closing : Text) (line : Text) : Except DocumentError (List Text) := do
  let count := 1 + quotedCount closing false (cutAtQuotes line)
  let parts : List Text := Text.split closing count line
  if parts.length < count + 1 ∨ (parts.getLast?.getD []).stripped ≠ [] then throw .malformed
  let names := Text.parts '.' (Text.joined closing parts.dropLast)
  headerNames (names.length + 1) names

/-! ## The document -/

/-- A document read up to some line: what it holds, the table that entries go into, the names of
tables that were only passed through, and the text that is unfinished. -/
structure Reading where
  root : Value
  table : List Hop
  passed : List Text
  unfinished : Option Unfinished

namespace Reading

/-- A document before its first line. -/
def start : Reading := ⟨.dict [], [], [], none⟩

/-- A new table for a header, alone or as the first of an array. -/
def newTable (isArray : Bool) : Value := if isArray then .list [.dict []] else .dict []

/-- A table in a place where the name is not there yet. -/
def addName (name : Text) (v : Value) : Value → Except DocumentError Value
  | .dict entries => .ok (.dict (Dict.insert (.text name) v entries))
  | _ => .error .noParts

/-- One more empty table at the end of an array of them. -/
def appendTable : Value → Except DocumentError Value
  | .list elements => .ok (.list (elements ++ [.dict []]))
  | _ => .error .notTable

/-- The place after a name of a header in an array header: in the last table of an array. -/
def enterArray (r : Reading) : Except DocumentError Reading :=
  match land r.table r.root with
  | some (.list []) | some (.text []) => .error .outOfRange
  | some (.list _) => .ok { r with table := r.table ++ [.last] }
  | some (.dict _) => .ok r
  | _ => .error .noParts

/-- What is wrong with a header for a table that is open already. The refusal shows the table around
it, and a table that cannot be written is a fault of its own. -/
def openedTwice (around : Value) : DocumentError :=
  if around.written.isSome then .malformed else .badValue

/-- One name of a header. -/
def stepName (r : Reading) (isArray isLast : Bool) (name : Text) : Except DocumentError Reading := do
  if name = [] then throw .malformed
  let inside := { r with table := r.table ++ [.name name] }
  let entered ← match land r.table r.root with
    | some (.dict entries) =>
      match Dict.get? name entries with
      | some _ =>
        if !isLast then .ok inside
        else if r.passed.contains name then
          if isArray then .error .malformed else .ok { inside with passed := r.passed.erase name }
        else if isArray then
          .ok { inside with root := ← hop appendTable inside.table r.root }
        else .error (openedTwice (.dict entries))
      | none =>
        .ok { inside with
          root := ← hop (addName name (newTable (isArray && isLast))) r.table r.root
          passed := if isLast then r.passed else r.passed ++ [name] }
    | some (.list elements) =>
      let table := r.table ++ [.last]
      match elements.getLast? with
      | none => .error .outOfRange
      | some (.dict entries) =>
        let inside := { r with table := table ++ [.name name] }
        if (Dict.get? name entries).isSome then .ok inside
        else .ok { inside with
          root := ← hop (addName name (newTable (isArray && isLast))) table r.root }
      | some _ => .error .noParts
    | some (.text []) => .error .outOfRange
    | _ => .error .noParts
  if isArray then entered.enterArray else return entered

/-- The names of a header, from the root. -/
def stepNames (isArray : Bool) : List Text → Reading → Except DocumentError Reading
  | [], r => .ok r
  | name :: rest, r => do stepNames isArray rest (← r.stepName isArray rest.isEmpty name)

/-- A header line. -/
def stepHeader (r : Reading) (line : Text) : Except DocumentError Reading := do
  match line with
  | '[' :: '[' :: rest => stepNames true (← readHeader [']', ']'] rest) { r with table := [] }
  | '[' :: c :: rest => stepNames false (← readHeader [']'] (c :: rest)) { r with table := [] }
  | _ => throw .malformed

/-- The fuel that reading a line takes. -/
def fuelFor (line : Text) : Nat := 4 * line.length + 8

/-- A line that is no header. -/
def stepEntry (r : Reading) (line : Text) : Except DocumentError Reading := do
  if '=' ∉ line then return r
  let table := (land r.table r.root).getD .null
  let (table, unfinished) ← readEntry (fuelFor line) line table
  return { r with root := ← hop (fun _ => .ok table) r.table r.root, unfinished }

/-- Whether a line closes the text that it belongs to. -/
def closes (content line : Text) : Except DocumentError Bool :=
  match content.head? with
  | some '[' =>
    match lastOf line with
    | none => .error .outOfRange
    | some c => .ok (c == ']')
  | some q => .ok (2 < line.length && (line.reverse.take 3).all (· == q))
  | none => .error .outOfRange

/-- A line of a text that spans lines. -/
def stepText (r : Reading) (u : Unfinished) (line : Text) : Except DocumentError Reading := do
  let content := u.content ++ line
  if ← closes content line then
    let (v, _) ← readValue (fuelFor content) true content
    let root ← hop (addName u.name v) r.table r.root
    return { r with root, unfinished := none }
  else
    let backslash := endsEscaping content
    let content := if backslash then content.dropLast else content ++ ['\n']
    return { r with unfinished := some ⟨u.name, content, backslash⟩ }

/-- A line. Blanks around it count only inside of a text whose first line has ended. -/
def stepLine (r : Reading) (line : Text) : Except DocumentError Reading := do
  match r.unfinished with
  | some u =>
    let line := if u.backslash || !('\n' ∈ u.content) then line.stripped else line
    if line = [] ∧ u.backslash then return r
    r.stepText u line
  | none =>
    match line.stripped with
    | [] => return r
    | '[' :: rest => r.stepHeader ('[' :: rest)
    | '{' :: rest =>
      if lastOf ('{' :: rest) ≠ some '}' then throw .malformed
      let table := (land r.table r.root).getD .null
      let table ← readInline (fuelFor rest) ('{' :: rest) table
      return { r with root := ← hop (fun _ => .ok table) r.table r.root }
    | entry => r.stepEntry entry

end Reading

/-- Reads a document. -/
def read (s : Text) : Except DocumentError Value := do
  return (← (← lines s).foldlM Reading.stepLine .start).root

end Stencil.Toml
