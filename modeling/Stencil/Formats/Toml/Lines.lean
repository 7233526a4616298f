import Stencil.Formats.Document
import Stencil.Text.Alphanumeric
import Stencil.Text.Blank

/-!
# The lines of a TOML document

Before its lines are read one by one, a document is walked through character by character. Comments
become blanks, the lines of an array become one line, and a line feed right after the quotes that
open a text is dropped. On the way it is made sure that every line that opens no table begins with a
key, that keys are made of the characters they may have, and that every quote is closed.

The walk looks back at the characters before it as they are by then. Looking back beyond the first
character it sees the end of the document, which matters only for quotes at the very beginning.
-/

namespace Stencil.Toml

/-- Where the walk is with respect to a key. -/
inductive KeyPlace where
  | none
  | inside
  | after
deriving DecidableEq

/-- The walk through a document. -/
structure Walk where
  chars : Array Char
  /-- Arrays that are open. -/
  depth : Int
  /-- The quote that an open text began with. -/
  quote : Option Char
  /-- Whether the open text may span lines. -/
  spansLines : Bool
  inTableArray : Bool
  inTable : Bool
  lineStart : Bool
  key : KeyPlace
  dotted : Bool

namespace Walk

/-- The walk before its first character. -/
def start (s : Text) : Walk := ⟨s.toArray, 0, none, false, false, false, true, .none, false⟩

/-- The character `k` places before the place `i`. -/
def back? (w : Walk) (i k : Nat) : Option Char :=
  if k ≤ i then w.chars[i - k]?
  else if k - i ≤ w.chars.size then w.chars[w.chars.size - (k - i)]?
  else none

/-- Whether the character `k` places before `i` is `c`. -/
def isBack (w : Walk) (i k : Nat) (c : Char) : Bool := w.back? i k == some c

/-- How many of the quotes right before `i` there are, up to two. -/
def quotesBefore (w : Walk) (i : Nat) (c : Char) : Nat :=
  if w.isBack i 1 c then (if w.isBack i 2 c then 2 else 1) else 0

/-- Whether an odd number of backslashes ends `k` places before `i`; `fuel` bounds the look back. -/
def oddBackslashes (w : Walk) (i : Nat) : (fuel k : Nat) → Bool
  | 0, _ => false
  | fuel + 1, k => if w.isBack i k '\\' then !(oddBackslashes w i fuel (k + 1)) else false

/-- The step inside a key. It answers whether the character is used up. -/
def stepKey (w : Walk) (i : Nat) (c : Char) : Except DocumentError (Bool × Walk) := do
  if w.key = .none then return (false, w)
  if c = '\n' then throw .malformed
  if let some q := w.quote then
    if c = q ∧ !(w.oddBackslashes i i 1) then return (true, { w with key := .after, quote := none })
    else return (true, w)
  let resumed : Except DocumentError Walk :=
    match w.chars[i + 1]? with
    | none => .error .outOfRange
    | some next => .ok (if !isBlank next && next != '.' then { w with key := .inside } else w)
  if w.key = .inside then
    if isBlank c then return (true, { w with key := .after })
    if c = '.' then return (true, { w with dotted := true })
    if isAlphanumeric c ∨ c = '_' ∨ c = '-' then return (true, w)
    if w.dotted ∧ w.isBack i 1 '.' ∧ (c = '"' ∨ c = '\'') then return (true, { w with quote := some c })
  else
    if isBlank c then return (true, ← if w.dotted then resumed else .ok w)
    if c = '.' then return (true, { (← resumed) with dotted := true })
  if c = '=' then return (false, { w with key := .none, dotted := false })
  throw .malformed

/-- The quote that is open after a quote `c`, and whether it spans lines. -/
def toggled (w : Walk) (c : Char) (tripled : Bool) : Walk :=
  if tripled then
    { w with spansLines := !w.spansLines, quote := if w.spansLines then none else some c }
  else { w with quote := if w.quote.isSome then none else some c }

/-- The step at a quote. Three quotes in a row open or close a text that spans lines; a double quote
behind an odd number of backslashes does neither. -/
def stepQuote (w : Walk) (i : Nat) (c : Char) : Walk :=
  if c = '\'' ∧ w.quote ≠ some '"' then w.toggled c (w.quotesBefore i c == 2)
  else if c = '"' ∧ w.quote ≠ some '\'' then
    match w.quotesBefore i c with
    | 1 => w.toggled c false
    | n =>
      if w.oddBackslashes i w.chars.size (n + 1) then { w with quote := w.quote.map fun _ => c }
      else w.toggled c (n == 2)
  else w

/-- Blanks from the place `i` to the end of its line. -/
def blankLine (chars : Array Char) : (fuel i : Nat) → Array Char
  | 0, _ => chars
  | fuel + 1, i =>
    match chars[i]? with
    | none | some '\n' => chars
    | some _ => blankLine (chars.setIfInBounds i ' ') fuel (i + 1)

/-- Whether brackets and comment marks count. -/
def isOpen (w : Walk) : Bool := w.quote.isNone && !w.inTable && !w.inTableArray

/-- The step at a comment mark. -/
def stepComment (w : Walk) (i : Nat) (c : Char) : Walk :=
  if c = '#' ∧ w.isOpen then { w with chars := blankLine w.chars (w.chars.size - i) i } else w

/-- The step at a bracket. -/
def stepBracket (w : Walk) (i : Nat) (c : Char) : Walk :=
  if c = '[' ∧ w.isOpen then
    if w.lineStart then
      if w.chars[i + 1]? = some '[' then { w with inTableArray := true } else { w with inTable := true }
    else { w with depth := w.depth + 1 }
  else if c = ']' ∧ w.quote.isNone then
    if w.inTable then { w with inTable := false }
    else if w.inTableArray then (if w.isBack i 1 ']' then { w with inTableArray := false } else w)
    else { w with depth := w.depth - 1 }
  else w

/-- The characters when a line ends inside a text: right after opening quotes the line feed goes. -/
def foldedLineEnd (w : Walk) (i : Nat) : Array Char :=
  match w.back? i 1, w.back? i 2 with
  | some q, some r =>
    if (q = '"' ∨ q = '\'') ∧ r = q then
      let chars := w.chars.setIfInBounds i q
      if w.isBack i 3 q then chars.setIfInBounds (i - 3) ' ' else chars
    else w.chars
  | _, _ => w.chars

/-- The step at the end of a line, and at the first character of one. -/
def stepLine (w : Walk) (i : Nat) (c : Char) : Except DocumentError Walk := do
  if c = '\n' then
    if w.quote.isSome ∨ w.spansLines then
      if w.spansLines then return { w with chars := w.foldedLineEnd i } else throw .malformed
    else if w.depth ≠ 0 then return { w with chars := w.chars.setIfInBounds i ' ' }
    else return { w with lineStart := true }
  let shown := (w.chars[i]?).getD c
  if w.lineStart ∧ shown ≠ ' ' ∧ shown ≠ '\t' then
    let w := { w with lineStart := false }
    if w.inTable ∨ w.inTableArray then return w
    else if shown = '=' then throw .malformed
    else return { w with key := .inside }
  return w

/-- The step at the place `i`. -/
def step (w : Walk) (i : Nat) : Except DocumentError Walk := do
  let c := (w.chars[i]?).getD ' '
  let (used, w) ← w.stepKey i c
  if used then return w
  (((w.stepQuote i c).stepComment i c).stepBracket i c).stepLine i c

end Walk

/-- The lines of a document, ready to be read one by one. -/
def lines (s : Text) : Except DocumentError (List Text) := do
  let w ← (List.range s.length).foldlM Walk.step (.start s)
  if w.key ≠ .none ∨ w.quote.isSome then throw .malformed
  return Text.parts '\n' w.chars.toList

end Stencil.Toml
