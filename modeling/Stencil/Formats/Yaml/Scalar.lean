import Stencil.Formats.Yaml.Cursor
import Stencil.Text.Symbol

/-!
# Scalars of a YAML document

How the text of a scalar is read in each of its styles. Lines of a quoted or plain scalar are folded:
a single line end counts as a blank, and of several the first is dropped. A literal scalar keeps its
lines, a folded one folds those that begin with neither a blank nor a tab.

Only the escapes of a double-quoted scalar can stand for half of a pair.
-/

namespace Stencil.Yaml

/-! ## Quoted scalars -/

/-- What a one-letter escape stands for. -/
def escapeOf : Char → Option Char
  | '0' => some (Char.ofNat 0)
  | 'a' => some (Char.ofNat 7)
  | 'b' => some (Char.ofNat 8)
  | 't' | '\t' => some '\t'
  | 'n' => some '\n'
  | 'v' => some (Char.ofNat 11)
  | 'f' => some (Char.ofNat 12)
  | 'r' => some '\r'
  | 'e' => some (Char.ofNat 27)
  | ' ' => some ' '
  | '"' => some '"'
  | '\\' => some '\\'
  | '/' => some '/'
  | 'N' => some (Char.ofNat 0x85)
  | '_' => some (Char.ofNat 0xA0)
  | 'L' => some (Char.ofNat 0x2028)
  | 'P' => some (Char.ofNat 0x2029)
  | _ => none

/-- How many hexadecimal digits follow the letter of an escape. -/
def escapeWidth : Char → Option Nat
  | 'x' => some 2
  | 'u' => some 4
  | 'U' => some 8
  | _ => none

/-- The line ends and the blanks between lines inside a quoted scalar. A document may not begin or end
there. -/
def quotedBreaks : (fuel : Nat) → Cursor → Except DocumentError (Text × Cursor)
  | 0, _ => .error .malformed
  | fuel + 1, p =>
    if p.atSeparator then .error .malformed
    else
      let p := p.drop fun c => c == ' ' || c == '\t'
      match p.lineBreak? with
      | none => .ok ([], p)
      | some (c, p) => do
        let (more, p) ← quotedBreaks fuel p
        return (c :: more, p)

/-- A line end and the ones after it, folded. -/
def folded (first : Char) (more : Text) : Text :=
  if first ≠ '\n' then first :: more
  else if more = [] then [' ']
  else more

/-- The symbol of a number that an escape gives. -/
def escapedSymbol (n : Nat) : Except DocumentError Symbol :=
  if 0x80000000 ≤ n then .error .overflow
  else
    match Symbol.ofCode? n with
    | none => .error .badValue
    | some x => .ok x

/-- An escape of a double-quoted scalar, after its backslash. -/
def quotedEscape (p : Cursor) : Except DocumentError (Symbols × Cursor) :=
  match p.peek with
  | none => .error .malformed
  | some c =>
    match escapeOf c, escapeWidth c with
    | some d, _ => .ok ([.char d], p.next)
    | none, some width =>
      let p := p.next
      let digits := p.rest.take width
      if digits.length < width then .error .malformed
      else
        match hexNumber? digits with
        | none => .error .malformed
        | some n => (escapedSymbol n).map fun x => ([x], p.skip width)
    | none, none =>
      match p.lineBreak? with
      | none => .error .malformed
      | some (_, p) => (quotedBreaks (p.rest.length + 1) p).map fun (more, p) => (.ofText more, p)

/-- A quoted scalar after its opening quote. -/
def quotedScalar (quote : Char) : (fuel : Nat) → Cursor → Except DocumentError (Symbols × Cursor)
  | 0, _ => .error .malformed
  | fuel + 1, p => do
    let double := quote == '"'
    match p.rest with
    | [] => throw .malformed
    | c :: rest =>
      let (chunk, p, closed) : Symbols × Cursor × Bool ←
        if c = quote then
          if !double ∧ rest.head? = some quote then pure ([.char '\''], p.skip 2, false)
          else pure ([], p.next, true)
        else if double ∧ c = '\\' then do
          let (chunk, p) ← quotedEscape p.next
          pure (chunk, p, false)
        else if c = ' ' ∨ c = '\t' ∨ isBreak c then do
          let (blanks, p) := p.span fun c => c == ' ' || c == '\t'
          match p.lineBreak? with
          | none => if p.rest = [] then throw .malformed else pure (.ofText blanks, p, false)
          | some (first, p) => do
            let (more, p) ← quotedBreaks (p.rest.length + 1) p
            pure (.ofText (folded first more), p, false)
        else pure ([.char c], p.next, false)
      if closed then return (chunk, p)
      let (more, p) ← quotedScalar quote fuel p
      return (chunk ++ more, p)

/-! ## Plain scalars -/

/-- Whether a plain scalar goes on at the head of a text. -/
def goesOn (inFlow : Bool) : Text → Bool
  | [] => false
  | c :: rest =>
    if isBreak c || c == ' ' || c == '\t' then false
    else if c = ':' then
      !(endsWord rest.head? ||
        (inFlow && rest.head?.any fun d => d == ',' || d == '[' || d == ']' || d == '{' || d == '}'))
    else !(inFlow && (c == ',' || c == '?' || c == '[' || c == ']' || c == '{' || c == '}'))

/-- The part of a plain scalar on one line that holds no blanks. -/
def plainChunk (inFlow : Bool) : Text → Text
  | [] => []
  | c :: rest => if goesOn inFlow (c :: rest) then c :: plainChunk inFlow rest else []

/-- What separates two parts of a plain scalar. -/
structure PlainGap where
  /-- The text that it counts as; nothing when a document begins or ends there. -/
  content : Option Text
  /-- The place after it. -/
  place : Cursor
  /-- Whether a line ended in it. -/
  newLine : Bool

/-- The line ends and blanks after the first line end of a gap. -/
def plainBreaks : (fuel : Nat) → Cursor → Option (Text × Cursor)
  | 0, _ => none
  | fuel + 1, p =>
    match p.peek with
    | some ' ' => plainBreaks fuel p.next
    | _ =>
      match p.lineBreak? with
      | none => some ([], p)
      | some (c, p) =>
        if p.atSeparator then none
        else (plainBreaks fuel p).map fun (more, p) => (c :: more, p)

/-- The gap after a part of a plain scalar. -/
def plainGap (p : Cursor) : PlainGap :=
  let (blanks, p) := p.span (· == ' ')
  match p.lineBreak? with
  | none => ⟨some blanks, p, false⟩
  | some (first, p) =>
    if p.atSeparator then ⟨none, p, true⟩
    else
      match plainBreaks (p.rest.length + 1) p with
      | none => ⟨none, p, true⟩
      | some (more, p) => ⟨some (folded first more), p, true⟩

/-- A plain scalar: its text, the place after it, and whether a line ended after its last part. Lines
of a scalar in a block are indented by at least `indent`. -/
def plainScalar (inFlow : Bool) (indent : Int) : (fuel : Nat) → (gap : Text) → (newLine : Bool) →
    Cursor → Text × Cursor × Bool
  | 0, _, newLine, p => ([], p, newLine)
  | fuel + 1, gap, newLine, p =>
    if p.peek = some '#' then ([], p, newLine)
    else
      let chunk := plainChunk inFlow p.rest
      if chunk = [] then ([], p, newLine)
      else
        let p := p.skip chunk.length
        let ⟨content, p, newLine⟩ := plainGap p
        match content with
        | none => (gap ++ chunk, p, newLine)
        | some content =>
          if content = [] ∨ p.peek = some '#' ∨ (!inFlow ∧ (p.column : Int) < indent) then
            (gap ++ chunk, p, newLine)
          else
            let (more, p, newLine) := plainScalar inFlow indent fuel content newLine p
            (gap ++ chunk ++ more, p, newLine)

/-! ## Literal and folded scalars -/

/-- What happens to the line ends at the end of a scalar. -/
inductive Chomping where
  | strip
  | clip
  | keep
deriving DecidableEq

/-- The header of a block scalar: its chomping and its indentation, if it is given. -/
structure BlockHeader where
  chomping : Chomping
  indent : Option Nat

/-- The chomping that a sign asks for. -/
def chomping? : Option Char → Option Chomping
  | some '+' => some .keep
  | some '-' => some .strip
  | _ => none

/-- The indentation that a digit asks for. -/
def indentDigit? (c : Option Char) : Option Nat :=
  match c with
  | some c => if c.isDigit then some (c.toNat - '0'.toNat) else none
  | none => none

/-- Reads the header of a block scalar, in either order. -/
def blockHeader (p : Cursor) : Except DocumentError (BlockHeader × Cursor) := do
  let (header, p) : BlockHeader × Cursor :=
    match chomping? p.peek with
    | some chomping =>
      let p := p.next
      match indentDigit? p.peek with
      | some n => (⟨chomping, some n⟩, p.next)
      | none => (⟨chomping, none⟩, p)
    | none =>
      match indentDigit? p.peek with
      | some n =>
        let p := p.next
        match chomping? p.peek with
        | some chomping => (⟨chomping, some n⟩, p.next)
        | none => (⟨.clip, some n⟩, p)
      | none => (⟨.clip, none⟩, p)
  if header.indent = some 0 ∨ !endsMark p.peek then throw .malformed
  return (header, p)

/-- The rest of a line on which nothing but a comment may stand, and its end. -/
def ignoredLine (p : Cursor) : Except DocumentError Cursor := do
  let p := p.dropBlanks
  let p := if p.peek = some '#' then p.dropLine else p
  if !endsLine p.peek then throw .malformed
  return match p.lineBreak? with
    | none => p
    | some (_, p) => p

/-- The empty lines at the beginning of a block scalar and the deepest column of their blanks. -/
def leadingLines : (fuel : Nat) → (deepest : Nat) → Cursor → Text × Nat × Cursor
  | 0, deepest, p => ([], deepest, p)
  | fuel + 1, deepest, p =>
    match p.peek with
    | some ' ' =>
      let p := p.next
      leadingLines fuel (max deepest p.column) p
    | _ =>
      match p.lineBreak? with
      | none => ([], deepest, p)
      | some (c, p) =>
        let (more, deepest, p) := leadingLines fuel deepest p
        (c :: more, deepest, p)

/-- The blanks of an indentation, at most up to its column. -/
def dropIndent (indent : Nat) (p : Cursor) : Cursor :=
  p.skip ((p.rest.takeWhile (· == ' ')).length.min (indent - p.column))

/-- The empty lines between two lines of a block scalar. -/
def emptyLines (indent : Nat) : (fuel : Nat) → Cursor → Text × Cursor
  | 0, p => ([], p)
  | fuel + 1, p =>
    let p := dropIndent indent p
    match p.lineBreak? with
    | none => ([], p)
    | some (c, p) =>
      let (more, p) := emptyLines indent fuel p
      (c :: more, p)

/-- The lines of a block scalar, with the empty lines before the next one. It answers the text up to
the last line end, that line end, and the empty lines after it. -/
def blockLines (isFolded : Bool) (indent : Nat) : (fuel : Nat) → (breaks : Text) → Cursor →
    Text × Text × Text × Cursor
  | 0, breaks, p => ([], [], breaks, p)
  | fuel + 1, breaks, p =>
    if p.column ≠ indent ∨ p.peek = none then ([], [], breaks, p)
    else
      let isBlank (c : Option Char) : Bool := c == some ' ' || c == some '\t'
      let startsText := !isBlank p.peek
      let (line, p) := p.span fun c => !isBreak c
      let (ending, p) : Text × Cursor := match p.lineBreak? with
        | none => ([], p)
        | some (c, p) => ([c], p)
      let (later, p) := emptyLines indent (p.rest.length + 1) p
      if p.column = indent ∧ p.peek ≠ none then
        let joint : Text :=
          if isFolded ∧ ending = ['\n'] ∧ startsText ∧ !isBlank p.peek then
            (if later = [] then [' '] else [])
          else ending
        let (more, last, left, p) := blockLines isFolded indent fuel later p
        (breaks ++ line ++ joint ++ more, last, left, p)
      else (breaks ++ line, ending, later, p)

/-- A block scalar after its mark, inside a block that is indented by `parent`. -/
def blockScalar (isFolded : Bool) (parent : Int) (p : Cursor) :
    Except DocumentError (Text × Cursor) := do
  let (header, p) ← blockHeader p
  let p ← ignoredLine p
  let least := (max (parent + 1) 1).toNat
  let (breaks, indent, p) : Text × Nat × Cursor :=
    match header.indent with
    | none =>
      let (breaks, deepest, p) := leadingLines (p.rest.length + 1) 0 p
      (breaks, max least deepest, p)
    | some n =>
      let indent := least + n - 1
      let (breaks, p) := emptyLines indent (p.rest.length + 1) p
      (breaks, indent, p)
  let (content, ending, later, p) := blockLines isFolded indent (p.rest.length + 1) breaks p
  let tail := match header.chomping with
    | .strip => []
    | .clip => ending
    | .keep => ending ++ later
  return (content ++ tail, p)

end Stencil.Yaml
