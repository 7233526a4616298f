import Stencil.Formats.Yaml.Property

/-!
# Tokens of a YAML document

A document is cut into tokens before its nodes are put together. Indentation becomes tokens of its
own: one where a block begins to be indented further, one for every block that ends.

That something was the key of a mapping shows only at the colon behind it. Wherever a key may stand,
the place is therefore kept as a pending key, one for the block and one for each open flow
collection. A colon confirms it, and the token at that place is marked as the first of a key; a line
end or a distance of more than 1024 characters gives it up. A pending key in the column of its block
must be confirmed, because nothing else may stand there.

A text that cannot be cut further ends with a token that says why, so that a fault counts only for a
reader who comes that far. Whether a token begins a key must be known before it is read: if one may
begin where the fault is met, the fault takes the place of its first token.
-/

namespace Stencil.Yaml

/-- A token. -/
inductive Token where
  | directive (d : Directive)
  | documentStart
  | documentEnd
  | blockSequenceStart
  | blockMappingStart
  | blockEnd
  | flowSequenceStart
  | flowSequenceEnd
  | flowMappingStart
  | flowMappingEnd
  | blockEntry
  | flowEntry
  | key
  | value
  | alias (name : Text)
  | anchor (name : Text)
  | tag (name : TagName)
  | scalar (content : Symbols) (isPlain : Bool)
  /-- What comes here cannot be cut into tokens. -/
  | fault (e : DocumentError)

/-- What a token begins besides itself. -/
inductive Lead where
  | nothing
  | key
  /-- The first key of a mapping. -/
  | mapping

/-- The tokens that stand for what a token begins. -/
def Lead.tokens : Lead → List Token
  | .nothing => []
  | .key => [.key]
  | .mapping => [.blockMappingStart, .key]

/-- A place where a key may have begun: the number of the token there, whether it has to be a key,
and where it stands in the document. -/
structure PendingKey where
  position : Nat
  required : Bool
  index : Nat
  line : Nat
  column : Nat

/-- Whether a colon comes too late for the key. -/
def PendingKey.isStale (k : PendingKey) (p : Cursor) : Bool :=
  k.line != p.line || 1024 < p.index - k.index

/-- A document cut up to some place. -/
structure Scan where
  place : Cursor
  tokens : Array (Lead × Token)
  /-- The columns of the open blocks, innermost first. -/
  indents : List Nat
  pending : Option PendingKey
  /-- The pending keys around each open flow collection, innermost first. -/
  outer : List (Option PendingKey)
  /-- Whether a key may begin here. -/
  keyAllowed : Bool

namespace Scan

/-- A document of which nothing has been cut. -/
def start (s : Text) : Scan :=
  let p := Cursor.start s
  ⟨if p.peek = some (Char.ofNat 0xFEFF) then p.next else p, #[], [], none, [], true⟩

/-- Whether a flow collection is open. -/
def inFlow (s : Scan) : Bool := !s.outer.isEmpty

/-- The column of the innermost block; outside of blocks it is left of the first. -/
def indent (s : Scan) : Int :=
  match s.indents with
  | [] => -1
  | n :: _ => n

/-- One more token. -/
def push (s : Scan) (t : Token) : Scan := { s with tokens := s.tokens.push (.nothing, t) }

/-- The place after some characters. -/
def skip (s : Scan) (n : Nat) : Scan := { s with place := s.place.skip n }

/-! ## Keys -/

/-- Gives up the pending key. -/
def dropKey (s : Scan) : Except DocumentError Scan :=
  if s.pending.any (·.required) then .error .malformed else .ok { s with pending := none }

/-- Keeps the next token as a pending key, where a key may begin. -/
def keepKey (s : Scan) : Except DocumentError Scan :=
  if !s.keyAllowed then .ok s
  else do
    let s ← s.dropKey
    let p := s.place
    let required := !s.inFlow && s.indent == p.column
    let k : PendingKey := ⟨s.tokens.size, required, p.index, p.line, p.column⟩
    return { s with pending := some k }

/-- A pending key that is not stale. -/
def freshKey (p : Cursor) : Option PendingKey → Except DocumentError (Option PendingKey)
  | none => .ok none
  | some k =>
    if !k.isStale p then .ok (some k) else if k.required then .error .malformed else .ok none

/-- Gives up the pending keys that are stale. -/
def dropStale (s : Scan) : Except DocumentError Scan := do
  let pending ← freshKey s.place s.pending
  let outer ← s.outer.mapM (freshKey s.place)
  return { s with pending, outer }

/-! ## Blocks -/

/-- Opens a block in a column that is right of the innermost one. -/
def openBlock (column : Nat) (first : Token) (s : Scan) : Scan :=
  if s.indent < column then { s.push first with indents := column :: s.indents } else s

/-- Closes the blocks whose column is not among those kept. -/
def closeBlocks (keeps : Nat → Bool) (s : Scan) : Scan :=
  if s.inFlow then s
  else
    let closed := s.indents.takeWhile fun n => !keeps n
    { s with
      indents := s.indents.dropWhile fun n => !keeps n
      tokens := s.tokens ++ (closed.map fun _ => (Lead.nothing, Token.blockEnd)).toArray }

/-- Closes all blocks, where a document or the text ends. -/
def closeAll (s : Scan) : Except DocumentError Scan := do
  let s ← (s.closeBlocks fun _ => false).dropKey
  return { s with keyAllowed := false }

/-! ## One token -/

/-- Blanks, comments and line ends. Behind a line end of a block a key may begin. -/
def skipBlanks : (fuel : Nat) → Scan → Scan
  | 0, s => s
  | fuel + 1, s =>
    let p := s.place.dropBlanks
    let p := if p.peek = some '#' then p.dropLine else p
    match p.lineBreak? with
    | none => { s with place := p }
    | some (_, p) => skipBlanks fuel { s with place := p, keyAllowed := s.keyAllowed || !s.inFlow }

/-- The separator of two documents. -/
def separator (s : Scan) (t : Token) : Except DocumentError Scan := do
  return ((← s.closeAll).push t).skip 3

/-- The beginning of a flow collection. -/
def openFlow (s : Scan) (t : Token) : Except DocumentError Scan := do
  let s ← s.keepKey
  return { (s.push t).skip 1 with pending := none, outer := s.pending :: s.outer, keyAllowed := true }

/-- The end of a flow collection. -/
def closeFlow (s : Scan) (t : Token) : Except DocumentError Scan := do
  let s ← s.dropKey
  match s.outer with
  | [] => throw .malformed
  | pending :: outer => return { (s.push t).skip 1 with pending, outer, keyAllowed := false }

/-- The mark between two elements of a flow collection. -/
def flowEntry (s : Scan) : Except DocumentError Scan := do
  let s ← s.dropKey
  return { (s.push .flowEntry).skip 1 with keyAllowed := true }

/-- A mark of a block, which opens one if it stands right of the innermost. -/
def blockMark (s : Scan) (first mark : Token) (keyAllowed : Bool) : Except DocumentError Scan := do
  if !s.inFlow && !s.keyAllowed then throw .malformed
  let s := if s.inFlow then s else s.openBlock s.place.column first
  let s ← s.dropKey
  return { (s.push mark).skip 1 with keyAllowed }

/-- The colon behind a key, or at the beginning of a value whose key was marked or left out. -/
def value (s : Scan) : Except DocumentError Scan :=
  match s.pending with
  | none => s.blockMark .blockMappingStart .value !s.inFlow
  | some k =>
    let opens := !s.inFlow && s.indent < k.column
    let lead := if opens then Lead.mapping else Lead.key
    .ok { s with
      place := s.place.next
      tokens := (s.tokens.modify k.position fun (_, t) => (lead, t)).push (.nothing, .value)
      indents := if opens then k.column :: s.indents else s.indents
      pending := none
      keyAllowed := false }

/-- A token that may begin a key and is read by `read`. -/
def word {α : Type} (s : Scan) (read : Cursor → Except DocumentError (α × Cursor)) (token : α → Token) :
    Except DocumentError Scan := do
  let s ← s.keepKey
  let (a, place) ← read s.place
  return { s.push (token a) with place, keyAllowed := false }

/-- A literal or folded scalar. -/
def block (s : Scan) (isFolded : Bool) : Except DocumentError Scan := do
  let s ← s.dropKey
  let (content, place) ← blockScalar isFolded s.indent s.place.next
  return { s.push (.scalar (.ofText content) false) with place, keyAllowed := true }

/-- A quoted scalar. -/
def quoted (s : Scan) (quote : Char) : Except DocumentError Scan :=
  s.word (fun p => quotedScalar quote (p.rest.length + 1) p.next) (.scalar · false)

/-- A plain scalar. Behind a line end that it took in, a key may begin. -/
def plain (s : Scan) : Except DocumentError Scan := do
  let s ← s.keepKey
  let (content, place, keyAllowed) :=
    plainScalar s.inFlow (s.indent + 1) (s.place.rest.length + 1) [] false s.place
  return { s.push (.scalar (.ofText content) true) with place, keyAllowed }

/-- Whether a plain scalar begins with a character that another one follows. -/
def startsPlain (inFlow : Bool) (c : Char) (next : Option Char) : Bool :=
  !(isBreak c || " \t-?:,[]\x7b\x7d#&*!|>'\"%@\x60".toList.contains c) ||
    (!endsWord next && (c == '-' || (!inFlow && (c == '?' || c == ':'))))

/-- The token that begins with the next character. -/
def token (s : Scan) (c : Char) : Except DocumentError Scan := do
  let p := s.place
  let isMark := endsWord p.peekNext
  if c = '%' ∧ p.column = 0 then
    let s ← s.closeAll
    let (d, place) ← directive s.place
    return { s.push (.directive d) with place }
  else if c = '-' ∧ p.column = 0 ∧ p.atSeparator then s.separator .documentStart
  else if c = '.' ∧ p.column = 0 ∧ p.atSeparator then s.separator .documentEnd
  else if c = '[' then s.openFlow .flowSequenceStart
  else if c = '{' then s.openFlow .flowMappingStart
  else if c = ']' then s.closeFlow .flowSequenceEnd
  else if c = '}' then s.closeFlow .flowMappingEnd
  else if c = ',' then s.flowEntry
  else if c = '-' ∧ isMark then s.blockMark .blockSequenceStart .blockEntry true
  else if c = '?' ∧ (s.inFlow ∨ isMark) then s.blockMark .blockMappingStart .key !s.inFlow
  else if c = ':' ∧ (s.inFlow ∨ isMark) then s.value
  else if c = '*' then s.word anchorName .alias
  else if c = '&' then s.word anchorName .anchor
  else if c = '!' then s.word tagName .tag
  else if c = '|' ∧ !s.inFlow then s.block false
  else if c = '>' ∧ !s.inFlow then s.block true
  else if c = '\'' ∨ c = '"' then s.quoted c
  else if startsPlain s.inFlow c p.peekNext then s.plain
  else throw .malformed

/-- Cuts off the next token, with the blocks that end before it. At the end of the text it answers
nothing but the last of those. -/
def step (s : Scan) : Except DocumentError (Scan × Bool) := do
  let s ← (s.skipBlanks (s.place.rest.length + 1)).dropStale
  let s := s.closeBlocks (· ≤ s.place.column)
  match s.place.peek with
  | none => return (← s.closeAll, true)
  | some c => return (← s.token c, false)

/-- How many tokens can be read before it is known what comes next: those in front of the pending keys. -/
def settled (s : Scan) : Nat :=
  let keys := ((s.pending :: s.outer).filterMap id).filter fun k => !k.isStale s.place
  keys.foldl (fun n k => min n k.position) s.tokens.size

/-- The document with a fault in place of what is not settled. -/
def fail (s : Scan) (e : DocumentError) : Scan :=
  { s with tokens := (s.tokens.take s.settled).push (.nothing, .fault e) }

/-- Cuts the rest of the text. -/
def run : (fuel : Nat) → Scan → Scan
  | 0, s => s
  | fuel + 1, s =>
    match s.step with
    | .error e => s.fail e
    | .ok (s, true) => s
    | .ok (s, false) => run fuel s

end Scan

/-- Whether a document may hold a character. -/
def isDocumentChar (c : Char) : Bool :=
  c == '\t' || c == '\n' || c == '\r' || (' ' ≤ c && c ≤ '~') || c == Char.ofNat 0x85 ||
    (0xA0 ≤ c.toNat && c.toNat ≤ 0xFFFD) || 0x10000 ≤ c.toNat

/-- The tokens of a document. -/
def tokens (s : Text) : List Token :=
  if s.all isDocumentChar then
    ((Scan.start s).run (s.length + 1)).tokens.toList.flatMap fun (lead, t) => lead.tokens ++ [t]
  else [.fault .malformed]

end Stencil.Yaml
