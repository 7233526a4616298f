import Stencil.Formats.Yaml.Scalar
import Stencil.Text.Encoding

/-!
# Anchors, tags and directives

A node may be given a name, by which aliases refer to it, and a tag, which says what it is. A tag is
written in full, or as a handle and a suffix; directives at the head of a document say what its
handles stand for. Octets of a tag that are written in hexadecimal stand for the UTF-8 of a text.
-/

namespace Stencil.Yaml

/-! ## Anchors -/

/-- Whether something may stand right behind the name of an anchor or an alias. -/
def endsName (c : Option Char) : Bool := endsWord c || c.any ("?:,]\x7d%@\x60".toList.contains ·)

/-- The name behind the mark of an anchor or an alias, which is the next character. -/
def anchorName (p : Cursor) : Except DocumentError (Text × Cursor) :=
  let (name, p) := p.next.span isWordChar
  if name = [] ∨ !endsName p.peek then .error .malformed else .ok (name, p)

/-! ## Tags -/

/-- A tag as it is written; one without a handle is written in full. -/
structure TagName where
  handle : Option Text
  suffix : Text
deriving DecidableEq, Repr

/-- Whether a character may stand in a tag. -/
def isTagChar (c : Char) : Bool := c.isAlphanum || "-;/?:@&=+$,_.!~*'()[]".toList.contains c

/-- Octets in hexadecimal, each after a percent sign. -/
def octets : Text → Except DocumentError (List UInt8 × Text)
  | '%' :: a :: b :: rest =>
    match hexNumber? [a, b] with
    | none => .error .malformed
    | some n => do
      let (more, rest) ← octets rest
      return (UInt8.ofNat n :: more, rest)
  | '%' :: _ => .error .malformed
  | rest => .ok ([], rest)

/-- The characters of a tag or of a part of it. -/
def tagText : (fuel : Nat) → Cursor → Except DocumentError (Text × Cursor)
  | 0, _ => .error .malformed
  | fuel + 1, p =>
    if p.peek = some '%' then do
      let (bytes, _) ← octets p.rest
      match Text.decode? ⟨bytes.toArray⟩ with
      | none => throw .malformed
      | some chunk =>
        let (more, p) ← tagText fuel (p.skip (3 * bytes.length))
        return (chunk ++ more, p)
    else
      match p.span isTagChar with
      | ([], p) => .ok ([], p)
      | (chunk, p) => do
        let (more, p) ← tagText fuel p
        return (chunk ++ more, p)

/-- The characters of a tag, of which there is at least one. -/
def tagSuffix (p : Cursor) : Except DocumentError (Text × Cursor) :=
  if p.peek.any fun c => isTagChar c || c == '%' then tagText (p.rest.length + 1) p
  else .error .malformed

/-- A handle: an exclamation mark, or a word between two of them. -/
def tagHandle (p : Cursor) : Except DocumentError (Text × Cursor) :=
  if p.peek ≠ some '!' then .error .malformed
  else if p.peekNext = some ' ' then .ok (['!'], p.next)
  else
    let (word, q) := p.next.span isWordChar
    if q.peek = some '!' then .ok ('!' :: word ++ ['!'], q.next) else .error .malformed

/-- A tag, of which the next character is the mark. -/
def tagName (p : Cursor) : Except DocumentError (TagName × Cursor) := do
  let (name, p) : TagName × Cursor ←
    if p.peekNext = some '<' then do
      let (suffix, p) ← tagSuffix (p.skip 2)
      if p.peek ≠ some '>' then throw .malformed
      pure (⟨none, suffix⟩, p.next)
    else if endsWord p.peekNext then pure (⟨none, ['!']⟩, p.next)
    else do
      let word := p.next.rest.takeWhile fun c => !endsMark (some c)
      let (handle, p) ← if '!' ∈ word then tagHandle p else pure (['!'], p.next)
      let (suffix, p) ← tagSuffix p
      pure (⟨some handle, suffix⟩, p)
  if !endsMark p.peek then throw .malformed
  return (name, p)

/-! ## Directives -/

/-- What a document is told about itself. -/
inductive Directive where
  /-- The version that the document is written in, of which the first number counts. -/
  | version (major : Nat)
  | handle (handle meaning : Text)
  | other

/-- A number of a version. -/
def versionNumber (p : Cursor) : Except DocumentError (Nat × Cursor) :=
  let (digits, p) := p.span Char.isDigit
  if digits = [] then .error .malformed
  else if Decimal.longestInteger < digits.length then .error .badValue
  else .ok (Decimal.ofDigits digits, p)

/-- What follows the name of a directive. -/
def directiveContent (name : Text) (p : Cursor) : Except DocumentError (Directive × Cursor) := do
  if name = "YAML".toList then
    let (major, p) ← versionNumber p.dropBlanks
    if p.peek ≠ some '.' then throw .malformed
    let (_, p) ← versionNumber p.next
    if !endsMark p.peek then throw .malformed
    return (.version major, p)
  else if name = "TAG".toList then
    let (handle, p) ← tagHandle p.dropBlanks
    if p.peek ≠ some ' ' then throw .malformed
    let (meaning, p) ← tagSuffix p.dropBlanks
    if !endsMark p.peek then throw .malformed
    return (.handle handle meaning, p)
  else return (.other, p.dropLine)

/-- A directive, of which the next character is the mark, with the line that it stands on. -/
def directive (p : Cursor) : Except DocumentError (Directive × Cursor) := do
  let (name, p) := p.next.span isWordChar
  if name = [] ∨ !endsMark p.peek then throw .malformed
  let (directive, p) ← directiveContent name p
  return (directive, ← ignoredLine p)

end Stencil.Yaml
