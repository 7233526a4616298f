import Stencil.Formats.Document

/-!
# A place in a YAML document

What is still to be read, and the line and column of the next character. Lines end in a line feed, a
return, the pair of them, a next-line character or one of the two Unicode separators. Beyond the last
character there is nothing, which most questions treat like a line end.
-/

namespace Stencil.Yaml

/-- A place in a document. -/
structure Cursor where
  rest : Text
  index : Nat
  line : Nat
  column : Nat

/-- Whether a character ends a line. -/
def isBreak (c : Char) : Bool :=
  c == '\n' || c == '\r' || c == Char.ofNat 0x85 || c == Char.ofNat 0x2028 || c == Char.ofNat 0x2029

/-- Whether a place is at a line end or at the end of the document. -/
def endsLine (c : Option Char) : Bool := c.all isBreak

/-- Whether a place is at a blank, a line end or the end of the document. -/
def endsWord (c : Option Char) : Bool := c.all fun c => isBreak c || c == ' ' || c == '\t'

/-- Whether a place is at a plain blank, a line end or the end of the document. -/
def endsMark (c : Option Char) : Bool := c.all fun c => isBreak c || c == ' '

/-- A letter, a digit, a hyphen or an underscore. -/
def isWordChar (c : Char) : Bool := c.isAlphanum || c == '-' || c == '_'

namespace Cursor

/-- The beginning of a document. -/
def start (s : Text) : Cursor := ⟨s, 0, 0, 0⟩

/-- The next character. -/
def peek (p : Cursor) : Option Char := p.rest.head?

/-- The character after the next. -/
def peekNext (p : Cursor) : Option Char := p.rest[1]?

/-- The place after the next character. -/
def next (p : Cursor) : Cursor :=
  match p.rest with
  | [] => p
  | c :: rest =>
    if isBreak c && !(c == '\r' && rest.head? == some '\n') then ⟨rest, p.index + 1, p.line + 1, 0⟩
    else if c = Char.ofNat 0xFEFF then ⟨rest, p.index + 1, p.line, p.column⟩
    else ⟨rest, p.index + 1, p.line, p.column + 1⟩

/-- The place after some more characters. -/
def skip (p : Cursor) : Nat → Cursor
  | 0 => p
  | n + 1 => p.next.skip n

/-- The characters from here on for which a test holds, and the place after them. -/
def span (p : Cursor) (test : Char → Bool) : Text × Cursor :=
  let found := p.rest.takeWhile test
  (found, p.skip found.length)

/-- The place after the characters for which a test holds. -/
def drop (p : Cursor) (test : Char → Bool) : Cursor := (p.span test).2

/-- The place after blanks. -/
def dropBlanks (p : Cursor) : Cursor := p.drop (· == ' ')

/-- The place at the end of the line. -/
def dropLine (p : Cursor) : Cursor := p.drop fun c => !isBreak c

/-- The line break at the cursor, as it counts in a text, and the place after it. -/
def lineBreak? (p : Cursor) : Option (Char × Cursor) :=
  match p.rest with
  | '\r' :: '\n' :: _ => some ('\n', p.skip 2)
  | c :: _ =>
    if c = '\n' ∨ c = '\r' ∨ c = Char.ofNat 0x85 then some ('\n', p.next)
    else if isBreak c then some (c, p.next)
    else none
  | [] => none

/-- Whether a document begins or ends here: three hyphens or three dots, and nothing right behind. -/
def atSeparator (p : Cursor) : Bool :=
  match p.rest with
  | '-' :: '-' :: '-' :: rest | '.' :: '.' :: '.' :: rest => endsWord rest.head?
  | _ => false

end Cursor

end Stencil.Yaml
