import Stencil.Text.Printable

/-!
# Quoted texts

How a text or a run of bytes is written inside a list or a message. Single quotes are used unless the
text has a single quote and no double one. The backslash, the chosen quote, the line feed, the return
and the tab have two-character escapes; every other character that is not printable is written by its
code point in two, four or eight hexadecimal digits, whichever is the least that holds it.
-/

namespace Stencil

namespace Text

/-- A hexadecimal numeral of at least `width` digits, in lower case. -/
def hexPadded (width n : Nat) : Text :=
  let digits := Nat.toDigits 16 n
  List.replicate (width - digits.length) '0' ++ digits

/-- The quote that a text is written between. -/
def quoteFor (s : Text) : Char := if '\'' ∈ s ∧ '"' ∉ s then '"' else '\''

/-- A character that is written by its code point. -/
def codeEscape (c : Char) : Text :=
  if c.toNat < 0x100 then ['\\', 'x'] ++ hexPadded 2 c.toNat
  else if c.toNat < 0x10000 then ['\\', 'u'] ++ hexPadded 4 c.toNat
  else ['\\', 'U'] ++ hexPadded 8 c.toNat

/-- A character inside a quoted text. -/
def escapedChar (quote c : Char) : Text :=
  if c = '\\' ∨ c = quote then ['\\', c]
  else if c = '\n' then ['\\', 'n']
  else if c = '\r' then ['\\', 'r']
  else if c = '\t' then ['\\', 't']
  else if isPrintable c then [c]
  else codeEscape c

/-- A text between quotes. -/
def quoted (s : Text) : Text :=
  let quote := quoteFor s
  [quote] ++ s.flatMap (escapedChar quote) ++ [quote]

end Text

/-- Bytes between quotes, marked by a leading `b`. The bytes of printable ASCII characters are shown
as those characters. -/
def quotedBytes (bytes : List UInt8) : Text :=
  let chars : Text := bytes.map fun b => Char.ofNat b.toNat
  let quote := Text.quoteFor chars
  let shownByte (c : Char) : Text :=
    if c.toNat < 0x7F then Text.escapedChar quote c else ['\\', 'x'] ++ Text.hexPadded 2 c.toNat
  ['b', quote] ++ chars.flatMap shownByte ++ [quote]

end Stencil
