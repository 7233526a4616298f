import Stencil.Text.Basic

/-!
# Texts as bytes

Files hold UTF-8. Where a file is read as text, each of its lines ends with a line feed, however the
file ends it.
-/

namespace Stencil.Text

/-- The text with every line end, a return with or without a line feed after it, as a line feed. -/
def unixLines : Text → Text
  | '\r' :: '\n' :: rest => '\n' :: unixLines rest
  | '\r' :: rest => '\n' :: unixLines rest
  | c :: rest => c :: unixLines rest
  | [] => []

/-- The text as UTF-8. -/
def encoded (s : Text) : ByteArray := (String.ofList s).toUTF8

/-- The text that bytes are the UTF-8 of. -/
def decode? (bytes : ByteArray) : Option Text := (String.fromUTF8? bytes).map String.toList

end Stencil.Text
