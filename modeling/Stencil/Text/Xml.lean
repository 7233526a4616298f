import Stencil.Text.Basic

/-!
# XML escapes

The five characters that XML reserves are written as its five predefined entities. `escape` works
character by character, so it distributes over concatenation; `decode` reads entities back in one
pass from the left and leaves everything else alone.
-/

namespace Stencil.Xml

/-- A character as it stands in XML text or in an attribute. -/
def entity (c : Char) : Text :=
  if c = '&' then ['&', 'a', 'm', 'p', ';']
  else if c = '<' then ['&', 'l', 't', ';']
  else if c = '>' then ['&', 'g', 't', ';']
  else if c = '"' then ['&', 'q', 'u', 'o', 't', ';']
  else if c = '\'' then ['&', 'a', 'p', 'o', 's', ';']
  else [c]

/-- A text with its reserved characters written as entities. -/
def escape (s : Text) : Text := s.flatMap entity

/-- A text with the five entities read back, once, from left to right. -/
def decode : Text → Text
  | '&' :: 'a' :: 'm' :: 'p' :: ';' :: rest => '&' :: decode rest
  | '&' :: 'l' :: 't' :: ';' :: rest => '<' :: decode rest
  | '&' :: 'g' :: 't' :: ';' :: rest => '>' :: decode rest
  | '&' :: 'q' :: 'u' :: 'o' :: 't' :: ';' :: rest => '"' :: decode rest
  | '&' :: 'a' :: 'p' :: 'o' :: 's' :: ';' :: rest => '\'' :: decode rest
  | c :: rest => c :: decode rest
  | [] => []

end Stencil.Xml
