import Stencil.Text.Basic

/-!
# Blank characters

The white space of Unicode together with the four information separators. This one set decides
where the gap of a block tag ends, what is stripped from a variable's key, what is ignored around the
name of an environment, and where a console may break a line.
-/

namespace Stencil

/-- Whether a character is blank. -/
def isBlank (c : Char) : Bool :=
  let n := c.toNat
  (9 ≤ n && n ≤ 13) || (28 ≤ n && n ≤ 32) || n == 0x85 || n == 0xA0 || n == 0x1680 ||
    (0x2000 ≤ n && n ≤ 0x200A) || n == 0x2028 || n == 0x2029 || n == 0x202F || n == 0x205F ||
    n == 0x3000

/-- The text without the blanks at its end. -/
def Text.trimmed (s : Text) : Text := (s.reverse.dropWhile isBlank).reverse

/-- The text without the blanks at its two ends. -/
def Text.stripped (s : Text) : Text := Text.trimmed (s.dropWhile isBlank)

end Stencil
