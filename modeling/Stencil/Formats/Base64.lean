import Stencil.Text.Basic

/-!
# Bytes in base 64

Four letters stand for three bytes. Characters that are no letters of the alphabet are skipped, and
padding ends the text only where it completes a group of four.
-/

namespace Stencil.Base64

/-- The value of a letter. -/
def letter? (c : Char) : Option Nat :=
  if 'A' ≤ c ∧ c ≤ 'Z' then some (c.toNat - 'A'.toNat)
  else if 'a' ≤ c ∧ c ≤ 'z' then some (c.toNat - 'a'.toNat + 26)
  else if c.isDigit then some (c.toNat - '0'.toNat + 52)
  else if c = '+' then some 62
  else if c = '/' then some 63
  else none

/-- The bytes of a text of which `group` letters of the present group of four were read, the last
with the value `left`, and `padding` signs of padding behind them. A group may not end early. -/
def decodeFrom (group left padding : Nat) : Text → Option (List UInt8)
  | [] => if group = 0 then some [] else none
  | c :: rest =>
    if c = '=' then
      if group < 2 then decodeFrom group left padding rest
      else if 4 ≤ group + padding + 1 then some []
      else decodeFrom group left (padding + 1) rest
    else
      match letter? c with
      | none => decodeFrom group left padding rest
      | some n =>
        if group = 0 then decodeFrom 1 n 0 rest
        else
          let byte :=
            if group = 1 then left * 4 + n / 16
            else if group = 2 then left % 16 * 16 + n / 4
            else left % 4 * 64 + n
          (decodeFrom ((group + 1) % 4) n 0 rest).map (UInt8.ofNat byte :: ·)

/-- The bytes that a text stands for. -/
def decode? (s : Text) : Option (List UInt8) := decodeFrom 0 0 0 s

end Stencil.Base64
