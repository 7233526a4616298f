import Stencil.Text.Blank
import Stencil.Text.Emoji.Names

/-!
# Emoji by name

A name between two colons stands for the emoji that has it. A colon opens a name when another colon
comes before the next blank; that colon closes it, whether there is such an emoji or not, and so it
opens no other name. The case of a name does not count. Behind the name, `-emoji` asks for the
coloured form of the emoji and `-text` for the plain one.
-/

namespace Stencil.Emoji

/-- The words of a list, each with the one behind it. -/
def pairs : List Text → List (Text × Text)
  | name :: emoji :: rest => (name, emoji) :: pairs rest
  | _ => []

/-- The emoji by their names. -/
def table : List (Text × Text) :=
  (words.splitOn "\n").flatMap fun line => pairs (Text.parts ' ' line.toList)

/-- The accented capitals and the signs whose small letters occur in names, with those letters. -/
def smallLetters : List (Char × Char) :=
  [('Ã', 'ã'), ('Å', 'å'), ('Ç', 'ç'), ('É', 'é'), ('Í', 'í'), ('Ô', 'ô'), ('\u212a', 'k'),
    ('\u212b', 'å')]

/-- A character of a name in lower case. -/
def lowered (c : Char) : Char := (smallLetters.lookup c).getD c.toLower

/-- The endings that ask for a form, with the sign that follows the emoji in that form. -/
def forms : List (Text × Char) :=
  [("-emoji".toList, Char.ofNat 0xFE0F), ("-text".toList, Char.ofNat 0xFE0E)]

/-- What an ending asks for: the name without the ending, and the sign of the form. -/
def formOf (name : Text) : Text × Text :=
  let asked := forms.findSome? fun (ending, sign) =>
    (Text.after? ending.reverse name.reverse).map fun bare => (bare.reverse, [sign])
  asked.getD (name, [])

/-- The emoji of a name. -/
def find? (name : Text) : Option Text :=
  let (bare, sign) := formOf name
  (table.lookup (bare.map lowered)).map (· ++ sign)

/-- Whether a character may stand in a name. -/
def staysInName (c : Char) : Bool := c != ':' && !isBlank c

/-- The name that an opened text begins with, and the text behind the colon that closes it. -/
def name? (s : Text) : Option (Text × Text) :=
  match s.dropWhile staysInName with
  | ':' :: rest => some (s.takeWhile staysInName, rest)
  | _ => none

theorem length_lt_of_name? {s name rest : Text} (h : name? s = some (name, rest)) :
    rest.length < s.length := by
  unfold name? at h
  split at h
  next r hr =>
    cases h
    have := (List.dropWhile_sublist staysInName (l := s)).length_le
    rw [hr] at this
    simp only [List.length_cons] at this
    omega
  next => cases h

/-- The text with emoji in the place of their names. -/
def shown : Text → Text
  | [] => []
  | c :: rest =>
    if c = ':' then
      match _h : name? rest with
      | some (name, after) => (find? name).getD (':' :: name ++ [':']) ++ shown after
      | none => c :: shown rest
    else c :: shown rest
termination_by s => s.length
decreasing_by
  · have := length_lt_of_name? _h
    simp only [List.length_cons]
    omega
  all_goals simp

end Stencil.Emoji
