import Stencil.Text.Blank
import Stencil.Text.Width

/-!
# Lines that a console breaks

A console is so many columns wide, and a text that takes more is shown in several lines. A line is broken
in front of a word that does not fit on it any more. A word that fits on no line begins a line of its own
and is cut wherever one is full. The blanks behind a word stay with it, so they may reach over the edge,
and what does is left out.

Blanks are first left out by their number, as if every character took one column. What is then still too
much is cut off behind the last column, at a place that is looked for by halving. Several places will do
where characters that take no column stand there, and then the halving decides between them. Half of a
wide character becomes a blank.
-/

namespace Stencil.Console

/-! ## Breaking -/

/-- The words of a line, each with the blanks behind it, and the first one also with those before it. -/
def words (line : Text) : List Text :=
  match (line.dropWhile isBlank).splitBy fun c d => !isBlank c || isBlank d with
  | [] => [line]
  | word :: rest => (line.takeWhile isBlank ++ word) :: rest

/-- The lines that a word fills behind what is on its line already, and what is on the line after
them. -/
def chopped (width : Nat) (line : Text) : Text → List Text × Text
  | [] => ([], line)
  | c :: rest =>
    if line.columns + columns c ≤ width then chopped width (line ++ [c]) rest
    else
      let (full, last) := chopped width [c] rest
      (line :: full, last)

/-- The lines that words are put on, behind what is on the first line already. -/
def filled (width : Nat) (line : Text) : List Text → List Text
  | [] => [line]
  | word :: rest =>
    if line.columns + word.trimmed.columns ≤ width then filled width (line ++ word) rest
    else if word.trimmed.columns ≤ width then line :: filled width word rest
    else
      let (full, last) := chopped width [] word
      line :: full ++ filled width last rest

/-- Lines from the first that holds something. No line is broken in front of everything on it. -/
def begun : List Text → List Text
  | [] :: line :: rest => begun (line :: rest)
  | lines => lines

/-! ## Cutting off -/

/-- A line without the blanks at its end that are more characters than the console is wide. -/
def cropped (width : Nat) (line : Text) : Text := line.take (max line.trimmed.length width)

/-- The front of a line up to a column, which is looked for between two places. -/
def halved (width : Nat) (line : Text) (low high : Nat) : Text :=
  let middle := (low + high) / 2
  let front : Text := line.take (middle + 1)
  if front.columns = width + 1 ∧ front.getLast?.any (columns · = 2) then front.dropLast ++ [' ']
  else if front.columns ≠ width ∧ low < middle then
    if width < front.columns then halved width line low middle
    else halved width line middle high
  else front
termination_by high - low

/-- A line without what is beyond the last column. -/
def truncated (width : Nat) (line : Text) : Text :=
  if line.columns ≤ width then line else halved width line 0 line.length

/-! ## Wrapping -/

/-- The lines in which a console shows one line of a text. -/
def broken (width : Nat) (line : Text) : List Text :=
  (begun (filled width [] (words line))).map fun line => truncated width (cropped width line)

/-- The lines in which a console shows a text. Without a column it shows nothing. -/
def wrapped (width : Nat) (s : Text) : List Text :=
  if width = 0 then [] else (Text.parts '\n' s).flatMap (broken width)

end Stencil.Console
