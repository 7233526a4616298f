import Stencil.Text.Markup
import Stencil.Text.Wrapping

/-!
# What a console shows

A console shows no control characters, and blanks instead of a tab, up to the next stop. It shows a text in
lines that are no wider than it is. Messages are shown without colours, so the sequences that would set them
are left out, and with them all others that tell a console what to do.
-/

namespace Stencil.Console

/-- The distance between two tab stops. -/
def tabWidth : Nat := 8

/-- The text with its tabs as blanks, where its line has been shown up to `column`. -/
def expanded (column : Nat) : Text → Text
  | [] => []
  | c :: rest =>
    if c = '\n' then c :: expanded 0 rest
    else if c = '\t' then
      let blanks := tabWidth - column % tabWidth
      List.replicate blanks ' ' ++ expanded (column + blanks) rest
    else c :: expanded (column + columns c) rest

/-- Whether a character moves the cursor, or rings, instead of being shown. -/
def isControl (c : Char) : Bool := [7, 8, 11, 12, 13].contains c.toNat

/-- A text as a console lays it out: without the characters that would move the cursor, and with blanks in
the place of tabs. -/
def laid (s : Text) : Text := expanded 0 (s.filter fun c => !isControl c)

/-- The lines in which a console shows a text with markup. -/
def shown (width : Nat) (s : Text) : List Text := wrapped width (laid (Markup.plain s))

/-- Lines as they are printed. -/
def ended (lines : List Text) : Text := lines.flatMap (· ++ ['\n'])

/-- Whether a character gives a number or a mark to a control sequence. -/
def isParameter (c : Char) : Bool := '0' ≤ c && c ≤ '?'

/-- Whether a character may stand right before the last one of a control sequence. -/
def isIntermediate (c : Char) : Bool := ' ' ≤ c && c ≤ '/'

/-- Whether a character ends a control sequence. -/
def isFinal (c : Char) : Bool := '@' ≤ c && c ≤ '~'

/-- The text behind a control sequence, of which the first two characters were read. -/
def afterSequence (s : Text) : Option Text :=
  match (s.dropWhile isParameter).dropWhile isIntermediate with
  | c :: rest => if isFinal c then some rest else none
  | [] => none

theorem length_lt_of_afterSequence {s rest : Text} (h : afterSequence s = some rest) :
    rest.length < s.length := by
  unfold afterSequence at h
  split at h
  next c r hr =>
    split at h
    next =>
      cases h
      have := ((List.dropWhile_sublist isIntermediate).trans
        (List.dropWhile_sublist isParameter (l := s))).length_le
      rw [hr] at this
      simp only [List.length_cons] at this
      omega
    next => cases h
  next => cases h

/-- The text without its control sequences. -/
def colourless : Text → Text
  | [] => []
  | c :: rest =>
    match rest with
    | '[' :: inside =>
      match _h : afterSequence inside with
      | some after => if c = Char.ofNat 27 then colourless after else c :: colourless ('[' :: inside)
      | none => c :: colourless ('[' :: inside)
    | rest => c :: colourless rest
termination_by s => s.length
decreasing_by
  · have := length_lt_of_afterSequence _h
    simp only [List.length_cons]
    omega
  all_goals simp

end Stencil.Console
