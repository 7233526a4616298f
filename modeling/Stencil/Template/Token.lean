import Stencil.Template.Tag

/-!
# Tokens

A template source is cut into pieces, each a tag or a stretch of plain text, and every piece is given
the position at which it starts. A tag is taken wherever one can be read; all other characters are
gathered into text pieces, so no text piece is empty and no two of them are neighbours.

Only a line feed ends a line. Lines and columns start at one, offsets at zero.
-/

namespace Stencil.Template

/-! ## Pieces -/

/-- A stretch of the source: plain text, or a tag. -/
inductive Piece where
  | text (content : Text)
  | tag (t : Tag)
deriving DecidableEq, Repr

namespace Piece

/-- The characters of a piece as they stand in the source. -/
def raw : Piece → Text
  | .text content => content
  | .tag t => t.spelling

/-- A character in front of the pieces: it joins a text piece that comes first. -/
def consChar (c : Char) : List Piece → List Piece
  | .text content :: pieces => .text (c :: content) :: pieces
  | pieces => .text [c] :: pieces

/-- The pieces of a source. -/
def ofSource (source : Text) : List Piece :=
  match _h : Tag.scan source with
  | some (t, rest) => .tag t :: ofSource rest
  | none =>
    match source with
    | [] => []
    | c :: rest => consChar c (ofSource rest)
termination_by source.length
decreasing_by
  · exact Tag.length_lt_of_scan _h
  · simp

end Piece

/-! ## Positions -/

/-- A place in a source: characters before it, and its line and column counted from one. -/
structure Position where
  offset : Nat
  line : Nat
  column : Nat
deriving DecidableEq, Repr

namespace Position

/-- The place before the first character. -/
def start : Position := ⟨0, 1, 1⟩

/-- The place after one more character. -/
def next (p : Position) (c : Char) : Position :=
  if c = '\n' then ⟨p.offset + 1, p.line + 1, 1⟩ else ⟨p.offset + 1, p.line, p.column + 1⟩

/-- The place after a text that starts here. -/
def advance (p : Position) (s : Text) : Position := s.foldl next p

end Position

/-! ## Tokens -/

/-- A piece and where it starts. -/
structure Token where
  piece : Piece
  position : Position
deriving DecidableEq, Repr

namespace Token

/-- The characters of a token as they stand in the source. -/
def raw (t : Token) : Text := t.piece.raw

/-- Pieces in order, each with its place when the first of them starts at `p`. -/
def locate (p : Position) : List Piece → List Token
  | [] => []
  | piece :: pieces => ⟨piece, p⟩ :: locate (p.advance piece.raw) pieces

end Token

/-- The tokens of a source in order. -/
def tokenize (source : Text) : List Token := Token.locate .start (Piece.ofSource source)

end Stencil.Template
