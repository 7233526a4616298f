import Stencil.Template.Node
import Stencil.Text.Console
import Stencil.Text.Quoted

/-!
# Outlines

The structure of a template as a tree of labels, in console markup. Texts are quoted, cut short when
they are long, and escaped, so that a label shows them whatever they hold. An empty else-part has no
branch.

A tree is drawn with the branches in front of each label, which is broken into lines where the branches
leave it too few columns.
-/

namespace Stencil.Template

/-- A tree of labels. -/
inductive Outline where
  | branch (label : Text) (children : List Outline)
deriving Inhabited

namespace Outline

/-- The longest text that is shown whole. -/
def previewLength : Nat := 40

/-- A text for a label: what is too long ends in three dots. -/
def preview (s : Text) : Text :=
  if s.length ≤ previewLength then s else s.take (previewLength - 3) ++ ['.', '.', '.']

mutual

/-- The branch of a node. -/
def ofNode : Node → Outline
  | .text content => .branch (Markup.styled "dim" "text" ++ " " ++ Markup.escape (preview content).quoted) []
  | .variable name _ => .branch (Markup.styled "cyan" "var" ++ " " ++ name) []
  | .cond name thenPart elsePart =>
    .branch (Markup.styled "yellow" "if" ++ " " ++ name)
      (.branch "then" (ofNodes thenPart) ::
        match elsePart with
        | [] => []
        | node :: rest => [.branch "else" (ofNode node :: ofNodes rest)])
  | .loop name body => .branch (Markup.styled "magenta" "each" ++ " " ++ name) (ofNodes body)

/-- The branches of nodes in order. -/
def ofNodes : List Node → List Outline
  | [] => []
  | node :: rest => ofNode node :: ofNodes rest

end

/-- The outline of a template under the name of its source. -/
def ofTemplate (source : Text) (nodes : List Node) : Outline :=
  .branch (Markup.styled "bold" (Markup.escape source)) (ofNodes nodes)

/-- Lines behind the marks of a branch, one for the first line and one for the others. -/
def hung (first others : Text) : List Text → List Text
  | [] => []
  | line :: rest => (first ++ line) :: rest.map (others ++ ·)

/-- The columns that the mark of a branch takes. -/
def markWidth : Nat := 4

mutual

/-- The lines of a tree on so many columns. -/
def lines (width : Nat) : Outline → List Text
  | .branch label children => Console.shown width label ++ branchLines (width - markWidth) children

/-- The lines of branches behind their marks, each hanging on the one before it. -/
def branchLines (width : Nat) : List Outline → List Text
  | [] => []
  | o :: rest =>
    let (first, others) : Text × Text :=
      match rest with
      | [] => ("└── ", "    ")
      | _ :: _ => ("├── ", "│   ")
    hung first others (o.lines width) ++ branchLines width rest

end

/-- The drawing of a tree. -/
def drawn (width : Nat) (o : Outline) : Text := Console.ended (o.lines width)

end Outline

end Stencil.Template
