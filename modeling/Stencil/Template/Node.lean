import Stencil.Text.Basic

/-!
# Nodes

The tree that a template source stands for: text and variables as leaves, conditionals and loops as
branches. A variable keeps the tag it was written with, because that tag is its output when the
context does not bind its name.
-/

namespace Stencil.Template

/-- A node of a template. -/
inductive Node where
  /-- Plain text, copied to the output. -/
  | text (content : Text)
  /-- A variable and its tag as written. -/
  | variable (name raw : Text)
  /-- A conditional; an absent else-part is the empty one. -/
  | cond (name : Text) (thenPart elsePart : List Node)
  /-- A loop over the elements bound to its name. -/
  | loop (name : Text) (body : List Node)
deriving Inhabited, Repr

/-- A law of lists of nodes holds of all of them when it holds of the empty list, and of a list with
a node in front whenever it holds of the list and of every part of the node. -/
@[elab_as_elim]
theorem nodesInduction {P : List Node → Prop} (nil : P [])
    (text : ∀ content rest, P rest → P (.text content :: rest))
    («variable» : ∀ name raw rest, P rest → P (.variable name raw :: rest))
    (cond : ∀ name thenPart elsePart rest, P thenPart → P elsePart → P rest →
      P (.cond name thenPart elsePart :: rest))
    (loop : ∀ name body rest, P body → P rest → P (.loop name body :: rest)) :
    ∀ nodes, P nodes
  | [] => nil
  | .text content :: rest =>
    text content rest (nodesInduction nil text «variable» cond loop rest)
  | .variable name raw :: rest =>
    «variable» name raw rest (nodesInduction nil text «variable» cond loop rest)
  | .cond name thenPart elsePart :: rest =>
    cond name thenPart elsePart rest (nodesInduction nil text «variable» cond loop thenPart)
      (nodesInduction nil text «variable» cond loop elsePart)
      (nodesInduction nil text «variable» cond loop rest)
  | .loop name body :: rest =>
    loop name body rest (nodesInduction nil text «variable» cond loop body)
      (nodesInduction nil text «variable» cond loop rest)

end Stencil.Template
