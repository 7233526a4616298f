import Mathlib
import Stencil.Proofs.Template.Parsing
import Stencil.Proofs.Text.Markup
import Stencil.Proofs.Text.Quoting
import Stencil.Template.Outline

/-!
# Outlines tell templates apart

Two templates have the same outline only when they are the same tree, as long as their texts are shown
whole (`outline_faithful`). A text is shown quoted and then escaped, and both keep texts apart: the quotes
around it are what escaping needs, for a text that ends with a quote does not end with a backslash. Of a
variable the outline shows the name alone, and for a parsed one that says how it was written. An else-part
that is empty has no branch, and every other one has.

A branch says by the style of its label what kind of node it stands for, so the trees are compared branch
by branch (`ofNodes_inj`).
-/

namespace Stencil.Template

mutual

/-- Every text of a node is short enough to be shown whole. -/
def ShortNode : Node → Prop
  | .text content => content.length ≤ Outline.previewLength
  | .variable .. => True
  | .cond _ thenPart elsePart => ShortNodes thenPart ∧ ShortNodes elsePart
  | .loop _ body => ShortNodes body

/-- Every text of the nodes is short enough to be shown whole. -/
def ShortNodes : List Node → Prop
  | [] => True
  | node :: rest => ShortNode node ∧ ShortNodes rest

end

namespace Outline

/-- The label at the root of a tree. -/
def label : Outline → Text
  | .branch label _ => label

/-- The trees below the root of a tree. -/
def children : Outline → List Outline
  | .branch _ children => children

/-! ## Branches -/

/-- The branches of the parts of a conditional. An empty else-part has none. -/
def ofParts (thenPart elsePart : List Outline) : List Outline :=
  .branch "then" thenPart :: if elsePart = [] then [] else [.branch "else" elsePart]

/-- The parts of a conditional are seen from their branches. -/
theorem ofParts_inj {thenPart elsePart thenPart' elsePart' : List Outline} :
    ofParts thenPart elsePart = ofParts thenPart' elsePart' ↔
      thenPart = thenPart' ∧ elsePart = elsePart' := by
  refine ⟨fun h => ?_, fun ⟨hthen, helse⟩ => hthen ▸ helse ▸ rfl⟩
  obtain ⟨hthen, helse⟩ := List.cons.inj h
  refine ⟨(branch.inj hthen).2, ?_⟩
  split at helse
  next hnone =>
    split at helse
    next hnone' => rw [hnone, hnone']
    next => cases helse
  next =>
    split at helse
    next => cases helse
    next => exact (branch.inj (List.cons.inj helse).1).2

theorem ofNode_cond (name : Text) (thenPart elsePart : List Node) :
    ofNode (.cond name thenPart elsePart) =
      .branch (Markup.styled "yellow" "if" ++ " " ++ name)
        (ofParts (ofNodes thenPart) (ofNodes elsePart)) := by
  cases elsePart with
  | nil => rfl
  | cons node rest => rfl

/-- The letter that the style of a node's label begins with. -/
def styleLetter : Node → Char
  | .text _ => 'd'
  | .variable .. => 'c'
  | .cond .. => 'y'
  | .loop .. => 'm'

theorem label_ofNode (node : Node) : (ofNode node).label[1]? = some (styleLetter node) := by
  cases node with
  | text content => rfl
  | «variable» name raw => rfl
  | cond name thenPart elsePart =>
    rw [ofNode_cond]
    rfl
  | loop name body => rfl

/-- Nodes with the same branch are of one kind. -/
theorem styleLetter_eq {node node' : Node} (h : ofNode node = ofNode node') :
    styleLetter node = styleLetter node' :=
  Option.some.inj ((label_ofNode node).symm.trans (h ▸ label_ofNode node'))

theorem exists_cons_of_ofNodes {node : Node} {rest nodes : List Node}
    (h : ofNodes (node :: rest) = ofNodes nodes) :
    ∃ node' rest', nodes = node' :: rest' ∧ ofNode node = ofNode node' ∧ ofNodes rest = ofNodes rest' := by
  cases nodes with
  | nil => cases h
  | cons node' rest' =>
    obtain ⟨hnode, hrest⟩ := List.cons.inj h
    exact ⟨node', rest', rfl, hnode, hrest⟩

/-- Short texts that are shown alike are the same. -/
theorem escape_quoted_inj {s t : Text} (hs : s.length ≤ previewLength) (ht : t.length ≤ previewLength) :
    Markup.escape (preview s).quoted = Markup.escape (preview t).quoted ↔ s = t := by
  have hend (u : Text) : u.quoted.getLast? ≠ some '\\' := by
    rw [Text.getLast?_quoted]
    rcases Text.quoteFor_eq u with h | h <;> rw [h] <;> decide
  rw [preview, preview, if_pos hs, if_pos ht, Markup.escape_inj (hend s) (hend t), Text.quoted_inj]

/-- **Short nodes of the grammar have the same branches only when they are the same.** -/
theorem ofNodes_inj {nodes nodes' : List Node} (hproper : ProperNodes nodes) (hshort : ShortNodes nodes)
    (hproper' : ProperNodes nodes') (hshort' : ShortNodes nodes') (h : ofNodes nodes = ofNodes nodes') :
    nodes = nodes' := by
  induction nodes using nodesInduction generalizing nodes' with
  | nil =>
    cases nodes' with
    | nil => rfl
    | cons node' rest' => cases h
  | text content rest ih =>
    obtain ⟨node', rest', rfl, hnode, hrest⟩ := exists_cons_of_ofNodes h
    cases node' with
    | text content' =>
      have hlabel := List.append_cancel_left (branch.inj hnode).1
      rw [(escape_quoted_inj hshort.1 hshort'.1).mp hlabel,
        ih hproper.2.2 hshort.2 hproper'.2.2 hshort'.2 hrest]
    | _ => exact absurd (styleLetter_eq hnode) (by simp [styleLetter])
  | «variable» name raw rest ih =>
    obtain ⟨node', rest', rfl, hnode, hrest⟩ := exists_cons_of_ofNodes h
    cases node' with
    | «variable» name' raw' =>
      have hname : name = name' := List.append_cancel_left (branch.inj hnode).1
      have hraw : raw = raw' := by
        rw [hproper.1.2, hproper'.1.2, hname]
      rw [hname, hraw, ih hproper.2.2 hshort.2 hproper'.2.2 hshort'.2 hrest]
    | _ => exact absurd (styleLetter_eq hnode) (by simp [styleLetter])
  | cond name thenPart elsePart rest ihthen ihelse ih =>
    obtain ⟨node', rest', rfl, hnode, hrest⟩ := exists_cons_of_ofNodes h
    cases node' with
    | cond name' thenPart' elsePart' =>
      rw [ofNode_cond, ofNode_cond] at hnode
      obtain ⟨hlabel, hparts⟩ := branch.inj hnode
      obtain ⟨hthen, helse⟩ := ofParts_inj.mp hparts
      rw [List.append_cancel_left hlabel,
        ihthen hproper.1.2.1 hshort.1.1 hproper'.1.2.1 hshort'.1.1 hthen,
        ihelse hproper.1.2.2 hshort.1.2 hproper'.1.2.2 hshort'.1.2 helse,
        ih hproper.2.2 hshort.2 hproper'.2.2 hshort'.2 hrest]
    | _ => exact absurd (styleLetter_eq hnode) (by simp [styleLetter])
  | loop name body rest ihbody ih =>
    obtain ⟨node', rest', rfl, hnode, hrest⟩ := exists_cons_of_ofNodes h
    cases node' with
    | loop name' body' =>
      obtain ⟨hlabel, hbody⟩ := branch.inj hnode
      rw [List.append_cancel_left hlabel,
        ihbody hproper.1.2 hshort.1 hproper'.1.2 hshort'.1 hbody,
        ih hproper.2.2 hshort.2 hproper'.2.2 hshort'.2 hrest]
    | _ => exact absurd (styleLetter_eq hnode) (by simp [styleLetter])

end Outline

/-- **The outline of a template tells it from every other one.** Two sources that are parsed, whose texts
are short enough to be shown whole, have the same branches below the root exactly when they are parsed to
the same nodes, whatever the names of the sources are. -/
theorem outline_faithful {limit limit' : Int} {source source' : Text} {nodes nodes' : List Node}
    (h : parse limit source = .ok nodes) (h' : parse limit' source' = .ok nodes')
    (hshort : ShortNodes nodes) (hshort' : ShortNodes nodes') (name name' : Text) :
    (Outline.ofTemplate name nodes).children = (Outline.ofTemplate name' nodes').children ↔
      nodes = nodes' := by
  refine ⟨fun heq => ?_, ?_⟩
  · exact Outline.ofNodes_inj (parse_eq_ok_iff.mp h).1.proper hshort
      (parse_eq_ok_iff.mp h').1.proper hshort' heq
  · rintro rfl
    rfl

/-- **A then-part is not shown as an else-part.** -/
theorem outline_faithful_parts :
    parse 1 ((Tag.ifOpen [' '] ['a']).spelling ++ "[b]" ++ Tag.ifClose.spelling) =
        .ok [.cond ['a'] [.text "[b]"] []] ∧
      parse 1 ((Tag.ifOpen [' '] ['a']).spelling ++ Tag.elseMark.spelling ++ "[b]" ++
        Tag.ifClose.spelling) = .ok [.cond ['a'] [] [.text "[b]"]] ∧
      (Outline.ofTemplate [] [.cond ['a'] [.text "[b]"] []]).children ≠
        (Outline.ofTemplate [] [.cond ['a'] [] [.text "[b]"]]).children := by
  have hthen : parse 1 ((Tag.ifOpen [' '] ['a']).spelling ++ "[b]" ++ Tag.ifClose.spelling) =
      .ok [.cond ['a'] [.text "[b]"] []] := by
    cbv
  have helse : parse 1 ((Tag.ifOpen [' '] ['a']).spelling ++ Tag.elseMark.spelling ++ "[b]" ++
      Tag.ifClose.spelling) = .ok [.cond ['a'] [] [.text "[b]"]] := by
    cbv
  have hshort : ("[b]" : Text).length ≤ Outline.previewLength := by decide
  refine ⟨hthen, helse, fun heq => ?_⟩
  have hnodes := (outline_faithful hthen helse ⟨⟨⟨hshort, trivial⟩, trivial⟩, trivial⟩
    ⟨⟨trivial, hshort, trivial⟩, trivial⟩ [] []).mp heq
  cases hnodes

end Stencil.Template
