import Stencil.Proofs.Template.Cutting
import Stencil.Template.Block

/-!
# The grammar of templates

Which trees there are, and how they are written. `WellFormed` is the first: names are proper, a
variable has the tag of its name, a text is not empty, holds no tag and has no text beside it, and
no block stands deeper than the limit allows. `Spells` is the second: the texts that a tree can be
written as. They are many, because the gap of an opener is free and an empty else-part may be left
out.

`Derives` says the same of pieces in the place of characters, so that it fits what a parser reads
one token at a time. `derives_ofSource_iff` ties the two: the pieces of a source are derived by
exactly the well-formed trees that the source spells. What a tree asks of its texts is what
`Piece.Separated` asks of the texts of a source, and what it asks of its blocks is built into a
derivation.
-/

namespace Stencil.Template

/-! ## Trees -/

/-- Whether a node is plain text. -/
def Node.isText : Node → Bool
  | .text _ => true
  | .variable .. | .cond .. | .loop .. => false

mutual

/-- A node of the grammar. -/
def ProperNode : Node → Prop
  | .text content => content ≠ [] ∧ ¬ HoldsTag content
  | .variable name raw => IsName name ∧ raw = (Tag.variable name).spelling
  | .cond name thenPart elsePart => IsName name ∧ ProperNodes thenPart ∧ ProperNodes elsePart
  | .loop name body => IsName name ∧ ProperNodes body

/-- Nodes of the grammar, no two neighbours of which are texts. -/
def ProperNodes : List Node → Prop
  | [] => True
  | node :: rest =>
    ProperNode node ∧ (node.isText = true → ∀ next ∈ rest.head?, next.isText = false) ∧
      ProperNodes rest

end

mutual

/-- Every block of a node that stands inside of `around` blocks has at most `limit` blocks on its
path, itself included. -/
def WithinNode (limit : Int) (around : Nat) : Node → Prop
  | .text _ | .variable .. => True
  | .cond _ thenPart elsePart =>
    around + 1 ≤ limit ∧ WithinNodes limit (around + 1) thenPart ∧
      WithinNodes limit (around + 1) elsePart
  | .loop _ body => around + 1 ≤ limit ∧ WithinNodes limit (around + 1) body

/-- Every block of the nodes has at most `limit` blocks on its path. -/
def WithinNodes (limit : Int) (around : Nat) : List Node → Prop
  | [] => True
  | node :: rest => WithinNode limit around node ∧ WithinNodes limit around rest

end

/-- A tree of the grammar whose blocks are nested within the limit. -/
structure WellFormed (limit : Int) (nodes : List Node) : Prop where
  proper : ProperNodes nodes
  within : WithinNodes limit 0 nodes

/-! ## Spellings -/

/-- The texts that nodes are written as. -/
inductive Spells : List Node → Text → Prop
  | nil : Spells [] []
  | text {content s : Text} {rest : List Node} : Spells rest s →
      Spells (.text content :: rest) (content ++ s)
  | variable {name raw s : Text} {rest : List Node} : Spells rest s →
      Spells (.variable name raw :: rest) ((Tag.variable name).spelling ++ s)
  /-- A conditional without an else mark, which has an empty else-part. -/
  | cond {gap name t s : Text} {thenPart rest : List Node} : IsGap gap → Spells thenPart t →
      Spells rest s →
      Spells (.cond name thenPart [] :: rest)
        ((Tag.ifOpen gap name).spelling ++ t ++ Tag.ifClose.spelling ++ s)
  | condElse {gap name t e s : Text} {thenPart elsePart rest : List Node} : IsGap gap →
      Spells thenPart t → Spells elsePart e → Spells rest s →
      Spells (.cond name thenPart elsePart :: rest)
        ((Tag.ifOpen gap name).spelling ++ t ++ Tag.elseMark.spelling ++ e ++
          Tag.ifClose.spelling ++ s)
  | loop {gap name b s : Text} {body rest : List Node} : IsGap gap → Spells body b →
      Spells rest s →
      Spells (.loop name body :: rest)
        ((Tag.eachOpen gap name).spelling ++ b ++ Tag.eachClose.spelling ++ s)

/-! ## Derivations -/

/-- The pieces that nodes inside of `around` blocks are written as, within a nesting limit. -/
inductive Derives (limit : Int) : Nat → List Node → List Piece → Prop
  | nil {around : Nat} : Derives limit around [] []
  | text {around : Nat} {content : Text} {rest : List Node} {ps : List Piece} :
      Derives limit around rest ps →
      Derives limit around (.text content :: rest) (.text content :: ps)
  | variable {around : Nat} {name : Text} {rest : List Node} {ps : List Piece} :
      Derives limit around rest ps →
      Derives limit around (.variable name (Tag.variable name).spelling :: rest)
        (.tag (.variable name) :: ps)
  | cond {around : Nat} {gap name : Text} {thenPart rest : List Node} {ts ps : List Piece} :
      around + 1 ≤ limit → Derives limit (around + 1) thenPart ts → Derives limit around rest ps →
      Derives limit around (.cond name thenPart [] :: rest)
        (.tag (.ifOpen gap name) :: (ts ++ .tag .ifClose :: ps))
  | condElse {around : Nat} {gap name : Text} {thenPart elsePart rest : List Node}
      {ts es ps : List Piece} :
      around + 1 ≤ limit → Derives limit (around + 1) thenPart ts →
      Derives limit (around + 1) elsePart es → Derives limit around rest ps →
      Derives limit around (.cond name thenPart elsePart :: rest)
        (.tag (.ifOpen gap name) :: (ts ++ .tag .elseMark :: (es ++ .tag .ifClose :: ps)))
  | loop {around : Nat} {gap name : Text} {body rest : List Node} {bs ps : List Piece} :
      around + 1 ≤ limit → Derives limit (around + 1) body bs → Derives limit around rest ps →
      Derives limit around (.loop name body :: rest)
        (.tag (.eachOpen gap name) :: (bs ++ .tag .eachClose :: ps))

namespace Derives

variable {limit : Int} {around : Nat} {nodes : List Node} {pieces : List Piece}

/-- Nodes behind one another are written behind one another. -/
theorem append {more : List Node} {ps : List Piece} (h : Derives limit around nodes pieces)
    (hmore : Derives limit around more ps) :
    Derives limit around (nodes ++ more) (pieces ++ ps) := by
  induction h with
  | nil => exact hmore
  | text _ ih => exact .text (ih hmore)
  | «variable» _ ih => exact .variable (ih hmore)
  | cond hroom hthen _ _ ih =>
    rw [List.cons_append, List.cons_append, List.append_assoc, List.cons_append]
    exact .cond hroom hthen (ih hmore)
  | condElse hroom hthen helse _ _ _ ih =>
    rw [List.cons_append, List.cons_append, List.append_assoc, List.cons_append,
      List.append_assoc, List.cons_append]
    exact .condElse hroom hthen helse (ih hmore)
  | loop hroom hbody _ _ ih =>
    rw [List.cons_append, List.cons_append, List.append_assoc, List.cons_append]
    exact .loop hroom hbody (ih hmore)

/-- The first piece is a text when the first node is. -/
theorem head_isText (h : Derives limit around nodes pieces) :
    (∀ p ∈ pieces.head?, p.isText = false) ↔ ∀ node ∈ nodes.head?, node.isText = false := by
  cases h <;> simp [Piece.isText, Node.isText]

/-- Derived nodes are nested within the limit. -/
theorem within (h : Derives limit around nodes pieces) : WithinNodes limit around nodes := by
  induction h with
  | nil => trivial
  | text _ ih => exact ⟨trivial, ih⟩
  | «variable» _ ih => exact ⟨trivial, ih⟩
  | cond hroom _ _ ihthen ih => exact ⟨⟨hroom, ihthen, trivial⟩, ih⟩
  | condElse hroom _ _ _ ihthen ihelse ih => exact ⟨⟨hroom, ihthen, ihelse⟩, ih⟩
  | loop hroom _ _ ihbody ih => exact ⟨⟨hroom, ihbody⟩, ih⟩

/-- Nodes that derive separated pieces are of the grammar. -/
theorem proper (h : Derives limit around nodes pieces) (hsep : Piece.Separated pieces) :
    ProperNodes nodes := by
  induction h with
  | nil => trivial
  | text hrest ih =>
    cases hsep with
    | text hcontent hno hnext hsep =>
      exact ⟨⟨hcontent, hno⟩, fun _ => hrest.head_isText.mp hnext, ih hsep⟩
  | «variable» _ ih =>
    cases hsep with
    | tag hname hsep => exact ⟨⟨hname, rfl⟩, fun htext => Bool.noConfusion htext, ih hsep⟩
  | cond _ _ _ ihthen ih =>
    cases hsep with
    | tag htag hsep =>
      obtain ⟨hthen, -, hsep⟩ := Piece.separated_append_tag.mp hsep
      exact ⟨⟨htag.2, ihthen hthen, trivial⟩, fun htext => Bool.noConfusion htext, ih hsep⟩
  | condElse _ _ _ _ ihthen ihelse ih =>
    cases hsep with
    | tag htag hsep =>
      obtain ⟨hthen, -, hsep⟩ := Piece.separated_append_tag.mp hsep
      obtain ⟨helse, -, hsep⟩ := Piece.separated_append_tag.mp hsep
      exact ⟨⟨htag.2, ihthen hthen, ihelse helse⟩, fun htext => Bool.noConfusion htext, ih hsep⟩
  | loop _ _ _ ihbody ih =>
    cases hsep with
    | tag htag hsep =>
      obtain ⟨hbody, -, hsep⟩ := Piece.separated_append_tag.mp hsep
      exact ⟨⟨htag.2, ihbody hbody⟩, fun htext => Bool.noConfusion htext, ih hsep⟩

/-- Separated pieces that nodes derive make up a text that spells the nodes. -/
theorem spells (h : Derives limit around nodes pieces) (hsep : Piece.Separated pieces) :
    Spells nodes (pieces.flatMap Piece.raw) := by
  induction h with
  | nil => exact .nil
  | text _ ih =>
    cases hsep with
    | text _ _ _ hsep => exact .text (ih hsep)
  | «variable» _ ih =>
    cases hsep with
    | tag _ hsep => exact .variable (ih hsep)
  | @cond _ gap name thenPart rest _ _ _ _ _ ihthen ih =>
    cases hsep with
    | tag htag hsep =>
      obtain ⟨hthen, -, hsep⟩ := Piece.separated_append_tag.mp hsep
      have hspell : Spells (.cond name thenPart [] :: rest) _ :=
        .cond htag.1 (ihthen hthen) (ih hsep)
      simpa [Piece.raw] using hspell
  | @condElse _ gap name thenPart elsePart rest _ _ _ _ _ _ _ ihthen ihelse ih =>
    cases hsep with
    | tag htag hsep =>
      obtain ⟨hthen, -, hsep⟩ := Piece.separated_append_tag.mp hsep
      obtain ⟨helse, -, hsep⟩ := Piece.separated_append_tag.mp hsep
      have hspell : Spells (.cond name thenPart elsePart :: rest) _ :=
        .condElse htag.1 (ihthen hthen) (ihelse helse) (ih hsep)
      simpa [Piece.raw] using hspell
  | @loop _ gap name body rest _ _ _ _ _ ihbody ih =>
    cases hsep with
    | tag htag hsep =>
      obtain ⟨hbody, -, hsep⟩ := Piece.separated_append_tag.mp hsep
      have hspell : Spells (.loop name body :: rest) _ := .loop htag.1 (ihbody hbody) (ih hsep)
      simpa [Piece.raw] using hspell

end Derives

/-- A text that spells a tree of the grammar is cut into pieces that the tree derives. -/
theorem Spells.exists_derives {limit : Int} {nodes : List Node} {s : Text} (h : Spells nodes s) :
    ∀ {around : Nat}, ProperNodes nodes → WithinNodes limit around nodes →
      ∃ pieces, Derives limit around nodes pieces ∧ Piece.Separated pieces ∧
        pieces.flatMap Piece.raw = s := by
  induction h with
  | nil =>
    intro around _ _
    exact ⟨[], .nil, .nil, rfl⟩
  | text _ ih =>
    rintro around ⟨⟨hcontent, hno⟩, hnext, hproper⟩ ⟨-, hwithin⟩
    obtain ⟨ps, hder, hsep, rfl⟩ := ih hproper hwithin
    exact ⟨_, .text hder, .text hcontent hno (hder.head_isText.mpr (hnext rfl)) hsep, rfl⟩
  | «variable» _ ih =>
    rintro around ⟨⟨hname, rfl⟩, -, hproper⟩ ⟨-, hwithin⟩
    obtain ⟨ps, hder, hsep, rfl⟩ := ih hproper hwithin
    exact ⟨_, .variable hder, .tag hname hsep, rfl⟩
  | cond hgap _ _ ihthen ih =>
    rintro around ⟨⟨hname, hthen, -⟩, -, hproper⟩ ⟨⟨hroom, hthenWithin, -⟩, hwithin⟩
    obtain ⟨ts, hthenDer, hthenSep, rfl⟩ := ihthen hthen hthenWithin
    obtain ⟨ps, hder, hsep, rfl⟩ := ih hproper hwithin
    refine ⟨_, .cond hroom hthenDer hder, .tag ⟨hgap, hname⟩ ?_, by simp [Piece.raw]⟩
    exact Piece.separated_append_tag.mpr ⟨hthenSep, trivial, hsep⟩
  | condElse hgap _ _ _ ihthen ihelse ih =>
    rintro around ⟨⟨hname, hthen, helse⟩, -, hproper⟩ ⟨⟨hroom, hthenWithin, helseWithin⟩, hwithin⟩
    obtain ⟨ts, hthenDer, hthenSep, rfl⟩ := ihthen hthen hthenWithin
    obtain ⟨es, helseDer, helseSep, rfl⟩ := ihelse helse helseWithin
    obtain ⟨ps, hder, hsep, rfl⟩ := ih hproper hwithin
    refine ⟨_, .condElse hroom hthenDer helseDer hder, .tag ⟨hgap, hname⟩ ?_, by simp [Piece.raw]⟩
    refine Piece.separated_append_tag.mpr ⟨hthenSep, trivial, ?_⟩
    exact Piece.separated_append_tag.mpr ⟨helseSep, trivial, hsep⟩
  | loop hgap _ _ ihbody ih =>
    rintro around ⟨⟨hname, hbody⟩, -, hproper⟩ ⟨⟨hroom, hbodyWithin⟩, hwithin⟩
    obtain ⟨bs, hbodyDer, hbodySep, rfl⟩ := ihbody hbody hbodyWithin
    obtain ⟨ps, hder, hsep, rfl⟩ := ih hproper hwithin
    refine ⟨_, .loop hroom hbodyDer hder, .tag ⟨hgap, hname⟩ ?_, by simp [Piece.raw]⟩
    exact Piece.separated_append_tag.mpr ⟨hbodySep, trivial, hsep⟩

/-- The pieces of a source are derived exactly by the well-formed trees that it spells. -/
theorem derives_ofSource_iff {limit : Int} {nodes : List Node} {source : Text} :
    Derives limit 0 nodes (Piece.ofSource source) ↔ WellFormed limit nodes ∧ Spells nodes source := by
  constructor
  · intro h
    have hsep := Piece.separated_ofSource source
    refine ⟨⟨h.proper hsep, h.within⟩, ?_⟩
    have hspells := h.spells hsep
    rwa [Piece.flatMap_raw_ofSource] at hspells
  · rintro ⟨⟨hproper, hwithin⟩, hspells⟩
    obtain ⟨pieces, hder, hsep, hraw⟩ := hspells.exists_derives hproper hwithin
    rw [Piece.ofSource_eq_iff.mpr ⟨hsep, hraw⟩]
    exact hder

end Stencil.Template
