import Mathlib.Data.Set.Subsingleton
import Stencil.Proofs.Template.Grammar
import Stencil.Proofs.Template.Tokens

/-!
# Parsing is the grammar

`parse_exact` is the law: parsing a source within a limit answers some nodes exactly when they are a
well-formed tree that the source spells; there is at most one such tree; and a complaint is the answer
exactly where there is none. Soundness is read off what a parser has read, completeness off what a
derivation makes it read, and that a source spells one tree only comes for nothing, because parsing is
a function.

A parser that reads one token at a time is looked at between two tokens. `Covers` is the invariant:
what is held so far, open blocks and all, was written by the pieces read so far. `Covers.read` is
the step, `Covers.foldlM` the run. The other direction needs no invariant: from any state, the
pieces of a derivation are read without a fault and leave its nodes behind the ones that were there
(`Derives.foldlM_read`).
-/

namespace Stencil.Template

/-! ## What has been read -/

/-- The pieces that lead into the part of a block that is being read. -/
inductive Part.Opened (limit : Int) (around : Nat) (name : Text) : Part → List Piece → Prop
  | thenPart {gap : Text} : Opened limit around name .thenPart [.tag (.ifOpen gap name)]
  | elsePart {gap : Text} {thenNodes : List Node} {ts : List Piece} :
      Derives limit around thenNodes ts →
      Opened limit around name (.elsePart thenNodes)
        (.tag (.ifOpen gap name) :: (ts ++ [.tag .elseMark]))
  | body {gap : Text} : Opened limit around name .body [.tag (.eachOpen gap name)]

/-- Pieces by which open blocks, and the nodes of the part being read, were written. -/
inductive Covers (limit : Int) : List OpenBlock → List Node → List Piece → Prop
  | outermost {nodes : List Node} {ps : List Piece} :
      Derives limit 0 nodes ps → Covers limit [] nodes ps
  | inside {b : OpenBlock} {outer : List OpenBlock} {nodes : List Node}
      {before opening ps : List Piece} :
      Covers limit outer b.before.toList before → outer.length + 1 ≤ limit →
      b.part.Opened limit (outer.length + 1) b.name opening →
      Derives limit (outer.length + 1) nodes ps →
      Covers limit (b :: outer) nodes (before ++ opening ++ ps)

namespace Covers

variable {limit : Int}

/-- More nodes in the part being read. -/
theorem extend {blocks : List OpenBlock} {nodes more : List Node} {pieces ps : List Piece}
    (h : Covers limit blocks nodes pieces) (hmore : Derives limit blocks.length more ps) :
    Covers limit blocks (nodes ++ more) (pieces ++ ps) := by
  cases h with
  | outermost hder => exact .outermost (hder.append hmore)
  | inside houter hroom hopened hder =>
    rw [List.append_assoc]
    exact .inside houter hroom hopened (hder.append hmore)

/-- A block that was just opened. -/
theorem opened {blocks : List OpenBlock} {nodes : Array Node} {pieces opening : List Piece}
    {name : Text} {part : Part} {opener : Token} (h : Covers limit blocks nodes.toList pieces)
    (hroom : blocks.length + 1 ≤ limit)
    (hopened : part.Opened limit (blocks.length + 1) name opening) :
    Covers limit (⟨name, opener, part, nodes⟩ :: blocks) [] (pieces ++ opening) := by
  have hinside : Covers limit (⟨name, opener, part, nodes⟩ :: blocks) [] (pieces ++ opening ++ []) :=
    .inside h hroom hopened .nil
  rwa [List.append_nil] at hinside

/-- A block that closes is a node of the part around it. -/
theorem closed {b : OpenBlock} {outer : List OpenBlock} {nodes : List Node} {pieces : List Piece}
    (h : Covers limit (b :: outer) nodes pieces) :
    Covers limit outer (b.before.toList ++ [b.part.close b.name nodes])
      (pieces ++ [.tag b.part.closer]) := by
  cases h with
  | @inside _ _ _ before opening ps houter hroom hopened hder =>
    have hblock : Derives limit outer.length [b.part.close b.name nodes]
        (opening ++ (ps ++ [.tag b.part.closer])) := by
      generalize b.part = part at hopened ⊢
      cases hopened with
      | thenPart => exact .cond hroom hder .nil
      | elsePart hthen =>
        rw [List.cons_append, List.append_assoc, List.singleton_append]
        exact .condElse hroom hthen hder .nil
      | body => exact .loop hroom hder .nil
    have hall := houter.extend hblock
    simpa only [List.append_assoc] using hall

/-- An else mark ends a then-part. -/
theorem elseMark {name : Text} {opener : Token} {before nodes : Array Node}
    {outer : List OpenBlock} {pieces : List Piece}
    (h : Covers limit (⟨name, opener, .thenPart, before⟩ :: outer) nodes.toList pieces) :
    Covers limit (⟨name, opener, .elsePart nodes.toList, before⟩ :: outer) []
      (pieces ++ [.tag .elseMark]) := by
  cases h with
  | inside houter hroom hopened hder =>
    cases hopened with
    | @thenPart gap =>
      have hopened : Part.Opened limit (outer.length + 1) name (.elsePart nodes.toList)
          (.tag (.ifOpen gap name) :: (_ ++ [.tag .elseMark])) := .elsePart hder
      have helse : Covers limit (⟨name, opener, .elsePart nodes.toList, before⟩ :: outer) [] _ :=
        houter.opened hroom hopened
      simpa only [List.append_assoc, List.cons_append, List.nil_append] using helse

/-! ## One token -/

/-- Reading a close tag keeps the invariant. -/
theorem closeBlock {u v : Unfinished} {closer : Tag} {p : Position} {pieces : List Piece}
    (h : Covers limit u.blocks u.nodes.toList pieces) (hread : u.closeBlock closer p = .ok v) :
    Covers limit v.blocks v.nodes.toList (pieces ++ [.tag closer]) := by
  unfold Unfinished.closeBlock at hread
  split at hread
  next => cases hread
  next b outer hblocks =>
    rw [hblocks] at h
    split at hread
    next hcloser =>
      cases hread
      rw [← hcloser]
      simpa using h.closed
    next => cases hread

/-- **Reading a token keeps the invariant**: its piece is one more that was read. -/
theorem read {u v : Unfinished} {t : Token} {pieces : List Piece}
    (h : Covers limit u.blocks u.nodes.toList pieces) (hread : u.read limit t = .ok v) :
    Covers limit v.blocks v.nodes.toList (pieces ++ [t.piece]) := by
  obtain ⟨piece, position⟩ := t
  cases piece with
  | text content =>
    cases hread
    simpa [Unfinished.push] using h.extend (.text .nil)
  | tag tag =>
    cases tag with
    | «variable» name =>
      cases hread
      simpa [Unfinished.push, Token.raw, Piece.raw] using h.extend (.variable .nil)
    | ifOpen gap name =>
      simp only [Unfinished.read, Unfinished.openBlock] at hread
      split at hread
      next => cases hread
      next hroom =>
        cases hread
        exact h.opened (Int.not_lt.mp hroom) .thenPart
    | eachOpen gap name =>
      simp only [Unfinished.read, Unfinished.openBlock] at hread
      split at hread
      next => cases hread
      next hroom =>
        cases hread
        exact h.opened (Int.not_lt.mp hroom) .body
    | elseMark =>
      simp only [Unfinished.read, Unfinished.elseMark] at hread
      split at hread
      next => cases hread
      next b outer hblocks =>
        obtain ⟨name, opener, part, before⟩ := b
        rw [hblocks] at h
        split at hread
        next hpart =>
          cases hpart
          cases hread
          exact h.elseMark
        next => cases hread
        next => cases hread
    | ifClose => exact h.closeBlock hread
    | eachClose => exact h.closeBlock hread

/-! ## Whole lists of tokens -/

/-- **Reading tokens keeps the invariant.** -/
theorem foldlM {tokens : List Token} {u v : Unfinished} {pieces : List Piece}
    (h : Covers limit u.blocks u.nodes.toList pieces)
    (hread : tokens.foldlM (Unfinished.read limit) u = .ok v) :
    Covers limit v.blocks v.nodes.toList (pieces ++ tokens.map Token.piece) := by
  induction tokens generalizing u pieces with
  | nil =>
    cases hread
    simpa using h
  | cons t tokens ih =>
    rw [List.foldlM_cons] at hread
    cases hstep : u.read limit t with
    | error e =>
      rw [hstep] at hread
      cases hread
    | ok w =>
      rw [hstep] at hread
      simpa using ih (h.read hstep) hread

/-- Where no block is open, what was read derives what is held. -/
theorem derives_of_finish {u : Unfinished} {nodes : List Node} {pieces : List Piece}
    (h : Covers limit u.blocks u.nodes.toList pieces) (hfinish : u.finish = .ok nodes) :
    Derives limit 0 nodes pieces := by
  unfold Unfinished.finish at hfinish
  split at hfinish
  next hblocks =>
    cases hfinish
    rw [hblocks] at h
    cases h with
    | outermost hder => exact hder
  next => cases hfinish

end Covers

/-- Parsed nodes derive the pieces of the tokens. -/
theorem derives_of_parseTokens {limit : Int} {tokens : List Token} {nodes : List Node}
    (h : parseTokens limit tokens = .ok nodes) :
    Derives limit 0 nodes (tokens.map Token.piece) := by
  unfold parseTokens at h
  cases hrun : tokens.foldlM (Unfinished.read limit) .empty with
  | error e =>
    rw [hrun] at h
    cases h
  | ok u =>
    rw [hrun] at h
    have hempty : Covers limit Unfinished.empty.blocks Unfinished.empty.nodes.toList [] :=
      .outermost .nil
    exact (hempty.foldlM hrun).derives_of_finish h

/-! ## What is never refused -/

/-- The state with more nodes in the part being read. -/
def Unfinished.pushAll (u : Unfinished) (nodes : List Node) : Unfinished :=
  { u with nodes := u.nodes ++ nodes.toArray }

@[simp]
theorem Unfinished.pushAll_nil (u : Unfinished) : u.pushAll [] = u := by simp [pushAll]

@[simp]
theorem Unfinished.pushAll_push (u : Unfinished) (node : Node) (nodes : List Node) :
    (u.push node).pushAll nodes = u.pushAll (node :: nodes) := by
  simp [pushAll, push]

/-- Where there is room, an opener opens a block. -/
theorem Unfinished.openBlock_eq {limit : Int} {u : Unfinished} {name : Text} {part : Part}
    {opener : Token} (hroom : u.blocks.length + 1 ≤ limit) :
    u.openBlock limit name part opener = .ok ⟨⟨name, opener, part, u.nodes⟩ :: u.blocks, #[]⟩ := by
  rw [openBlock, if_neg (Int.not_lt.mpr hroom)]

/-- The close tag of the innermost block makes it a node, of the nodes that its part was given. -/
theorem Unfinished.closeBlock_pushAll (b : OpenBlock) (outer : List OpenBlock) (nodes : List Node)
    (p : Position) :
    ((⟨b :: outer, #[]⟩ : Unfinished).pushAll nodes).closeBlock b.part.closer p =
      .ok ((⟨outer, b.before⟩ : Unfinished).push (b.part.close b.name nodes)) := by
  simp [closeBlock, pushAll, push]

/-- An else mark in a then-part turns to the else-part. -/
theorem Unfinished.elseMark_pushAll (name : Text) (opener : Token) (before : Array Node)
    (outer : List OpenBlock) (nodes : List Node) (p : Position) :
    ((⟨⟨name, opener, .thenPart, before⟩ :: outer, #[]⟩ : Unfinished).pushAll nodes).elseMark p =
      .ok ⟨⟨name, opener, .elsePart nodes, before⟩ :: outer, #[]⟩ := by
  simp [elseMark, pushAll]

section Run

variable {limit : Int} {u v w : Unfinished}

/-- Reading goes on behind the tokens that were read. -/
theorem foldlM_read_append {front back : List Token}
    (h : front.foldlM (Unfinished.read limit) u = .ok v) :
    (front ++ back).foldlM (Unfinished.read limit) u = back.foldlM (Unfinished.read limit) v := by
  rw [List.foldlM_append, h]
  rfl

/-- Reading goes on behind the token that was read. -/
theorem foldlM_read_cons {t : Token} {back : List Token} (h : u.read limit t = .ok v) :
    (t :: back).foldlM (Unfinished.read limit) u = back.foldlM (Unfinished.read limit) v := by
  rw [List.foldlM_cons, h]
  rfl

end Run

/-- The first token of a list, by its piece. -/
theorem exists_cons_of_map_piece {tokens : List Token} {piece : Piece} {back : List Piece}
    (h : tokens.map Token.piece = piece :: back) :
    ∃ p bs, tokens = ⟨piece, p⟩ :: bs ∧ bs.map Token.piece = back := by
  obtain ⟨⟨q, p⟩, bs, rfl, hq, hback⟩ := List.map_eq_cons_iff.mp h
  cases hq
  exact ⟨p, bs, rfl, hback⟩

/-- The tokens of some pieces, and the token behind them. -/
theorem exists_append_of_map_piece {tokens : List Token} {piece : Piece} {front back : List Piece}
    (h : tokens.map Token.piece = front ++ piece :: back) :
    ∃ fs p bs, tokens = fs ++ ⟨piece, p⟩ :: bs ∧ fs.map Token.piece = front ∧
      bs.map Token.piece = back := by
  obtain ⟨fs, rest, rfl, hfront, hrest⟩ := List.map_eq_append_iff.mp h
  obtain ⟨p, bs, rfl, hback⟩ := exists_cons_of_map_piece hrest
  exact ⟨fs, p, bs, rfl, hfront, hback⟩

/-- **The tokens of a derivation are read** in any state inside of as many blocks, and leave its
nodes behind those that were there. -/
theorem Derives.foldlM_read {limit : Int} {around : Nat} {nodes : List Node} {pieces : List Piece}
    (h : Derives limit around nodes pieces) :
    ∀ {u : Unfinished} {tokens : List Token}, u.blocks.length = around →
      tokens.map Token.piece = pieces →
      tokens.foldlM (Unfinished.read limit) u = .ok (u.pushAll nodes) := by
  induction h with
  | nil =>
    intro u tokens _ htokens
    rw [List.map_eq_nil_iff.mp htokens, Unfinished.pushAll_nil]
    rfl
  | @text _ content rest _ _ ih =>
    intro u tokens hlen htokens
    obtain ⟨p, back, rfl, hback⟩ := exists_cons_of_map_piece htokens
    have hread : u.read limit ⟨.text content, p⟩ = .ok (u.push (.text content)) := rfl
    rw [foldlM_read_cons hread, ih (u := u.push _) hlen hback, Unfinished.pushAll_push]
  | @«variable» _ name rest _ _ ih =>
    intro u tokens hlen htokens
    obtain ⟨p, back, rfl, hback⟩ := exists_cons_of_map_piece htokens
    have hread : u.read limit ⟨.tag (.variable name), p⟩ =
        .ok (u.push (.variable name (Tag.variable name).spelling)) := rfl
    rw [foldlM_read_cons hread, ih (u := u.push _) hlen hback, Unfinished.pushAll_push]
  | @cond _ gap name thenPart rest _ _ hroom _ _ ihthen ih =>
    intro u tokens hlen htokens
    obtain ⟨p, inner, rfl, hinner⟩ := exists_cons_of_map_piece htokens
    obtain ⟨ts, q, back, rfl, hts, hback⟩ := exists_append_of_map_piece hinner
    let b : OpenBlock := ⟨name, ⟨.tag (.ifOpen gap name), p⟩, .thenPart, u.nodes⟩
    have hopen : u.read limit ⟨.tag (.ifOpen gap name), p⟩ = .ok ⟨b :: u.blocks, #[]⟩ :=
      Unfinished.openBlock_eq (hlen ▸ hroom)
    have hclose : ((⟨b :: u.blocks, #[]⟩ : Unfinished).pushAll thenPart).read limit
        ⟨.tag .ifClose, q⟩ = .ok (u.push (.cond name thenPart [])) :=
      Unfinished.closeBlock_pushAll b u.blocks thenPart q
    have hthen := ihthen (u := ⟨b :: u.blocks, #[]⟩) (by rw [List.length_cons, hlen]) hts
    rw [foldlM_read_cons hopen, foldlM_read_append hthen, foldlM_read_cons hclose,
      ih (u := u.push _) hlen hback, Unfinished.pushAll_push]
  | @condElse _ gap name thenPart elsePart rest _ _ _ hroom _ _ _ ihthen ihelse ih =>
    intro u tokens hlen htokens
    obtain ⟨p, inner, rfl, hinner⟩ := exists_cons_of_map_piece htokens
    obtain ⟨ts, m, last, rfl, hts, hlast⟩ := exists_append_of_map_piece hinner
    obtain ⟨es, q, back, rfl, hes, hback⟩ := exists_append_of_map_piece hlast
    let b : OpenBlock := ⟨name, ⟨.tag (.ifOpen gap name), p⟩, .thenPart, u.nodes⟩
    let c : OpenBlock := { b with part := .elsePart thenPart }
    have hopen : u.read limit ⟨.tag (.ifOpen gap name), p⟩ = .ok ⟨b :: u.blocks, #[]⟩ :=
      Unfinished.openBlock_eq (hlen ▸ hroom)
    have hmark : ((⟨b :: u.blocks, #[]⟩ : Unfinished).pushAll thenPart).read limit
        ⟨.tag .elseMark, m⟩ = .ok ⟨c :: u.blocks, #[]⟩ :=
      Unfinished.elseMark_pushAll name _ u.nodes u.blocks thenPart m
    have hclose : ((⟨c :: u.blocks, #[]⟩ : Unfinished).pushAll elsePart).read limit
        ⟨.tag .ifClose, q⟩ = .ok (u.push (.cond name thenPart elsePart)) :=
      Unfinished.closeBlock_pushAll c u.blocks elsePart q
    have hthen := ihthen (u := ⟨b :: u.blocks, #[]⟩) (by rw [List.length_cons, hlen]) hts
    have helse := ihelse (u := ⟨c :: u.blocks, #[]⟩) (by rw [List.length_cons, hlen]) hes
    rw [foldlM_read_cons hopen, foldlM_read_append hthen, foldlM_read_cons hmark,
      foldlM_read_append helse, foldlM_read_cons hclose, ih (u := u.push _) hlen hback,
      Unfinished.pushAll_push]
  | @loop _ gap name body rest _ _ hroom _ _ ihbody ih =>
    intro u tokens hlen htokens
    obtain ⟨p, inner, rfl, hinner⟩ := exists_cons_of_map_piece htokens
    obtain ⟨bs, q, back, rfl, hbs, hback⟩ := exists_append_of_map_piece hinner
    let b : OpenBlock := ⟨name, ⟨.tag (.eachOpen gap name), p⟩, .body, u.nodes⟩
    have hopen : u.read limit ⟨.tag (.eachOpen gap name), p⟩ = .ok ⟨b :: u.blocks, #[]⟩ :=
      Unfinished.openBlock_eq (hlen ▸ hroom)
    have hclose : ((⟨b :: u.blocks, #[]⟩ : Unfinished).pushAll body).read limit
        ⟨.tag .eachClose, q⟩ = .ok (u.push (.loop name body)) :=
      Unfinished.closeBlock_pushAll b u.blocks body q
    have hbody := ihbody (u := ⟨b :: u.blocks, #[]⟩) (by rw [List.length_cons, hlen]) hbs
    rw [foldlM_read_cons hopen, foldlM_read_append hbody, foldlM_read_cons hclose,
      ih (u := u.push _) hlen hback, Unfinished.pushAll_push]

/-- Tokens are parsed to the nodes that derive their pieces. -/
theorem parseTokens_eq_ok_iff {limit : Int} {tokens : List Token} {nodes : List Node} :
    parseTokens limit tokens = .ok nodes ↔ Derives limit 0 nodes (tokens.map Token.piece) := by
  constructor
  · exact derives_of_parseTokens
  · intro h
    have hrun := h.foldlM_read (u := .empty) rfl rfl
    rw [parseTokens, hrun]
    have hfinish : (Unfinished.empty.pushAll nodes).finish = .ok nodes := by
      simp [Unfinished.pushAll, Unfinished.empty, Unfinished.finish]
    exact hfinish

/-! ## Sources -/

/-- A source is parsed to the nodes that derive its pieces. -/
theorem parse_eq_ok_iff_derives {limit : Int} {source : Text} {nodes : List Node} :
    parse limit source = .ok nodes ↔ Derives limit 0 nodes (Piece.ofSource source) := by
  rw [parse, parseTokens_eq_ok_iff, tokenize, map_piece_locate]

/-- A source is parsed to the well-formed tree that it spells. -/
theorem parse_eq_ok_iff {limit : Int} {source : Text} {nodes : List Node} :
    parse limit source = .ok nodes ↔ WellFormed limit nodes ∧ Spells nodes source :=
  parse_eq_ok_iff_derives.trans derives_ofSource_iff

/-- **Parsing decides the grammar.** It answers exactly the well-formed trees that the source
spells; of these there is at most one; and where there is none, and only there, the answer is a
syntax error. -/
theorem parse_exact (limit : Int) (source : Text) :
    (∀ nodes, parse limit source = .ok nodes ↔ WellFormed limit nodes ∧ Spells nodes source) ∧
      {nodes | WellFormed limit nodes ∧ Spells nodes source}.Subsingleton ∧
      ((∃ e, parse limit source = .error e) ↔
        ¬ ∃ nodes, WellFormed limit nodes ∧ Spells nodes source) := by
  refine ⟨fun nodes => parse_eq_ok_iff, ?_, ?_⟩
  · intro nodes hnodes others hothers
    have hparse := parse_eq_ok_iff.mpr hnodes
    rw [parse_eq_ok_iff.mpr hothers] at hparse
    exact (Except.ok.inj hparse).symm
  · constructor
    · rintro ⟨e, he⟩ ⟨nodes, hfits⟩
      rw [parse_eq_ok_iff.mpr hfits] at he
      cases he
    · intro hnone
      cases hparse : parse limit source with
      | error e => exact ⟨e, rfl⟩
      | ok nodes => exact absurd ⟨nodes, parse_eq_ok_iff.mp hparse⟩ hnone

end Stencil.Template
