import Mathlib
import Stencil.Proofs.Template.Merging
import Stencil.Proofs.Template.Parsing

/-!
# Sources made of sources

What a source puts out can be read off the sources that it is made of. A conditional around two sources
puts out one of them, a loop puts out its body once for each element, in the dictionary for that
element, and a source behind another is put out behind it (`process_compositional`). The limit has to
leave room for one more block around the parts, and nothing else is asked of it.

These are laws of texts, and a text next to a tag may hold braces of its own. Around a block they cannot
matter: no tag begins in a text and ends behind it, so the pieces of the parts are pieces of the whole
(`Piece.separated_append_tag`). Two sources behind one another are different, because braces that are
text in each of them may spell a tag together. `SeamClear` says that they do not. Then each piece of the
whole is a piece of one of the parts, but for one text that may lie on both sides of the seam
(`Piece.ofSource_append`), and a text is put out as its two halves are.
-/

namespace Stencil.Template

/-! ## Cutting at a seam -/

/-- No tag lies on both sides of the seam between two texts: each ends before it or begins behind it. -/
def SeamClear (front back : Text) : Prop :=
  ∀ t ∈ tokenize (front ++ back), t.piece.isText = false →
    t.position.offset + t.raw.length ≤ front.length ∨ front.length ≤ t.position.offset

namespace Piece

/-- **Where no tag lies on the seam, the pieces of two sources are those of their concatenation**, but for
a text on both sides of the seam, which is one piece of the whole. -/
theorem ofSource_append {front back : Text} (h : SeamClear front back) :
    ofSource (front ++ back) = ofSource front ++ ofSource back ∨
      ∃ ps qs x y, ofSource front = ps ++ [.text x] ∧ ofSource back = .text y :: qs ∧
        ofSource (front ++ back) = ps ++ .text (x ++ y) :: qs := by
  have hsep := separated_ofSource (front ++ back)
  rcases exists_seam (flatMap_raw_ofSource (front ++ back)) with
    ⟨ps, qs, hpieces, hfront, hback⟩ | ⟨ps, piece, qs, x, y, hpieces, hx, hy, hraw, hfront, hback⟩
  · rw [hpieces] at hsep
    obtain ⟨hps, hqs⟩ := hsep.of_append
    refine .inl ?_
    rw [hpieces, ofSource_eq_iff.mpr ⟨hps, hfront⟩, ofSource_eq_iff.mpr ⟨hqs, hback⟩]
  · cases piece with
    | tag t =>
      -- A tag that lies on both sides is too long for the one and begins too early for the other.
      exfalso
      have hseam := h _ (mem_tokenize_of_split hpieces) rfl
      have hxlen := List.length_pos_iff.mpr hx
      have hylen := List.length_pos_iff.mpr hy
      rw [Position.offset_advance, Token.raw, hraw, ← hfront] at hseam
      simp only [Position.start, List.length_append] at hseam
      omega
    | text content =>
      obtain rfl : content = x ++ y := hraw
      rw [hpieces] at hsep
      obtain ⟨hps, hqs⟩ := hsep.of_cut hx hy
      refine .inr ⟨ps, qs, x, y, ofSource_eq_iff.mpr ⟨hps, ?_⟩, ofSource_eq_iff.mpr ⟨hqs, hback⟩,
        hpieces⟩
      rw [List.flatMap_append, ← hfront]
      simp [raw]

end Piece

/-! ## Derivations of the whole -/

namespace Derives

variable {limit : Int} {around : Nat} {nodes : List Node}

/-- With one more block around them, nodes are derived within a limit that allows one more. -/
theorem deeper {pieces : List Piece} (h : Derives limit around nodes pieces) :
    Derives (limit + 1) (around + 1) nodes pieces := by
  induction h with
  | nil => exact .nil
  | text _ ih => exact .text ih
  | «variable» _ ih => exact .variable ih
  | cond hroom _ _ ihthen ih => exact .cond (by omega) ihthen ih
  | condElse hroom _ _ _ ihthen ihelse ih => exact .condElse (by omega) ihthen ihelse ih
  | loop hroom _ _ ihbody ih => exact .loop (by omega) ihbody ih

/-- A text that is the last piece is the last node. -/
theorem last_text {pieces ps : List Piece} {content : Text} (h : Derives limit around nodes pieces)
    (hpieces : pieces = ps ++ [.text content]) :
    ∃ front, nodes = front ++ [.text content] ∧ Derives limit around front ps := by
  -- A block ends in a tag, so the text stands behind it.
  have hbehind (part : List Piece) {rest ps : List Piece} {mark : Tag}
      (h : part ++ .tag mark :: rest = ps ++ [.text content]) :
      ∃ qs, rest = qs ++ [.text content] ∧ ps = part ++ .tag mark :: qs := by
    cases rest using List.reverseRecOn with
    | nil =>
      have hlast := (List.append_inj' h rfl).2
      cases hlast
    | append_singleton qs last =>
      rw [← List.cons_append, ← List.append_assoc] at h
      obtain ⟨hps, hlast⟩ := List.append_inj' h rfl
      exact ⟨qs, by rw [hlast], hps.symm⟩
  induction h generalizing ps with
  | nil => simp at hpieces
  | @text _ c rest _ hrest ih =>
    cases ps with
    | nil =>
      obtain ⟨hc, rfl⟩ := List.cons.inj hpieces
      cases hc
      cases hrest
      exact ⟨[], rfl, .nil⟩
    | cons p ps =>
      obtain ⟨rfl, hps⟩ := List.cons.inj hpieces
      obtain ⟨front, rfl, hfront⟩ := ih hps
      exact ⟨_ :: front, rfl, .text hfront⟩
  | «variable» hrest ih =>
    obtain ⟨qs, hqs, rfl⟩ := hbehind [] hpieces
    obtain ⟨front, rfl, hfront⟩ := ih hqs
    exact ⟨_ :: front, rfl, .variable hfront⟩
  | @cond _ gap name thenPart _ ts _ hroom hthen hrest _ ih =>
    obtain ⟨qs, hqs, rfl⟩ := hbehind (.tag (.ifOpen gap name) :: ts) hpieces
    obtain ⟨front, rfl, hfront⟩ := ih hqs
    exact ⟨_ :: front, rfl, .cond hroom hthen hfront⟩
  | @condElse _ gap name thenPart elsePart _ ts es _ hroom hthen helse hrest _ _ ih =>
    obtain ⟨qs, hqs, rfl⟩ := hbehind
      (.tag (.ifOpen gap name) :: (ts ++ .tag .elseMark :: es)) (by simpa using hpieces)
    obtain ⟨front, rfl, hfront⟩ := ih hqs
    exact ⟨_ :: front, rfl, by simpa using Derives.condElse hroom hthen helse hfront⟩
  | @loop _ gap name body _ bs _ hroom hbody hrest _ ih =>
    obtain ⟨qs, hqs, rfl⟩ := hbehind (.tag (.eachOpen gap name) :: bs) hpieces
    obtain ⟨front, rfl, hfront⟩ := ih hqs
    exact ⟨_ :: front, rfl, .loop hroom hbody hfront⟩

end Derives

section Parse

variable {limit : Int} {front back gap name : Text} {nodes more : List Node}

/-- A conditional around two sources is parsed where there is room for one more block. -/
theorem parse_condElse (hlimit : 0 ≤ limit) (hgap : IsGap gap) (hname : IsName name)
    (hfront : parse limit front = .ok nodes) (hback : parse limit back = .ok more) :
    parse (limit + 1) ((Tag.ifOpen gap name).spelling ++ front ++ Tag.elseMark.spelling ++ back ++
      Tag.ifClose.spelling) = .ok [.cond name nodes more] := by
  have hcut : Piece.ofSource ((Tag.ifOpen gap name).spelling ++ front ++ Tag.elseMark.spelling ++
      back ++ Tag.ifClose.spelling) = .tag (.ifOpen gap name) :: (Piece.ofSource front ++
        .tag .elseMark :: (Piece.ofSource back ++ .tag .ifClose :: [])) := by
    refine Piece.ofSource_eq_iff.mpr ⟨.tag ⟨hgap, hname⟩ ?_, ?_⟩
    · refine Piece.separated_append_tag.mpr ⟨Piece.separated_ofSource front, trivial, ?_⟩
      exact Piece.separated_append_tag.mpr ⟨Piece.separated_ofSource back, trivial, .nil⟩
    · simp [Piece.raw, Piece.flatMap_raw_ofSource]
  rw [parse_eq_ok_iff_derives] at hfront hback ⊢
  rw [hcut]
  exact .condElse (by omega) hfront.deeper hback.deeper .nil

/-- A loop around a source is parsed where there is room for one more block. -/
theorem parse_loop (hlimit : 0 ≤ limit) (hgap : IsGap gap) (hname : IsName name)
    (hbody : parse limit front = .ok nodes) :
    parse (limit + 1) ((Tag.eachOpen gap name).spelling ++ front ++ Tag.eachClose.spelling) =
      .ok [.loop name nodes] := by
  have hcut : Piece.ofSource ((Tag.eachOpen gap name).spelling ++ front ++ Tag.eachClose.spelling) =
      .tag (.eachOpen gap name) :: (Piece.ofSource front ++ .tag .eachClose :: []) := by
    refine Piece.ofSource_eq_iff.mpr ⟨.tag ⟨hgap, hname⟩ ?_, ?_⟩
    · exact Piece.separated_append_tag.mpr ⟨Piece.separated_ofSource front, trivial, .nil⟩
    · simp [Piece.raw, Piece.flatMap_raw_ofSource]
  rw [parse_eq_ok_iff_derives] at hbody ⊢
  rw [hcut]
  exact .loop (by omega) hbody.deeper .nil

end Parse

/-! ## Outputs of the whole -/

/-- Nodes behind one another are put out behind one another. -/
theorem mergedNodes_append (d : Dict) (nodes more : List Node) :
    mergedNodes d (nodes ++ more) = do return (← mergedNodes d nodes) ++ (← mergedNodes d more) := by
  induction nodes with
  | nil =>
    rw [List.nil_append, mergedNodes]
    cases mergedNodes d more <;> rfl
  | cons node rest ih =>
    rw [List.cons_append, mergedNodes, mergedNodes, ih]
    cases mergedNode d node <;> cases mergedNodes d rest <;> cases mergedNodes d more <;> simp

/-- A text is put out as its two halves are. -/
theorem mergedNodes_text_append (d : Dict) (x y : Text) (rest : List Node) :
    mergedNodes d (.text (x ++ y) :: rest) = mergedNodes d (.text x :: .text y :: rest) := by
  simp only [mergedNodes, mergedNode, Symbols.ofText, List.map_append]
  cases mergedNodes d rest <;> simp

/-- **A source behind another is parsed to nodes that put out what the two put out**, if no tag lies on
the seam. -/
theorem exists_parse_append {limit : Int} {front back : Text} {nodes more : List Node}
    (hfront : parse limit front = .ok nodes) (hback : parse limit back = .ok more)
    (hseam : SeamClear front back) :
    ∃ all, parse limit (front ++ back) = .ok all ∧
      ∀ d, mergedNodes d all = do return (← mergedNodes d nodes) ++ (← mergedNodes d more) := by
  simp only [parse_eq_ok_iff_derives] at hfront hback ⊢
  rcases Piece.ofSource_append hseam with hpieces | ⟨ps, qs, x, y, hps, hqs, hpieces⟩
  · exact ⟨nodes ++ more, hpieces ▸ hfront.append hback, fun d => mergedNodes_append d nodes more⟩
  · rw [hqs] at hback
    obtain ⟨first, rfl, hfirst⟩ := hfront.last_text hps
    cases hback with
    | @text _ _ rest _ hrest =>
      refine ⟨first ++ .text (x ++ y) :: rest, ?_, fun d => ?_⟩
      · rw [hpieces]
        exact hfirst.append (.text hrest)
      · calc mergedNodes d (first ++ .text (x ++ y) :: rest)
            = mergedNodes d ((first ++ [.text x]) ++ .text y :: rest) := by
              rw [mergedNodes_append, mergedNodes_text_append, ← mergedNodes_append]
              simp
          _ = _ := mergedNodes_append d _ _

/-! ## Compositionality -/

section Process

variable {limit : Int} {context : Dict} {source : Text} {nodes : List Node}

/-- What a source that is parsed puts out, in one dictionary. -/
theorem process_eq_merged (h : parse limit source = .ok nodes) :
    process limit context source = match mergedNodes context nodes with
      | some s => .ok s
      | none => .error (.escaped .badValue) := by
  have houtput := output_renderNodes nodes (Scope.merges_singleton context)
  rw [process, h]
  show rendered context nodes = _
  cases hmerged : mergedNodes context nodes <;>
    simp only [rendered, render, houtput, hmerged]

/-- A body is put out for elements in order, each in its own dictionary. -/
theorem mapM_process_eq_merged {α : Type} (h : parse limit source = .ok nodes) (f : α → Dict)
    (elements : List α) :
    (elements.mapM fun x => process limit (f x) source) =
      match elements.mapM fun x => mergedNodes (f x) nodes with
      | some outputs => .ok outputs
      | none => .error (.escaped .badValue) := by
  induction elements with
  | nil => rfl
  | cons x elements ih =>
    rw [List.mapM_cons, List.mapM_cons, ih, process_eq_merged h]
    cases mergedNodes (f x) nodes with
    | none => rfl
    | some s =>
      cases elements.mapM fun x => mergedNodes (f x) nodes with
      | none => rfl
      | some outputs => rfl

end Process

/-- **What is put out is composed as the source is.** Of two sources that are parsed within a limit, a
conditional puts out the one that its name chooses; a loop puts out the one once for each element of its
sequence, in the context overwritten by the element's fields and by the element itself under `item`, and
nothing where there is no sequence; and a source behind another is put out behind it, if no tag lies on
the seam. Around the blocks the limit is one more. Where a value cannot be shown the parts fail as the
whole does. -/
theorem process_compositional {limit : Int} (hlimit : 0 ≤ limit) {front back : Text}
    (hfront : ∃ nodes, parse limit front = .ok nodes) (hback : ∃ nodes, parse limit back = .ok nodes)
    (context : Dict) {gap name : Text} (hgap : IsGap gap) (hname : IsName name) :
    process (limit + 1) context ((Tag.ifOpen gap name).spelling ++ front ++ Tag.elseMark.spelling ++
        back ++ Tag.ifClose.spelling) =
      (if (context.get? name).any Value.truthy then process limit context front
        else process limit context back) ∧
    process (limit + 1) context ((Tag.eachOpen gap name).spelling ++ front ++
        Tag.eachClose.spelling) =
      (match (context.get? name).bind Value.elements? with
        | some elements =>
          (elements.mapM fun e => process limit (context.merged e) front).map List.flatten
        | none => .ok []) ∧
    (SeamClear front back → process limit context (front ++ back) =
      do return (← process limit context front) ++ (← process limit context back)) := by
  obtain ⟨nodes, hnodes⟩ := hfront
  obtain ⟨more, hmore⟩ := hback
  refine ⟨?_, ?_, fun hseam => ?_⟩
  · rw [process_eq_merged (parse_condElse hlimit hgap hname hnodes hmore), process_eq_merged hnodes,
      process_eq_merged hmore]
    simp only [mergedNodes, mergedNode]
    cases context.get? name with
    | none => simp
    | some v => cases hv : v.truthy <;> simp [hv]
  · rw [process_eq_merged (parse_loop hlimit hgap hname hnodes)]
    simp only [mergedNodes, mergedNode]
    cases (context.get? name).bind Value.elements? with
    | none => rfl
    | some elements =>
      simp only [mapM_process_eq_merged hnodes]
      cases elements.mapM fun e => mergedNodes (context.merged e) nodes with
      | none => rfl
      | some outputs => simp [Except.map]
  · obtain ⟨all, hall, houtput⟩ := exists_parse_append hnodes hmore hseam
    rw [process_eq_merged hall, process_eq_merged hnodes, process_eq_merged hmore, houtput]
    cases mergedNodes context nodes with
    | none => rfl
    | some s => cases mergedNodes context more <;> rfl

/-- A text with a tag in it, which ends in an opening brace. -/
def openRow : Text := "[\x7b\x7bx\x7d\x7d\x7b"

/-- A text that begins with a closing brace. -/
def closeRow : Text := "\x7d\x7bx\x7d]"

/-- A name that is bound to a dictionary and a text. -/
def twoRows : Dict :=
  [(.text ['n'], .list [.dict [(.text ['x'], .text ['1'])], .text ['u']]), (.text ['x'], .text ['0'])]

/-- In a loop over both rows, and next to each other, the braces of the two parts stay text. -/
theorem process_compositional_twoRows :
    (0 : Int) ≤ 0 ∧ (∃ nodes, parse 0 openRow = .ok nodes) ∧ (∃ nodes, parse 0 closeRow = .ok nodes) ∧
      IsGap [' '] ∧ IsName ['n'] ∧ SeamClear openRow closeRow ∧
      process 1 twoRows ((Tag.ifOpen [' '] ['n']).spelling ++ openRow ++ Tag.elseMark.spelling ++
        closeRow ++ Tag.ifClose.spelling) = process 0 twoRows openRow ∧
      process 1 twoRows ((Tag.eachOpen [' '] ['n']).spelling ++ openRow ++ Tag.eachClose.spelling) =
        .ok (Symbols.ofText "[1\x7b[0\x7b") ∧
      process 0 twoRows (openRow ++ closeRow) = .ok (Symbols.ofText "[0\x7b\x7d\x7bx\x7d]") := by
  have hopen : parse 0 openRow = .ok
      [.text ['['], .variable ['x'] "\x7b\x7bx\x7d\x7d".toList, .text ['{']] := by cbv
  have hclose : parse 0 closeRow = .ok [.text closeRow] := by cbv
  have hgap : IsGap [' '] := ⟨List.cons_ne_nil _ _, List.forall_mem_singleton.mpr rfl⟩
  have hname : IsName ['n'] := ⟨List.cons_ne_nil _ _, List.forall_mem_singleton.mpr rfl⟩
  have htokens : tokenize (openRow ++ closeRow) =
      [⟨.text ['['], ⟨0, 1, 1⟩⟩, ⟨.tag (.variable ['x']), ⟨1, 1, 2⟩⟩,
        ⟨.text ('{' :: closeRow), ⟨6, 1, 7⟩⟩] := by cbv
  have hseam : SeamClear openRow closeRow := by
    unfold SeamClear
    rw [htokens]
    decide
  obtain ⟨hcond, hloop, happend⟩ := process_compositional (Int.le_refl 0) ⟨_, hopen⟩ ⟨_, hclose⟩
    twoRows hgap hname
  refine ⟨Int.le_refl 0, ⟨_, hopen⟩, ⟨_, hclose⟩, hgap, hname, hseam, ?_, ?_, ?_⟩
  · exact hcond.trans (by rfl)
  · exact hloop.trans (by cbv)
  · exact (happend hseam).trans (by cbv)

end Stencil.Template
