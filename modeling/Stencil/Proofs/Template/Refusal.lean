import Mathlib.Logic.Basic
import Stencil.Proofs.Template.Nesting

/-!
# Where a template goes wrong

A syntax error points at the earliest place that nothing behind it could have saved (`error_earliest`). All
that is read before it begins some template, and with the tag at that place it begins none, unless it is
only the end of the source that comes too early: then the opening tag of the innermost block that is still
open is complained of.

What begins a template is what is read without a complaint (`viable_iff`): where blocks are open, their
close tags are a way on, the innermost first, and no limit is in the way of those.
-/

namespace Stencil.Template

/-! ## What begins a template -/

/-- Tokens that are a template. -/
def Accepted (limit : Int) (tokens : List Token) : Prop :=
  ∃ nodes, parseTokens limit tokens = .ok nodes

/-- Tokens that a template may begin with. -/
def Viable (limit : Int) (tokens : List Token) : Prop := ∃ more, Accepted limit (tokens ++ more)

theorem Unfinished.finish_eq_ok_iff {u : Unfinished} :
    (∃ nodes, u.finish = .ok nodes) ↔ u.blocks = [] := by
  unfold finish
  split
  next hblocks => exact iff_of_true ⟨_, rfl⟩ hblocks
  next hblocks => exact iff_of_false nofun (by simp [hblocks])

/-- At the end of a source the innermost open block is complained of. -/
theorem Unfinished.finish_eq_error_iff {u : Unfinished} {e : SyntaxError} :
    u.finish = .error e ↔ ∃ b outer, u.blocks = b :: outer ∧
      e = ⟨.unclosed b.opener.raw b.part.closer, b.opener.position⟩ := by
  unfold finish
  split
  next hblocks =>
    refine iff_of_false nofun ?_
    rintro ⟨b, outer, hother, -⟩
    cases hblocks.symm.trans hother
  next b outer hblocks =>
    rw [Except.error.injEq]
    constructor
    · rintro rfl
      exact ⟨b, outer, hblocks, rfl⟩
    · rintro ⟨c, rest, hother, rfl⟩
      obtain ⟨rfl, -⟩ := List.cons.inj (hblocks.symm.trans hother)
      rfl

section

variable {limit : Int} {tokens : List Token}

/-- Tokens are a template when they are read and no block is open behind them. -/
theorem accepted_iff : Accepted limit tokens ↔
    ∃ u, tokens.foldlM (Unfinished.read limit) .empty = .ok u ∧ u.blocks = [] := by
  simp only [Accepted, parseTokens, bind_eq_ok_iff, ← Unfinished.finish_eq_ok_iff]
  constructor
  · rintro ⟨nodes, u, hrun, hfinish⟩
    exact ⟨u, hrun, nodes, hfinish⟩
  · rintro ⟨u, hrun, nodes, hfinish⟩
    exact ⟨nodes, u, hrun, hfinish⟩

/-- The close tag of the innermost block is read, whatever the limit. -/
theorem Unfinished.read_closer (limit : Int) (b : OpenBlock) (outer : List OpenBlock)
    (nodes : Array Node) (p : Position) :
    (⟨b :: outer, nodes⟩ : Unfinished).read limit ⟨.tag b.part.closer, p⟩ =
      .ok ⟨outer, b.before.push (b.part.close b.name nodes.toList)⟩ := by
  have hread : (⟨b :: outer, nodes⟩ : Unfinished).read limit ⟨.tag b.part.closer, p⟩ =
      (⟨b :: outer, nodes⟩ : Unfinished).closeBlock b.part.closer p := by
    cases b.part <;> rfl
  rw [hread]
  exact if_pos rfl

/-- The close tags of all open blocks, the innermost first, leave none open. -/
theorem exists_foldlM_closers (limit : Int) (blocks : List OpenBlock) (nodes : Array Node) :
    ∃ closers : List Token, ∃ v,
      closers.foldlM (Unfinished.read limit) ⟨blocks, nodes⟩ = .ok v ∧ v.blocks = [] := by
  induction blocks generalizing nodes with
  | nil => exact ⟨[], ⟨[], nodes⟩, rfl, rfl⟩
  | cons b outer ih =>
    have hread := Unfinished.read_closer limit b outer nodes .start
    obtain ⟨closers, v, hrun, hv⟩ := ih (b.before.push (b.part.close b.name nodes.toList))
    exact ⟨⟨.tag b.part.closer, .start⟩ :: closers, v, (foldlM_read_cons hread).trans hrun, hv⟩

/-- **What begins a template is what is read.** -/
theorem viable_iff :
    Viable limit tokens ↔ ∃ u, tokens.foldlM (Unfinished.read limit) .empty = .ok u := by
  constructor
  · rintro ⟨more, haccepted⟩
    obtain ⟨v, hrun, -⟩ := accepted_iff.mp haccepted
    rw [List.foldlM_append] at hrun
    obtain ⟨u, hu, -⟩ := bind_eq_ok_iff.mp hrun
    exact ⟨u, hu⟩
  · rintro ⟨u, hu⟩
    obtain ⟨closers, v, hrun, hv⟩ := exists_foldlM_closers limit u.blocks u.nodes
    exact ⟨closers, accepted_iff.mpr ⟨v, (foldlM_read_append hu).trans hrun, hv⟩⟩

/-- The beginning of what begins a template begins one. -/
theorem Viable.of_prefix {front : List Token} (h : Viable limit tokens) (hfront : front <+: tokens) :
    Viable limit front := by
  obtain ⟨back, rfl⟩ := hfront
  obtain ⟨more, haccepted⟩ := h
  exact ⟨back ++ more, by rwa [← List.append_assoc]⟩

end

/-! ## Where reading stops -/

section

variable {limit : Int} {source : Text} {e : SyntaxError}

/-- A complaint is about a token that is refused, or about the end of the source. -/
theorem parse_eq_error_iff : parse limit source = .error e ↔
    (∃ front t back u, tokenize source = front ++ t :: back ∧
        front.foldlM (Unfinished.read limit) .empty = .ok u ∧ u.read limit t = .error e) ∨
      ∃ u, (tokenize source).foldlM (Unfinished.read limit) .empty = .ok u ∧ u.finish = .error e := by
  rw [parse, parseTokens, bind_eq_error_iff, foldlM_eq_error_iff]

/-- The error says of the innermost block that is open behind the tokens that it is never closed, and all
the tokens begin some template. -/
structure NeverClosed (limit : Int) (tokens : List Token) (e : SyntaxError) : Prop where
  viable : Viable limit tokens
  innermost : ∃ opener inner closer, Innermost tokens opener inner ∧
    opener.piece.closer? = some closer ∧ e = ⟨.unclosed opener.raw closer, opener.position⟩

/-- The error is at the first token that no template goes on with, and says that blocks are nested too deep
exactly when that is an opening tag. -/
structure RefusedAt (limit : Int) (tokens : List Token) (e : SyntaxError) (front : List Token)
    (t : Token) : Prop where
  behind : front ++ [t] <+: tokens
  viable : Viable limit front
  refused : ¬ Viable limit (front ++ [t])
  place : e.position = t.position
  nesting : e.misuse.isNesting = true ↔ t.Opens

/-- A token that is refused is the first that no template goes on with. -/
theorem refusedAt_of_read {tokens front back : List Token} {t : Token} {u : Unfinished}
    (hsplit : tokens = front ++ t :: back)
    (hrun : front.foldlM (Unfinished.read limit) .empty = .ok u)
    (hread : u.read limit t = .error e) : RefusedAt limit tokens e front t where
  behind := concat_isPrefix_iff.mpr ⟨back, hsplit⟩
  viable := viable_iff.mpr ⟨u, hrun⟩
  refused hviable := by
    obtain ⟨v, hv⟩ := viable_iff.mp hviable
    rw [foldlM_read_append hrun, List.foldlM_cons, hread] at hv
    cases hv
  place := ((Standing.of_foldlM hrun).of_read_error hread).1
  nesting := by
    rcases ((Standing.of_foldlM hrun).of_read_error hread).2 with ⟨hkind, hopens, -⟩ | ⟨hkind, hplace⟩
    · exact iff_of_true hkind hopens
    · exact iff_of_false (by rw [hkind]; nofun) fun hopens => hplace (hopens.hasPlace front)

/-- A source that ends too early is complained of at its innermost open block. -/
theorem neverClosed_of_finish {tokens : List Token} {u : Unfinished}
    (hrun : tokens.foldlM (Unfinished.read limit) .empty = .ok u) (hfinish : u.finish = .error e) :
    NeverClosed limit tokens e where
  viable := viable_iff.mpr ⟨u, hrun⟩
  innermost := by
    obtain ⟨b, outer, hblocks, rfl⟩ := Unfinished.finish_eq_error_iff.mp hfinish
    obtain ⟨inner, hholds, hin⟩ := (hblocks ▸ Standing.of_foldlM hrun).innermost
    exact ⟨b.opener, inner, b.part.closer, hin, hholds.closer, rfl⟩

/-- **A syntax error is at the earliest place that nothing behind it could have saved.** Either all the
tokens of the source begin some template, and the opening tag of the innermost block that is still open is
said never to be closed; or the error is at the token that ends the shortest stretch of the source that
begins no template, and says that blocks are nested too deep exactly when that is an opening tag. -/
theorem error_earliest (h : parse limit source = .error e) :
    Xor (NeverClosed limit (tokenize source) e)
      (∃ front t, RefusedAt limit (tokenize source) e front t) := by
  rcases parse_eq_error_iff.mp h with ⟨front, t, back, u, hsplit, hrun, hread⟩ | ⟨u, hrun, hfinish⟩
  · have hat : RefusedAt limit (tokenize source) e front t := refusedAt_of_read hsplit hrun hread
    refine .inr ⟨⟨front, t, hat⟩, fun hopen => ?_⟩
    exact hat.refused (hopen.viable.of_prefix hat.behind)
  · have hopen : NeverClosed limit (tokenize source) e := neverClosed_of_finish hrun hfinish
    refine .inl ⟨hopen, ?_⟩
    rintro ⟨front, t, hat⟩
    exact hat.refused (hopen.viable.of_prefix hat.behind)

end

/-- A loop inside of a conditional, which is closed in the place of the loop. -/
def crossedSource : Text :=
  (Tag.ifOpen [' '] ['a']).spelling ++ (Tag.eachOpen [' '] ['b']).spelling ++ Tag.ifClose.spelling

theorem tokenize_crossedSource : tokenize crossedSource =
    [⟨.tag (.ifOpen [' '] ['a']), .start⟩, ⟨.tag (.eachOpen [' '] ['b']), ⟨9, 1, 10⟩⟩,
      ⟨.tag .ifClose, ⟨20, 1, 21⟩⟩] := by
  have hclose : Tag.scan Tag.ifClose.spelling = some (.ifClose, []) := rfl
  have hloop : Tag.scan ((Tag.eachOpen [' '] ['b']).spelling ++ Tag.ifClose.spelling) =
      some (.eachOpen [' '] ['b'], Tag.ifClose.spelling) := rfl
  have hcond : Tag.scan crossedSource = some (.ifOpen [' '] ['a'],
      (Tag.eachOpen [' '] ['b']).spelling ++ Tag.ifClose.spelling) := rfl
  rw [tokenize, Piece.ofSource_of_scan hcond, Piece.ofSource_of_scan hloop,
    Piece.ofSource_of_scan hclose, Piece.ofSource_nil]
  rfl

/-- The close tag of the conditional is complained of, because it stands in the loop. -/
theorem error_earliest_crossedSource :
    let e : SyntaxError :=
      ⟨.crossed .ifClose (Tag.eachOpen [' '] ['b']).spelling 1 .eachClose, ⟨20, 1, 21⟩⟩
    parse 2 crossedSource = .error e ∧
      Xor (NeverClosed 2 (tokenize crossedSource) e)
        (∃ front t, RefusedAt 2 (tokenize crossedSource) e front t) := by
  intro e
  have hparse : parse 2 crossedSource = .error e := by
    rw [parse, tokenize_crossedSource]
    rfl
  exact ⟨hparse, error_earliest hparse⟩

end Stencil.Template
