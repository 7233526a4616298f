import Mathlib.Data.List.Infix
import Stencil.Proofs.Failure
import Stencil.Proofs.Template.Parsing

/-!
# Nesting

Where a token of a template stands is a matter of counting. Opening tags count one and close tags minus
one, so the count of the tokens before a place is the number of blocks around it (`rise`). The innermost
of them is the one whose opening tag has only whole blocks behind it (`Innermost`). A close tag has a place
where the innermost block waits for it, and an else mark where the innermost block is a conditional that
has had none (`HasPlace`). Nothing of this knows a parser.

`Standing` says that a parser counts right: the blocks that it holds open are those that the tokens before
leave open, in their order, each with its opening tag. Reading a token keeps that (`Standing.read`), and so
does reading any number of them (`Standing.foldlM`). So what a parser lets pass at its innermost block is
what has a place there (`Standing.hasPlace_iff`), and how many blocks it holds is the count
(`Standing.rise_eq`).
-/

namespace Stencil.Template

/-! ## Counting blocks -/

/-- The tag that closes the block that a tag opens; nothing when it opens none. -/
def Tag.closer? : Tag → Option Tag
  | .ifOpen .. => some .ifClose
  | .eachOpen .. => some .eachClose
  | .variable _ | .elseMark | .ifClose | .eachClose => none

namespace Piece

/-- The tag that closes the block that a piece opens. -/
def closer? : Piece → Option Tag
  | .text _ => none
  | .tag t => t.closer?

/-- By how much a piece changes the number of open blocks. -/
def rise : Piece → Int
  | .tag (.ifOpen ..) | .tag (.eachOpen ..) => 1
  | .tag .ifClose | .tag .eachClose => -1
  | .text _ | .tag (.variable _) | .tag .elseMark => 0

end Piece

/-- Whether a token is an opening tag. -/
def Token.Opens (t : Token) : Prop := t.piece.closer?.isSome = true

theorem Token.Opens.exists_tag {t : Token} (h : t.Opens) :
    ∃ gap name, t.piece = .tag (.ifOpen gap name) ∨ t.piece = .tag (.eachOpen gap name) := by
  obtain ⟨piece, position⟩ := t
  cases piece with
  | text content => cases h
  | tag tag =>
    cases tag with
    | ifOpen gap name => exact ⟨gap, name, .inl rfl⟩
    | eachOpen gap name => exact ⟨gap, name, .inr rfl⟩
    | «variable» name => cases h
    | elseMark => cases h
    | ifClose => cases h
    | eachClose => cases h

theorem Token.Opens.rise_eq {t : Token} (h : t.Opens) : t.piece.rise = 1 := by
  obtain ⟨gap, name, hpiece | hpiece⟩ := h.exists_tag
  · rw [hpiece]
    rfl
  · rw [hpiece]
    rfl

/-- What leaves the count as it is or lowers it opens no block. -/
theorem Token.not_opens_of_rise {t : Token} (h : t.piece.rise ≤ 0) : ¬ t.Opens := by
  intro hopens
  rw [hopens.rise_eq] at h
  exact absurd h (by decide)

/-- How many more blocks are opened in some tokens than are closed there. -/
def rise : List Token → Int
  | [] => 0
  | t :: tokens => t.piece.rise + rise tokens

@[simp]
theorem rise_nil : rise [] = 0 := rfl

@[simp]
theorem rise_cons (t : Token) (tokens : List Token) : rise (t :: tokens) = t.piece.rise + rise tokens :=
  rfl

@[simp]
theorem rise_append (front back : List Token) : rise (front ++ back) = rise front + rise back := by
  induction front with
  | nil => rw [List.nil_append, rise_nil, Int.zero_add]
  | cons t front ih => rw [List.cons_append, rise_cons, rise_cons, ih, Int.add_assoc]

/-! ## Whole blocks -/

/-- Tokens that are made of whole blocks and of tokens outside of blocks: they close every block that they
open, and no other. -/
structure Level (tokens : List Token) : Prop where
  covered : ∀ front, front <+: tokens → 0 ≤ rise front
  settled : rise tokens = 0

/-- Among some tokens an else mark stands outside of their blocks. -/
def HasElse (tokens : List Token) : Prop :=
  ∃ front p back, tokens = front ++ ⟨.tag .elseMark, p⟩ :: back ∧ rise front = 0

/-- What begins two lists in a row ends in the first or in the second. -/
theorem isPrefix_append_iff {α : Type} {front as bs : List α} :
    front <+: as ++ bs ↔ front <+: as ∨ ∃ more, more <+: bs ∧ front = as ++ more := by
  constructor
  · intro h
    rcases List.prefix_or_prefix_of_prefix h (List.prefix_append as bs) with hshort | ⟨more, rfl⟩
    · exact .inl hshort
    · exact .inr ⟨more, (List.prefix_append_right_inj as).mp h, rfl⟩
  · rintro (h | ⟨more, h, rfl⟩)
    · exact h.trans (List.prefix_append as bs)
    · exact (List.prefix_append_right_inj as).mpr h

/-- What begins a list with an element more has that element behind it in the list. -/
theorem concat_isPrefix_iff {α : Type} {front as : List α} {a : α} :
    front ++ [a] <+: as ↔ ∃ back, as = front ++ a :: back := by
  refine exists_congr fun back => ?_
  rw [List.append_assoc, List.singleton_append, eq_comm]

namespace Level

variable {tokens more inner : List Token} {t opener closer : Token}

theorem nil : Level [] where
  covered front hfront := by
    rw [List.prefix_nil.mp hfront]
    exact Int.le_refl 0
  settled := rfl

theorem append (h : Level tokens) (hmore : Level more) : Level (tokens ++ more) where
  covered front hfront := by
    rcases isPrefix_append_iff.mp hfront with hfirst | ⟨second, hsecond, rfl⟩
    · exact h.covered front hfirst
    · rw [rise_append, h.settled, Int.zero_add]
      exact hmore.covered second hsecond
  settled := by rw [rise_append, h.settled, hmore.settled, Int.zero_add]

/-- A token that opens and closes nothing. -/
theorem singleton (ht : t.piece.rise = 0) : Level [t] where
  covered front hfront := by
    rcases List.prefix_cons_iff.mp hfront with rfl | ⟨rest, rfl, hrest⟩
    · exact Int.le_refl 0
    · rw [List.prefix_nil.mp hrest, rise_cons, ht, rise_nil]
      exact Int.le_refl 0
  settled := by rw [rise_cons, ht, rise_nil, Int.zero_add]

/-- A block. -/
theorem block (ho : opener.piece.rise = 1) (hinner : Level inner) (hc : closer.piece.rise = -1) :
    Level (opener :: (inner ++ [closer])) where
  covered front hfront := by
    rcases List.prefix_cons_iff.mp hfront with rfl | ⟨rest, rfl, hrest⟩
    · exact Int.le_refl 0
    · rw [rise_cons, ho]
      rcases List.prefix_concat_iff.mp hrest with rfl | hrest
      · rw [rise_append, hinner.settled, rise_cons, hc, rise_nil]
        decide
      · have := hinner.covered rest hrest
        omega
  settled := by
    rw [rise_cons, ho, rise_append, hinner.settled, rise_cons, hc, rise_nil]
    rfl

/-- Behind an opening tag with whole blocks behind it there are no whole blocks in front of it. -/
theorem not_suffix (h : Level tokens) (ho : opener.Opens) (hinner : Level inner) :
    ¬ opener :: inner <:+ tokens := by
  rintro ⟨front, rfl⟩
  have hfront := h.covered front (List.prefix_append _ _)
  have hall := h.settled
  rw [rise_append, rise_cons, ho.rise_eq, hinner.settled] at hall
  omega

end Level

/-- An else mark outside of the blocks of tokens in a row is one of the first or of the second. -/
theorem hasElse_append {tokens more : List Token} (h : rise tokens = 0) :
    HasElse (tokens ++ more) ↔ HasElse tokens ∨ HasElse more := by
  constructor
  · rintro ⟨front, p, back, hsplit, hrise⟩
    rcases List.append_eq_append_iff.mp hsplit with ⟨rest, rfl, rfl⟩ | ⟨rest, rfl, hrest⟩
    · rw [rise_append, h, Int.zero_add] at hrise
      exact .inr ⟨rest, p, back, rfl, hrise⟩
    · cases rest with
      | nil => exact .inr ⟨[], p, back, hrest.symm, rfl⟩
      | cons t rest =>
        obtain ⟨rfl, -⟩ := List.cons.inj hrest
        exact .inl ⟨front, p, rest, rfl, hrise⟩
  · rintro (⟨front, p, back, rfl, hrise⟩ | ⟨front, p, back, rfl, hrise⟩)
    · exact ⟨front, p, back ++ more, by rw [List.append_assoc, List.cons_append], hrise⟩
    · exact ⟨tokens ++ front, p, back, by rw [List.append_assoc], by rw [rise_append, h, hrise]; rfl⟩

theorem not_hasElse_nil : ¬ HasElse [] := by
  rintro ⟨front, p, back, hsplit, -⟩
  exact List.append_ne_nil_of_right_ne_nil front (List.cons_ne_nil _ _) hsplit.symm

theorem not_hasElse_singleton {t : Token} (h : t.piece ≠ .tag .elseMark) : ¬ HasElse [t] := by
  rintro ⟨front, p, back, hsplit, -⟩
  refine h ?_
  have hmem : (⟨.tag .elseMark, p⟩ : Token) ∈ [t] := hsplit ▸ List.mem_append_right front List.mem_cons_self
  rw [← List.mem_singleton.mp hmem]

/-- An else mark inside of a block is not outside of it. -/
theorem not_hasElse_block {opener closer : Token} {inner : List Token} (ho : opener.piece.rise = 1)
    (hinner : Level inner) : ¬ HasElse (opener :: (inner ++ [closer])) := by
  rintro ⟨front, p, back, hsplit, hrise⟩
  cases front with
  | nil =>
    obtain ⟨rfl, -⟩ := List.cons.inj hsplit
    cases ho
  | cons t front =>
    obtain ⟨rfl, hrest⟩ := List.cons.inj hsplit
    rw [rise_cons, ho] at hrise
    have hfront : front <+: inner ++ [closer] := ⟨_, hrest.symm⟩
    rcases List.prefix_concat_iff.mp hfront with rfl | hfront
    · exact List.cons_ne_nil _ _ (List.self_eq_append_right.mp hrest)
    · have := hinner.covered front hfront
      omega

/-! ## The innermost block -/

/-- The innermost block that is open behind some tokens has this opening tag, and these tokens have been
read of it. -/
structure Innermost (before : List Token) (opener : Token) (inner : List Token) : Prop where
  opens : opener.Opens
  behind : opener :: inner <:+ before
  level : Level inner

/-- There is one innermost block. -/
theorem Innermost.unique {before inner inner' : List Token} {opener opener' : Token}
    (h : Innermost before opener inner) (h' : Innermost before opener' inner') :
    opener = opener' ∧ inner = inner' := by
  rcases List.suffix_or_suffix_of_suffix h.behind h'.behind with hsuffix | hsuffix
  · rcases List.suffix_cons_iff.mp hsuffix with heq | hin
    · exact List.cons.inj heq
    · exact absurd hin (h'.level.not_suffix h.opens h.level)
  · rcases List.suffix_cons_iff.mp hsuffix with heq | hin
    · obtain ⟨rfl, rfl⟩ := List.cons.inj heq
      exact ⟨rfl, rfl⟩
    · exact absurd hin (h.level.not_suffix h'.opens h'.level)

/-- Behind these tokens the innermost open block waits for the close tag. -/
def AwaitsClose (before : List Token) (closer : Tag) : Prop :=
  ∃ opener inner, Innermost before opener inner ∧ opener.piece.closer? = some closer

/-- Behind these tokens the innermost open block is a conditional that has had no else mark. -/
def AwaitsElse (before : List Token) : Prop :=
  ∃ opener inner, Innermost before opener inner ∧ opener.piece.closer? = some .ifClose ∧ ¬ HasElse inner

/-- A piece may stand behind some tokens: it is no close tag without a block that waits for it, and no else
mark without a conditional that may have one. -/
def HasPlace (before : List Token) : Piece → Prop
  | .tag .ifClose => AwaitsClose before .ifClose
  | .tag .eachClose => AwaitsClose before .eachClose
  | .tag .elseMark => AwaitsElse before
  | .tag (.variable _) | .tag (.ifOpen ..) | .tag (.eachOpen ..) | .text _ => True

/-- An opening tag may stand anywhere. -/
theorem Token.Opens.hasPlace {t : Token} (h : t.Opens) (before : List Token) :
    HasPlace before t.piece := by
  obtain ⟨gap, name, hpiece | hpiece⟩ := h.exists_tag
  · rw [hpiece]
    trivial
  · rw [hpiece]
    trivial

/-- No tag among the tokens is misplaced. -/
def Orderly (tokens : List Token) : Prop :=
  ∀ front t, front ++ [t] <+: tokens → HasPlace front t.piece

/-! ## What a parser holds -/

/-- The tokens that have been read of an open block, and the part that they have led to. -/
structure OpenBlock.Holds (b : OpenBlock) (inner : List Token) : Prop where
  level : Level inner
  closer : b.opener.piece.closer? = some b.part.closer
  part : b.part = .thenPart ↔ b.part.closer = .ifClose ∧ ¬ HasElse inner

/-- The blocks that are open behind some tokens. -/
inductive Standing : List OpenBlock → List Token → Prop
  | outermost {tokens : List Token} : Level tokens → Standing [] tokens
  | inside {b : OpenBlock} {outer : List OpenBlock} {before inner : List Token} :
      Standing outer before → b.Holds inner → Standing (b :: outer) (before ++ b.opener :: inner)

theorem OpenBlock.Holds.opens {b : OpenBlock} {inner : List Token} (h : b.Holds inner) :
    b.opener.Opens := by
  rw [Token.Opens, h.closer]
  rfl

/-- The tag that closes a block makes one block less. -/
theorem Part.rise_closer (part : Part) : (Piece.tag part.closer).rise = -1 := by
  cases part <;> rfl

namespace Standing

variable {b : OpenBlock} {blocks outer : List OpenBlock} {tokens : List Token}

/-- Whole blocks, and tokens outside of blocks but for else marks, change nothing. -/
theorem extend {more : List Token} (h : Standing blocks tokens) (hlevel : Level more)
    (hno : ¬ HasElse more) : Standing blocks (tokens ++ more) := by
  cases h with
  | outermost htokens => exact .outermost (htokens.append hlevel)
  | @inside b outer before inner houter hholds =>
    rw [List.append_assoc, List.cons_append]
    refine .inside houter ⟨hholds.level.append hlevel, hholds.closer, ?_⟩
    rw [hholds.part, hasElse_append hholds.level.settled, or_iff_left hno]

/-- A block that was just opened. -/
theorem opened (h : Standing blocks tokens) (hb : b.Holds []) :
    Standing (b :: blocks) (tokens ++ [b.opener]) := .inside h hb

/-- A block that closes is a whole block of the part around it. -/
theorem closed {t : Token} (h : Standing (b :: outer) tokens) (ht : t.piece = .tag b.part.closer) :
    Standing outer (tokens ++ [t]) := by
  cases h with
  | @inside _ _ before inner houter hholds =>
    have hrise : t.piece.rise = -1 := ht ▸ b.part.rise_closer
    rw [List.append_assoc, List.cons_append]
    exact houter.extend (.block hholds.opens.rise_eq hholds.level hrise)
      (not_hasElse_block hholds.opens.rise_eq hholds.level)

/-- An else mark is the one that a conditional may have. -/
theorem turned {t : Token} {thenNodes : List Node} (h : Standing (b :: outer) tokens)
    (hpart : b.part = .thenPart) (ht : t.piece = .tag .elseMark) :
    Standing ({ b with part := .elsePart thenNodes } :: outer) (tokens ++ [t]) := by
  cases h with
  | @inside _ _ before inner houter hholds =>
    obtain ⟨piece, position⟩ := t
    obtain rfl : piece = .tag .elseMark := ht
    have hcloser := hholds.closer
    rw [hpart] at hcloser
    rw [List.append_assoc, List.cons_append]
    refine .inside (b := { b with part := .elsePart thenNodes }) houter
      ⟨hholds.level.append (.singleton rfl), hcloser, ?_⟩
    refine iff_of_false nofun fun h => h.2 ?_
    exact ⟨inner, position, [], rfl, hholds.level.settled⟩

/-- As many blocks are open as the count says. -/
theorem rise_eq (h : Standing blocks tokens) : rise tokens = blocks.length := by
  induction h with
  | outermost htokens => exact htokens.settled
  | inside _ hholds ih =>
    rw [rise_append, rise_cons, ih, hholds.opens.rise_eq, hholds.level.settled, List.length_cons]
    omega

/-- The innermost block is the one that is held as such. -/
theorem innermost (h : Standing (b :: outer) tokens) :
    ∃ inner, b.Holds inner ∧ Innermost tokens b.opener inner := by
  cases h with
  | @inside _ _ before inner houter hholds =>
    exact ⟨inner, hholds, hholds.opens, List.suffix_append _ _, hholds.level⟩

/-- A property of the innermost block is one of the block that is held as such. -/
theorem exists_innermost_iff {P : Token → List Token → Prop} {Q : OpenBlock → Prop}
    (h : Standing blocks tokens) (hQ : ∀ b inner, b.Holds inner → (P b.opener inner ↔ Q b)) :
    (∃ opener inner, Innermost tokens opener inner ∧ P opener inner) ↔ ∃ b ∈ blocks.head?, Q b := by
  cases blocks with
  | nil =>
    refine iff_of_false ?_ (by simp)
    rintro ⟨opener, inner, hin, -⟩
    cases h with
    | outermost htokens => exact htokens.not_suffix hin.opens hin.level hin.behind
  | cons b outer =>
    obtain ⟨inner, hholds, hin⟩ := h.innermost
    have hhead : (∃ c ∈ (b :: outer).head?, Q c) ↔ Q b := by simp
    rw [hhead, ← hQ b inner hholds]
    constructor
    · rintro ⟨opener, other, hother, hP⟩
      obtain ⟨rfl, rfl⟩ := hin.unique hother
      exact hP
    · exact fun hP => ⟨b.opener, inner, hin, hP⟩

end Standing

/-! ## What a parser lets pass -/

/-- A piece is let pass where these blocks are open. -/
def Takes (blocks : List OpenBlock) : Piece → Prop
  | .tag .ifClose => ∃ b ∈ blocks.head?, b.part.closer = .ifClose
  | .tag .eachClose => ∃ b ∈ blocks.head?, b.part.closer = .eachClose
  | .tag .elseMark => ∃ b ∈ blocks.head?, b.part = .thenPart
  | .tag (.variable _) | .tag (.ifOpen ..) | .tag (.eachOpen ..) | .text _ => True

/-- **What is let pass has a place.** -/
theorem Standing.hasPlace_iff {blocks : List OpenBlock} {tokens : List Token}
    (h : Standing blocks tokens) (piece : Piece) : HasPlace tokens piece ↔ Takes blocks piece := by
  have hclose (closer : Tag) :
      AwaitsClose tokens closer ↔ ∃ b ∈ blocks.head?, b.part.closer = closer := by
    refine h.exists_innermost_iff fun b inner hholds => ?_
    rw [hholds.closer, Option.some.injEq]
  have helse : AwaitsElse tokens ↔ ∃ b ∈ blocks.head?, b.part = .thenPart := by
    refine h.exists_innermost_iff fun b inner hholds => ?_
    rw [hholds.closer, Option.some.injEq, hholds.part]
  cases piece with
  | text content => exact Iff.rfl
  | tag tag =>
    cases tag with
    | ifClose => exact hclose .ifClose
    | eachClose => exact hclose .eachClose
    | elseMark => exact helse
    | «variable» name => exact Iff.rfl
    | ifOpen gap name => exact Iff.rfl
    | eachOpen gap name => exact Iff.rfl

/-! ## One token -/

/-- The ways in which a token is read, each with its answer. -/
inductive Unfinished.Reads (limit : Int) (u : Unfinished) (t : Token) :
    Except SyntaxError Unfinished → Prop
  /-- A text or a variable is a node. -/
  | leaf {node : Node} : Takes u.blocks t.piece → t.piece.rise = 0 → t.piece ≠ .tag .elseMark →
      Reads limit u t (.ok (u.push node))
  /-- A block opens in its first part. -/
  | opened {name : Text} {part : Part} : Takes u.blocks t.piece →
      t.piece.closer? = some part.closer → (part = .thenPart ↔ part.closer = .ifClose) →
      u.blocks.length + 1 ≤ limit →
      Reads limit u t (.ok ⟨⟨name, t, part, u.nodes⟩ :: u.blocks, #[]⟩)
  /-- A conditional turns to its else-part. -/
  | turned {b : OpenBlock} {outer : List OpenBlock} : Takes u.blocks t.piece →
      t.piece = .tag .elseMark → u.blocks = b :: outer → b.part = .thenPart →
      Reads limit u t (.ok ⟨{ b with part := .elsePart u.nodes.toList } :: outer, #[]⟩)
  /-- The innermost block is closed. -/
  | closed {b : OpenBlock} {outer : List OpenBlock} {nodes : Array Node} :
      Takes u.blocks t.piece → t.piece = .tag b.part.closer → u.blocks = b :: outer →
      Reads limit u t (.ok ⟨outer, nodes⟩)
  /-- There is no room for another block. -/
  | tooDeep : t.Opens → limit < u.blocks.length + 1 →
      Reads limit u t (.error ⟨.tooDeep limit, t.position⟩)
  /-- The innermost block does not wait for the tag. -/
  | misplaced {misuse : Misuse} : ¬ Takes u.blocks t.piece → misuse.isNesting = false →
      Reads limit u t (.error ⟨misuse, t.position⟩)

namespace Unfinished

variable {limit : Int} {u : Unfinished}

theorem reads_openBlock {name : Text} {part : Part} {t : Token} (htakes : Takes u.blocks t.piece)
    (hcloser : t.piece.closer? = some part.closer)
    (hpart : part = .thenPart ↔ part.closer = .ifClose) :
    u.Reads limit t (u.openBlock limit name part t) := by
  have hopens : t.Opens := by
    rw [Token.Opens, hcloser]
    rfl
  unfold openBlock
  split
  next hroom => exact .tooDeep hopens hroom
  next hroom => exact .opened htakes hcloser hpart (Int.not_lt.mp hroom)

theorem reads_elseMark (p : Position) : u.Reads limit ⟨.tag .elseMark, p⟩ (u.elseMark p) := by
  unfold elseMark
  split
  next hblocks => exact .misplaced (by simp [Takes, hblocks]) rfl
  next b outer hblocks =>
    split
    next hpart => exact .turned (by simp [Takes, hblocks, hpart]) rfl hblocks hpart
    next hpart => exact .misplaced (by simp [Takes, hblocks, hpart]) rfl
    next hpart => exact .misplaced (by simp [Takes, hblocks, hpart]) rfl

theorem reads_closeBlock {closer : Tag} (hcloser : closer = .ifClose ∨ closer = .eachClose)
    (p : Position) : u.Reads limit ⟨.tag closer, p⟩ (u.closeBlock closer p) := by
  have htakes (blocks : List OpenBlock) :
      Takes blocks (.tag closer) ↔ ∃ b ∈ blocks.head?, b.part.closer = closer := by
    rcases hcloser with rfl | rfl <;> exact Iff.rfl
  unfold closeBlock
  split
  next hblocks => exact .misplaced (by simp [htakes, hblocks]) rfl
  next b outer hblocks =>
    split
    next heq => exact .closed (by simp [htakes, hblocks, heq]) (heq ▸ rfl) hblocks
    next hne => exact .misplaced (by simpa [htakes, hblocks] using hne) rfl

/-- **A token is read in one of these ways.** -/
theorem reads_read (limit : Int) (u : Unfinished) (t : Token) : u.Reads limit t (u.read limit t) := by
  obtain ⟨piece, position⟩ := t
  cases piece with
  | text content => exact .leaf trivial rfl nofun
  | tag tag =>
    cases tag with
    | «variable» name => exact .leaf trivial rfl nofun
    | ifOpen gap name => exact reads_openBlock trivial rfl (iff_of_true rfl rfl)
    | eachOpen gap name => exact reads_openBlock trivial rfl (iff_of_false nofun nofun)
    | elseMark => exact reads_elseMark position
    | ifClose => exact reads_closeBlock (.inl rfl) position
    | eachClose => exact reads_closeBlock (.inr rfl) position

end Unfinished

namespace Standing

variable {limit : Int} {u v : Unfinished} {t : Token} {tokens : List Token}

/-- **Reading a token keeps the blocks right.** -/
theorem read (h : Standing u.blocks tokens) (hread : u.read limit t = .ok v) :
    Standing v.blocks (tokens ++ [t]) := by
  have hreads := u.reads_read limit t
  rw [hread] at hreads
  cases hreads with
  | leaf _ hrise hno => exact h.extend (.singleton hrise) (not_hasElse_singleton hno)
  | opened _ hcloser hpart _ =>
    exact h.opened ⟨.nil, hcloser, hpart.trans (and_iff_left not_hasElse_nil).symm⟩
  | turned _ ht hblocks hpart => exact (hblocks ▸ h).turned hpart ht
  | closed _ ht hblocks => exact (hblocks ▸ h).closed ht

/-- **Reading tokens keeps the blocks right.** -/
theorem foldlM {more : List Token} (h : Standing u.blocks tokens)
    (hread : more.foldlM (Unfinished.read limit) u = .ok v) : Standing v.blocks (tokens ++ more) := by
  induction more generalizing u tokens with
  | nil =>
    cases hread
    simpa using h
  | cons t more ih =>
    rw [List.foldlM_cons] at hread
    obtain ⟨w, hstep, hrest⟩ := bind_eq_ok_iff.mp hread
    simpa using ih (h.read hstep) hrest

/-- Where tokens have been read from the beginning, the blocks are right. -/
theorem of_foldlM (hread : tokens.foldlM (Unfinished.read limit) .empty = .ok u) :
    Standing u.blocks tokens := by
  have hempty : Standing Unfinished.empty.blocks [] := .outermost .nil
  exact hempty.foldlM hread

/-- A token that is read has a place, and if it opens a block there is room for it. -/
theorem of_read_ok (h : Standing u.blocks tokens) (hread : u.read limit t = .ok v) :
    HasPlace tokens t.piece ∧ (t.Opens → rise tokens < limit) := by
  have hreads := u.reads_read limit t
  rw [hread] at hreads
  rw [h.hasPlace_iff, h.rise_eq]
  cases hreads with
  | leaf htakes hrise _ => exact ⟨htakes, fun ho => absurd ho (Token.not_opens_of_rise hrise.le)⟩
  | opened htakes _ _ hroom => exact ⟨htakes, fun _ => hroom⟩
  | turned htakes ht _ _ =>
    refine ⟨htakes, fun ho => absurd ho (Token.not_opens_of_rise ?_)⟩
    rw [ht]
    decide
  | @closed b _ _ htakes ht _ =>
    refine ⟨htakes, fun ho => absurd ho (Token.not_opens_of_rise ?_)⟩
    rw [ht, b.part.rise_closer]
    decide

/-- A token that is refused is complained of where it stands. Either it opens a block for which there is no
room, and nothing else is complained of, or it has no place. -/
theorem of_read_error {e : SyntaxError} (h : Standing u.blocks tokens)
    (hread : u.read limit t = .error e) :
    e.position = t.position ∧
      ((e.misuse.isNesting = true ∧ t.Opens ∧ limit ≤ rise tokens) ∨
        (e.misuse.isNesting = false ∧ ¬ HasPlace tokens t.piece)) := by
  have hreads := u.reads_read limit t
  rw [hread] at hreads
  rw [h.hasPlace_iff, h.rise_eq]
  cases hreads with
  | tooDeep hopens hroom => exact ⟨rfl, .inl ⟨rfl, hopens, Int.lt_add_one_iff.mp hroom⟩⟩
  | misplaced htakes hkind => exact ⟨rfl, .inr ⟨hkind, htakes⟩⟩

end Standing

end Stencil.Template
