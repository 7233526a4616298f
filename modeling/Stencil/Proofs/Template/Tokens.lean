import Mathlib.Data.List.Pairwise
import Stencil.Proofs.Template.Cutting

/-!
# The tags of a source

The tokens of a source make it up, each at the offset that the characters before it give. Wherever a
stretch of the source spells a tag of the grammar there is a token for that tag, and no other stretch is
a tag's token (`tokenize_exact`). So no text hides a tag, and tags do not overlap.

Tokens are found by reading on from the end of the one before, so this is a statement about all the
places at which reading never began. It comes down to where a tag can begin: between two pieces, because
inside of a text it would be a tag that the text holds, and inside of another tag there are no opening
braces (`Piece.Separated.exists_tag`).
-/

namespace Stencil.Template

/-! ## Places of tokens -/

/-- The place behind two texts is found by going through one after the other. -/
theorem Position.advance_append (p : Position) (s s' : Text) :
    p.advance (s ++ s') = (p.advance s).advance s' := List.foldl_append

/-- Every character counts once in an offset. -/
theorem Position.offset_advance (p : Position) (s : Text) :
    (p.advance s).offset = p.offset + s.length := by
  induction s generalizing p with
  | nil => rfl
  | cons c s ih =>
    have hnext : (p.next c).offset = p.offset + 1 := by
      unfold next
      split <;> rfl
    have hstep : p.advance (c :: s) = (p.next c).advance s := rfl
    rw [hstep, ih, hnext, List.length_cons]
    omega

/-- Pieces are given their places one by one. -/
theorem map_piece_locate (p : Position) (pieces : List Piece) :
    (Token.locate p pieces).map Token.piece = pieces := by
  induction pieces generalizing p with
  | nil => rfl
  | cons piece pieces ih =>
    rw [Token.locate, List.map_cons, ih]

namespace Token

/-- A piece stands behind the text of the pieces in front of it. -/
theorem mem_locate (p : Position) (front back : List Piece) (piece : Piece) :
    ⟨piece, p.advance (front.flatMap Piece.raw)⟩ ∈ locate p (front ++ piece :: back) := by
  induction front generalizing p with
  | nil => exact List.mem_cons_self
  | cons q front ih =>
    rw [List.flatMap_cons, Position.advance_append]
    exact List.mem_cons_of_mem _ (ih _)

/-- The characters of tokens are those of their pieces. -/
theorem flatMap_raw (tokens : List Token) :
    tokens.flatMap raw = (tokens.map piece).flatMap Piece.raw := by
  rw [List.flatMap_map]
  rfl

/-- A token stands behind the text of the tokens before it. -/
theorem position_of_locate {p : Position} {pieces : List Piece} {front back : List Token} {t : Token}
    (h : locate p pieces = front ++ t :: back) : t.position = p.advance (front.flatMap raw) := by
  induction pieces generalizing p front with
  | nil => simp [locate] at h
  | cons piece pieces ih =>
    cases front with
    | nil =>
      obtain ⟨rfl, -⟩ := List.cons.inj h
      rfl
    | cons u front =>
      obtain ⟨rfl, hrest⟩ := List.cons.inj h
      rw [ih hrest, List.flatMap_cons, Position.advance_append]
      rfl

/-- The offset of a token counts the characters of the tokens before it. -/
theorem offset_of_locate {p : Position} {pieces : List Piece} {front back : List Token} {t : Token}
    (h : locate p pieces = front ++ t :: back) :
    t.position.offset = p.offset + (front.flatMap raw).length := by
  rw [position_of_locate h, Position.offset_advance]

/-- Of two tokens, the one that begins first ends before the other begins. -/
theorem end_le_of_locate {p : Position} {pieces : List Piece} {t u : Token}
    (ht : t ∈ locate p pieces) (hu : u ∈ locate p pieces)
    (h : t.position.offset < u.position.offset) :
    t.position.offset + t.raw.length ≤ u.position.offset := by
  obtain ⟨front, back, hsplit⟩ := List.append_of_mem ht
  have htoffset := offset_of_locate hsplit
  rw [hsplit] at hu
  rcases List.mem_append.mp hu with hfront | hback
  · -- A token in front of `t` does not begin behind it.
    obtain ⟨before, between, rfl⟩ := List.append_of_mem hfront
    rw [List.append_assoc, List.cons_append] at hsplit
    have huoffset := offset_of_locate hsplit
    simp only [List.flatMap_append, List.length_append] at htoffset
    omega
  · rcases List.mem_cons.mp hback with rfl | hback
    · exact absurd h (Nat.lt_irrefl _)
    · obtain ⟨between, after, rfl⟩ := List.append_of_mem hback
      have hlater : locate p pieces = (front ++ t :: between) ++ u :: after := by
        simpa using hsplit
      have huoffset := offset_of_locate hlater
      simp only [List.flatMap_append, List.flatMap_cons, List.length_append] at huoffset
      omega

end Token

/-! ## Cutting at a seam -/

namespace Piece

/-- A seam of the text that pieces make up lies between two pieces or inside one. -/
theorem exists_seam {pieces : List Piece} {front back : Text}
    (h : pieces.flatMap raw = front ++ back) :
    (∃ ps qs, pieces = ps ++ qs ∧ ps.flatMap raw = front ∧ qs.flatMap raw = back) ∨
      ∃ ps piece qs x y, pieces = ps ++ piece :: qs ∧ x ≠ [] ∧ y ≠ [] ∧ piece.raw = x ++ y ∧
        ps.flatMap raw ++ x = front ∧ y ++ qs.flatMap raw = back := by
  induction pieces generalizing front with
  | nil =>
    obtain ⟨rfl, rfl⟩ := List.append_eq_nil_iff.mp h.symm
    exact .inl ⟨[], [], rfl, rfl, rfl⟩
  | cons piece pieces ih =>
    rw [List.flatMap_cons] at h
    rcases List.append_eq_append_iff.mp h with ⟨rest, rfl, hrest⟩ | ⟨y, hraw, rfl⟩
    · rcases ih hrest with ⟨ps, qs, rfl, rfl, hback⟩ | ⟨ps, p, qs, x, y, rfl, hx, hy, hp, rfl, hback⟩
      · exact .inl ⟨piece :: ps, qs, rfl, rfl, hback⟩
      · exact .inr ⟨piece :: ps, p, qs, x, y, rfl, hx, hy, hp, by simp, hback⟩
    · by_cases hfront : front = []
      · subst hfront
        rw [List.nil_append] at hraw
        exact .inl ⟨[], piece :: pieces, rfl, rfl, by rw [List.flatMap_cons, hraw]⟩
      · by_cases hy : y = []
        · subst hy
          rw [List.append_nil] at hraw
          exact .inl ⟨[piece], pieces, rfl, by simp [hraw], rfl⟩
        · exact .inr ⟨[], piece, pieces, front, y, rfl, hfront, hy, hraw, rfl, rfl⟩

namespace Separated

/-- Separated pieces are separated on both sides of a seam between two of them. -/
theorem of_append {ps qs : List Piece} (h : Separated (ps ++ qs)) : Separated ps ∧ Separated qs := by
  induction ps with
  | nil => exact ⟨.nil, h⟩
  | cons p ps ih =>
    cases h with
    | tag ht hrest => exact ⟨.tag ht (ih hrest).1, (ih hrest).2⟩
    | text hcontent hno hnext hrest =>
      refine ⟨.text hcontent hno ?_ (ih hrest).1, (ih hrest).2⟩
      cases ps with
      | nil => simp
      | cons q ps => exact hnext

/-- Separated pieces are separated on both sides of a seam inside a text. -/
theorem of_cut {ps qs : List Piece} {x y : Text} (h : Separated (ps ++ .text (x ++ y) :: qs))
    (hx : x ≠ []) (hy : y ≠ []) : Separated (ps ++ [.text x]) ∧ Separated (.text y :: qs) := by
  induction ps with
  | nil =>
    cases h with
    | text _ hno hnext hrest =>
      have hpart {s : Text} (hs : s <:+: x ++ y) : ¬ HoldsTag s := fun ⟨t, ht, hin⟩ =>
        hno ⟨t, ht, hin.trans hs⟩
      exact ⟨.text hx (hpart (List.prefix_append x y).isInfix) (by simp) .nil,
        .text hy (hpart (List.suffix_append x y).isInfix) hnext hrest⟩
  | cons p ps ih =>
    cases h with
    | tag ht hrest => exact ⟨.tag ht (ih hrest).1, (ih hrest).2⟩
    | text hcontent hno hnext hrest =>
      refine ⟨.text hcontent hno ?_ (ih hrest).1, (ih hrest).2⟩
      cases ps with
      | nil => exact absurd (hnext _ rfl) (by simp [isText])
      | cons q ps => exact hnext

end Separated

end Piece

/-! ## Where a tag begins -/

/-- No tag begins inside of another: behind its first character there are not two opening braces. -/
theorem Tag.not_spelling_inside {tag other : Tag} {x y rest after : Text} (htag : tag.Proper)
    (hother : other.Proper) (hx : x ≠ []) (hy : y ≠ []) (h : tag.spelling = x ++ y) :
    y ++ rest ≠ other.spelling ++ after := by
  intro hbegins
  obtain ⟨c, body, hspell, hbody⟩ := exists_spelling_eq htag
  obtain ⟨d, body', hspell', -⟩ := exists_spelling_eq hother
  obtain ⟨b, y, rfl⟩ := List.exists_cons_of_ne_nil hy
  rw [hspell', List.cons_append, List.cons_append] at hbegins
  obtain ⟨rfl, hsecond⟩ := List.cons.inj hbegins
  rw [hspell] at h
  obtain ⟨a, x, rfl⟩ := List.exists_cons_of_ne_nil hx
  have hinside : '{' :: c :: body = x ++ '{' :: y := (List.cons.inj h).2
  cases x with
  | nil =>
    -- It would begin at the second brace, and have `c` for its own second one.
    rw [← (List.cons.inj hinside).2, List.cons_append] at hsecond
    exact hbody (List.mem_cons.mpr (.inl (List.cons.inj hsecond).1.symm))
  | cons a x =>
    have hmem : '{' ∈ c :: body := by
      rw [(List.cons.inj hinside).2]
      exact List.mem_append_right x List.mem_cons_self
    exact hbody hmem

/-- **A tag that a stretch of separated pieces spells is one of the pieces.** -/
theorem Piece.Separated.exists_tag {pieces : List Piece} (h : Separated pieces) {tag : Tag}
    (htag : tag.Proper) {before after : Text}
    (hspelled : pieces.flatMap raw = before ++ (tag.spelling ++ after)) :
    ∃ front back, pieces = front ++ .tag tag :: back ∧ front.flatMap raw = before := by
  rcases exists_seam hspelled with
    ⟨ps, qs, rfl, hps, hqs⟩ | ⟨ps, piece, qs, x, y, rfl, hx, hy, hraw, -, hback⟩
  · -- It begins between two pieces, and there the tag is read.
    have hcut : ofSource (qs.flatMap raw) = .tag tag :: ofSource after := by
      rw [hqs]
      exact ofSource_of_scan (Tag.scan_append htag after)
    rw [ofSource_flatMap_raw h.of_append.2] at hcut
    exact ⟨ps, ofSource after, by rw [hcut], hps⟩
  · exfalso
    cases piece with
    | tag other =>
      have hproper : other.Proper := (separated_append_tag.mp h).2.1
      exact Tag.not_spelling_inside hproper htag hx hy hraw hback
    | text content =>
      obtain rfl : content = x ++ y := hraw
      cases (h.of_cut hx hy).2 with
      | text _ hno hnext hrest =>
        have hscan := scan_text_append hy hno hnext hrest
        rw [hback, Tag.scan_append htag after] at hscan
        cases hscan

/-! ## Tokens of a source -/

/-- A tag of the grammar is what the characters of a source spell from the place `i` up to the place
`j`. -/
def Tag.Spans (tag : Tag) (source : Text) (i j : Nat) : Prop :=
  tag.Proper ∧ (source.take j).drop i = tag.spelling

/-- A stretch that a tag spans begins inside of the source, and the rest of the source is around it. -/
theorem Tag.Spans.source_eq {tag : Tag} {source : Text} {i j : Nat} (h : tag.Spans source i j) :
    i ≤ source.length ∧ source = source.take i ++ (tag.spelling ++ source.drop j) := by
  have hlength : 0 < ((source.take j).drop i).length := by
    rw [h.2]
    exact List.length_pos_iff.mpr (spelling_ne_nil tag)
  rw [List.length_drop, List.length_take] at hlength
  have hbefore : (source.take j).take i = source.take i := by
    rw [List.take_take, Nat.min_eq_left (by omega)]
  refine ⟨by omega, ?_⟩
  calc source = source.take j ++ source.drop j := (List.take_append_drop j source).symm
    _ = ((source.take j).take i ++ (source.take j).drop i) ++ source.drop j := by
      rw [List.take_append_drop i]
    _ = source.take i ++ (tag.spelling ++ source.drop j) := by
      rw [hbefore, h.2, List.append_assoc]

/-- A piece of a source is that of a token. -/
theorem mem_tokenize_of_split {source : Text} {front back : List Piece} {piece : Piece}
    (h : Piece.ofSource source = front ++ piece :: back) :
    ⟨piece, Position.start.advance (front.flatMap Piece.raw)⟩ ∈ tokenize source := by
  rw [tokenize, h]
  exact Token.mem_locate .start front back piece

/-- Where the tokens of a source are split, so are its pieces. -/
theorem ofSource_of_split {source : Text} {front back : List Token} {t : Token}
    (h : tokenize source = front ++ t :: back) :
    Piece.ofSource source = front.map Token.piece ++ t.piece :: back.map Token.piece := by
  rw [← map_piece_locate .start (Piece.ofSource source), ← tokenize, h, List.map_append,
    List.map_cons]

/-- The tag of a token is one of the grammar. -/
theorem proper_of_mem_tokenize {source : Text} {t : Token} {tag : Tag} (ht : t ∈ tokenize source)
    (htag : t.piece = .tag tag) : tag.Proper := by
  obtain ⟨front, back, hsplit⟩ := List.append_of_mem ht
  have hsep := Piece.separated_ofSource source
  rw [ofSource_of_split hsplit, htag] at hsep
  exact (Piece.separated_append_tag.mp hsep).2.1

/-- **A stretch of a source spells a tag exactly where a token is that tag.** -/
theorem spans_iff_exists_token {source : Text} {i j : Nat} {tag : Tag} :
    tag.Spans source i j ↔ ∃ t ∈ tokenize source, t.piece = .tag tag ∧ t.position.offset = i ∧
      t.raw = (source.take j).drop i := by
  constructor
  · intro h
    obtain ⟨hplace, hsource⟩ := h.source_eq
    have hraw := Piece.flatMap_raw_ofSource source
    nth_rewrite 2 [hsource] at hraw
    obtain ⟨front, back, hpieces, hfront⟩ := (Piece.separated_ofSource source).exists_tag h.1 hraw
    refine ⟨_, mem_tokenize_of_split hpieces, rfl, ?_, h.2.symm⟩
    rw [hfront, Position.offset_advance, List.length_take, Nat.min_eq_left hplace]
    exact Nat.zero_add i
  · rintro ⟨t, ht, htag, -, hraw⟩
    refine ⟨proper_of_mem_tokenize ht htag, ?_⟩
    rw [← hraw, Token.raw, htag]
    rfl

/-- **Tokens make up their source, and are its tags and the texts between them.** Each token stands behind
the tokens before it. A text is not empty, holds no tag and has no text behind it. A stretch of the
source spells a tag exactly where a token of that offset and these characters is that tag, and a tag ends
before the next one begins. -/
theorem tokenize_exact (source : Text) :
    (tokenize source).flatMap Token.raw = source ∧
      (∀ front t back, tokenize source = front ++ t :: back →
        t.position.offset = (front.flatMap Token.raw).length ∧
          (t.piece.isText = true → t.raw ≠ [] ∧ ¬ HoldsTag t.raw ∧
            ∀ u ∈ back.head?, u.piece.isText = false)) ∧
      (∀ i j (tag : Tag), tag.Spans source i j ↔
        ∃ t ∈ tokenize source, t.piece = .tag tag ∧ t.position.offset = i ∧
          t.raw = (source.take j).drop i) ∧
      ∀ i j k l (tag other : Tag), tag.Spans source i j → other.Spans source k l → i < k →
        i + tag.spelling.length ≤ k := by
  refine ⟨?_, fun front t back hsplit => ⟨?_, fun htext => ?_⟩,
    fun i j tag => spans_iff_exists_token, ?_⟩
  · rw [Token.flatMap_raw, tokenize, map_piece_locate, Piece.flatMap_raw_ofSource]
  · rw [Token.offset_of_locate hsplit]
    exact Nat.zero_add _
  · have hsep := Piece.separated_ofSource source
    rw [ofSource_of_split hsplit] at hsep
    obtain ⟨piece, position⟩ := t
    cases piece with
    | tag tag => cases htext
    | text content =>
      cases hsep.of_append.2 with
      | text hcontent hno hnext hrest =>
        refine ⟨hcontent, hno, fun u hu => hnext u.piece ?_⟩
        rw [List.head?_map, Option.mem_def.mp hu]
        rfl
  · intro i j k l tag other htag hother hlt
    obtain ⟨t, ht, hpiece, rfl, -⟩ := spans_iff_exists_token.mp htag
    obtain ⟨u, hu, -, rfl, -⟩ := spans_iff_exists_token.mp hother
    have hend := Token.end_le_of_locate ht hu hlt
    rwa [Token.raw, hpiece] at hend

/-- Of the braces that stand around a tag, three on each side, the inner two on each side are its own. -/
theorem tokenize_exact_braces :
    (Tag.variable ['a']).Spans ['{', '{', '{', 'a', '}', '}', '}'] 1 6 ∧
      ∃ t ∈ tokenize ['{', '{', '{', 'a', '}', '}', '}'], t.piece = .tag (.variable ['a']) ∧
        t.position.offset = 1 ∧ t.raw = ['{', '{', 'a', '}', '}'] := by
  have hspans : (Tag.variable ['a']).Spans ['{', '{', '{', 'a', '}', '}', '}'] 1 6 :=
    ⟨⟨by decide, List.forall_mem_singleton.mpr (by decide)⟩, rfl⟩
  obtain ⟨-, -, htags, -⟩ := tokenize_exact ['{', '{', '{', 'a', '}', '}', '}']
  exact ⟨hspans, (htags 1 6 _).mp hspans⟩

end Stencil.Template
