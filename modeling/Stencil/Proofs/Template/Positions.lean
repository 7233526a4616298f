import Stencil.Proofs.Template.Tokens

/-!
# Lines and columns

The place of a token is the place of its first character in the source, and its line and column are what
a reader would count there (`position_exact`): the line feeds before it, and the characters since the last
of them. Nothing but a line feed ends a line. Where in a piece it stands makes no difference, so a line
may end inside of a tag, in the gap of an opener.

Places are carried along one character at a time. `Position.Fits` is what they keep: a character of the
source is passed with its line and column right (`Position.Fits.next`), hence any text (`Position.Fits.advance`),
hence the tokens in front of any token.
-/

namespace Stencil.Template

/-! ## What a place says -/

/-- The line that holds the place `o` of a source begins at `k`: at the head of the source or behind a
line feed, with no line feed from there up to `o`. -/
structure LineBegins (source : Text) (o k : Nat) : Prop where
  le : k ≤ o
  behind : k = 0 ∨ source[k - 1]? = some '\n'
  unbroken : ∀ i, k ≤ i → i < o → source[i]? ≠ some '\n'

/-- A line and a column are those of their offset in a source: the line feeds before it are counted from
one, and so are the characters between it and the beginning of its line. -/
structure Position.Fits (p : Position) (source : Text) : Prop where
  line : p.line = 1 + (source.take p.offset).count '\n'
  column : ∃ k, LineBegins source p.offset k ∧ p.column = p.offset - k + 1

namespace Position.Fits

variable {p : Position} {source : Text}

theorem start (source : Text) : Position.start.Fits source where
  line := rfl
  column := ⟨0, ⟨Nat.le_refl 0, .inl rfl, fun _ _ hi => absurd hi (Nat.not_lt_zero _)⟩, rfl⟩

/-- **The place behind a character is right** when the place before it is. -/
theorem next {c : Char} (h : p.Fits source) (hc : source[p.offset]? = some c) :
    (p.next c).Fits source := by
  obtain ⟨k, hk, hcolumn⟩ := h.column
  have htake : source.take (p.offset + 1) = source.take p.offset ++ [c] := by
    rw [List.take_add_one, hc, Option.toList_some]
  by_cases hfeed : c = '\n'
  · subst hfeed
    have hnext : p.next '\n' = ⟨p.offset + 1, p.line + 1, 1⟩ := rfl
    rw [hnext]
    refine ⟨?_, p.offset + 1, ⟨Nat.le_refl _, .inr hc, ?_⟩, ?_⟩
    · show p.line + 1 = 1 + (source.take (p.offset + 1)).count '\n'
      rw [htake, List.count_append, h.line, List.count_singleton_self, Nat.add_assoc]
    · intro i hi hlt
      exact absurd hlt (Nat.not_lt.mpr hi)
    · show 1 = p.offset + 1 - (p.offset + 1) + 1
      rw [Nat.sub_self]
  · have hnext : p.next c = ⟨p.offset + 1, p.line, p.column + 1⟩ := if_neg hfeed
    rw [hnext]
    refine ⟨?_, k, ⟨Nat.le_succ_of_le hk.le, hk.behind, ?_⟩, ?_⟩
    · show p.line = 1 + (source.take (p.offset + 1)).count '\n'
      have hnone : [c].count '\n' = 0 := List.count_eq_zero.mpr (by simpa using Ne.symm hfeed)
      rw [htake, List.count_append, hnone, Nat.add_zero, h.line]
    · intro i hi hlt
      rcases Nat.lt_succ_iff_lt_or_eq.mp hlt with hlt | rfl
      · exact hk.unbroken i hi hlt
      · rw [hc]
        exact fun heq => hfeed (Option.some.inj heq)
    · show p.column + 1 = p.offset + 1 - k + 1
      have := hk.le
      omega

/-- **The place behind a text of the source is right** when the place before it is. -/
theorem advance {s rest : Text} (h : p.Fits source) (hs : source.drop p.offset = s ++ rest) :
    (p.advance s).Fits source := by
  induction s generalizing p with
  | nil => exact h
  | cons c s ih =>
    have hc : source[p.offset]? = some c := by
      rw [← List.head?_drop, hs]
      rfl
    have hoffset : (p.next c).offset = p.offset + 1 := offset_advance p [c]
    refine ih (h.next hc) ?_
    rw [hoffset, ← List.tail_drop, hs]
    rfl

end Position.Fits

/-! ## Tokens -/

/-- **Tokens are where they say they are.** At the offset of a token its characters stand in the source;
its line is one more than the line feeds before that offset; and its column is one more than the
characters between the offset and the beginning of its line. -/
theorem position_exact {source : Text} {t : Token} (ht : t ∈ tokenize source) :
    t.raw <+: source.drop t.position.offset ∧
      t.position.line = 1 + (source.take t.position.offset).count '\n' ∧
      ∃ k, LineBegins source t.position.offset k ∧
        t.position.column = t.position.offset - k + 1 := by
  obtain ⟨front, back, hsplit⟩ := List.append_of_mem ht
  have hplace : t.position = Position.start.advance (front.flatMap Token.raw) :=
    Token.position_of_locate hsplit
  have hoffset : t.position.offset = (front.flatMap Token.raw).length := by
    rw [hplace, Position.offset_advance]
    exact Nat.zero_add _
  have hsource : source = front.flatMap Token.raw ++ (t.raw ++ back.flatMap Token.raw) := by
    have hraw := Piece.flatMap_raw_ofSource source
    rw [← map_piece_locate .start (Piece.ofSource source), ← Token.flatMap_raw, ← tokenize, hsplit,
      List.flatMap_append, List.flatMap_cons] at hraw
    exact hraw.symm
  have hfits : t.position.Fits source := by
    rw [hplace]
    exact (Position.Fits.start source).advance hsource
  refine ⟨?_, hfits.line, hfits.column⟩
  rw [hoffset]
  have hdrop : source.drop (front.flatMap Token.raw).length = t.raw ++ back.flatMap Token.raw :=
    hsource ▸ List.drop_left
  rw [hdrop]
  exact List.prefix_append _ _

/-- Behind an opener whose gap is a line feed, a text begins on the second line, behind the name and the
braces. -/
theorem position_exact_behindGap :
    let opener : Tag := .ifOpen ['\n'] ['a']
    let source : Text := opener.spelling ++ ['b']
    let t : Token := ⟨.text ['b'], ⟨9, 2, 4⟩⟩
    t ∈ tokenize source ∧ t.raw <+: source.drop 9 ∧ 2 = 1 + (source.take 9).count '\n' ∧
      ∃ k, LineBegins source 9 k ∧ 4 = 9 - k + 1 := by
  intro opener source t
  have hpieces : Piece.ofSource source = [.tag opener, .text ['b']] := by
    have hscan : Tag.scan source = some (opener, ['b']) := rfl
    rw [Piece.ofSource_of_scan hscan, Piece.ofSource_cons rfl, Piece.ofSource_nil]
    rfl
  have ht : t ∈ tokenize source := by
    rw [tokenize, hpieces]
    exact List.mem_cons_of_mem _ (List.mem_singleton_self t)
  exact ⟨ht, position_exact ht⟩

end Stencil.Template
