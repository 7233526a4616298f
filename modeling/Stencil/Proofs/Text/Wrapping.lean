import Mathlib.Data.List.DropRight
import Mathlib.Data.List.SplitBy
import Stencil.Text.Console

/-!
# What is left of a text that is broken into lines

A console shows a text as it is where it fits (`wrapped_of_fits`). Where it does not, every line is narrow
enough (`narrow_of_mem_wrapped`), and what there is to see of the text stands in the lines in its order
(`filter_wrapped`). That is what is not blank and takes a column, and only blanks are lost besides, and
characters that take none.

The two laws have one reason. Words are put on lines so that what is left of a line without the blanks at its
end fits (`columns_trimmed_of_mem_filled`). So cutting a line off meets nothing but these blanks. It is
done twice, and each time leaves a front of the line that reaches as far as the last column or as the blanks
(`Cut`).
-/

namespace Stencil

/-! ## Columns and blanks -/

theorem columns_le_two (c : Char) : columns c ≤ 2 := by
  unfold columns
  split
  next => exact Nat.zero_le 2
  next => split <;> decide

/-- Whether a character is one of ASCII and not for control. -/
def isPlain (c : Char) : Bool := ' ' ≤ c && c ≤ '~'

/-- A plain character takes one column. -/
theorem columns_of_isPlain {c : Char} (h : isPlain c = true) : columns c = 1 := by
  simp only [isPlain, Bool.and_eq_true, decide_eq_true_eq] at h
  have hlow : 0x20 ≤ c.toNat := h.1
  have hhigh : c.toNat ≤ 0x7e := h.2
  have houtside {ranges : List (Nat × Nat)} (hranges : ∀ r ∈ ranges, r.2 < 0x20 ∨ 0x7e < r.1) :
      inRanges ranges c.toNat = false := by
    rw [inRanges, List.any_eq_false]
    intro r hr
    have := hranges r hr
    simp only [Bool.and_eq_true, decide_eq_true_eq]
    omega
  rw [columns, houtside (by decide +kernel), houtside (by decide +kernel)]
  rfl

/-- Whether there is something to see of a character. -/
def isVisible (c : Char) : Bool := !isBlank c && columns c != 0

namespace Text

variable {s t : Text}

theorem columns_append (s t : Text) : Text.columns (s ++ t) = s.columns + t.columns := by
  induction s with
  | nil => exact (Nat.zero_add _).symm
  | cons c s ih => rw [List.cons_append, Text.columns, Text.columns, ih, Nat.add_assoc]

theorem columns_concat (s : Text) (c : Char) : Text.columns (s ++ [c]) = s.columns + Stencil.columns c :=
  columns_append s [c]

theorem columns_mono (h : s <+: t) : s.columns ≤ t.columns := by
  obtain ⟨rest, rfl⟩ := h
  rw [columns_append]
  exact Nat.le_add_right _ _

theorem columns_of_all_isPlain (h : s.all isPlain = true) : s.columns = s.length := by
  induction s with
  | nil => rfl
  | cons c s ih =>
    rw [List.all_cons, Bool.and_eq_true] at h
    rw [Text.columns, columns_of_isPlain h.1, ih h.2, List.length_cons, Nat.add_comm]

/-- Where there are no columns, there is nothing to see. -/
theorem filter_isVisible_of_columns (h : s.columns = 0) : s.filter isVisible = [] := by
  induction s with
  | nil => rfl
  | cons c s ih =>
    obtain ⟨hc, hs⟩ := Nat.add_eq_zero_iff.mp h
    rw [List.filter_cons_of_neg (by simp [isVisible, hc]), ih hs]

theorem trimmed_isPrefix (s : Text) : s.trimmed <+: s := List.rdropWhile_prefix isBlank s

/-- What is cut off from the end of a text is blank. -/
theorem exists_eq_trimmed_append (s : Text) :
    ∃ blanks, s = s.trimmed ++ blanks ∧ ∀ c ∈ blanks, isBlank c = true :=
  ⟨s.rtakeWhile isBlank, List.rdropWhile_append_rtakeWhile.symm, fun _ => List.mem_rtakeWhile_imp⟩

theorem trimmed_append (s t : Text) :
    Text.trimmed (s ++ t) = if t.trimmed = [] then s.trimmed else s ++ t.trimmed := by
  unfold Text.trimmed
  rw [List.reverse_append, List.dropWhile_append]
  simp only [List.reverse_eq_nil_iff, List.isEmpty_iff]
  split <;> simp

/-- The blanks at the end of what is put behind a text do not count. -/
theorem columns_trimmed_append_le (s t : Text) :
    (Text.trimmed (s ++ t)).columns ≤ s.columns + t.trimmed.columns := by
  rw [trimmed_append]
  split
  next => exact Nat.le_add_right_of_le (columns_mono (trimmed_isPrefix s))
  next => exact (columns_append _ _).le

theorem filter_trimmed (s : Text) : s.trimmed.filter isVisible = s.filter isVisible := by
  obtain ⟨blanks, hsplit, hblank⟩ := exists_eq_trimmed_append s
  have hnone : blanks.filter isVisible = [] := by
    rw [List.filter_eq_nil_iff]
    intro c hc hvisible
    simp [isVisible, hblank c hc] at hvisible
  conv_rhs => rw [hsplit, List.filter_append, hnone, List.append_nil]

/-- A front of a text that is cut off among the blanks at its end shows what the text shows. -/
theorem filter_of_isPrefix (h : s.trimmed <+: t) (hfront : t <+: s) :
    t.filter isVisible = s.filter isVisible := by
  have hback := h.filter isVisible
  rw [filter_trimmed] at hback
  exact (hfront.filter isVisible).eq_of_length_le hback.length_le

/-- Such a front is no wider without the blanks at its own end. -/
theorem columns_trimmed_of_isPrefix (h : s.trimmed <+: t) (hfront : t <+: s) :
    t.trimmed.columns ≤ s.trimmed.columns := by
  obtain ⟨blanks, hsplit, hblank⟩ := exists_eq_trimmed_append s
  obtain ⟨mid, rfl⟩ := h
  have hmid : mid <+: blanks :=
    (List.prefix_append_right_inj s.trimmed).mp (hfront.trans ⟨[], (List.append_nil s).trans hsplit⟩)
  have hnone : Text.trimmed mid = [] :=
    List.rdropWhile_eq_nil_iff.mpr fun c hc => hblank c (hmid.mem hc)
  refine (columns_trimmed_append_le _ mid).trans ?_
  rw [hnone]
  exact Nat.le_refl _

/-- What there is to see of a text stands in its lines. -/
theorem filter_flatten_parts (s : Text) :
    (parts '\n' s).flatten.filter isVisible = s.filter isVisible := by
  rw [flatten_parts, List.filter_filter]
  refine List.filter_congr fun c _ => ?_
  by_cases hc : c = '\n'
  · subst hc
    rfl
  · simp [hc]

end Text

namespace Console

variable {width : Nat} {line s : Text}

/-! ## Words on lines -/

/-- The words of a line are the line. -/
theorem flatten_words (line : Text) : (words line).flatten = line := by
  have hbody := List.flatten_splitBy (fun c d => !isBlank c || isBlank d) (line.dropWhile isBlank)
  unfold words
  split
  next => exact List.append_nil line
  next word rest hwords =>
    rw [hwords, List.flatten_cons] at hbody
    rw [List.flatten_cons, List.append_assoc, hbody, List.takeWhile_append_dropWhile]

/-- A word that is cut is the lines that it fills and the rest of it. -/
theorem flatten_chopped (width : Nat) (line s : Text) :
    (chopped width line s).1.flatten ++ (chopped width line s).2 = line ++ s := by
  fun_induction chopped width line s with
  | case1 line => rw [List.flatten_nil, List.nil_append, List.append_nil]
  | case2 line c rest _ ih => rw [ih, List.append_assoc, List.singleton_append]
  | case3 line c rest _ full last hrest ih =>
    rw [hrest] at ih
    rw [List.flatten_cons, List.append_assoc, ih, List.singleton_append]

/-- Lines that are cut where they are full are not too wide, if no character is. -/
theorem columns_le_of_chopped (hline : line.columns ≤ width) (hs : ∀ c ∈ s, columns c ≤ width) :
    (∀ full ∈ (chopped width line s).1, Text.columns full ≤ width) ∧
      (chopped width line s).2.columns ≤ width := by
  fun_induction chopped width line s with
  | case1 line => exact ⟨List.forall_mem_nil _, hline⟩
  | case2 line c rest hfits ih =>
    refine ih ?_ (List.forall_mem_cons.mp hs).2
    rw [Text.columns_concat]
    exact hfits
  | case3 line c rest _ full last hrest ih =>
    rw [hrest] at ih
    obtain ⟨hc, hs⟩ := List.forall_mem_cons.mp hs
    obtain ⟨hfull, hlast⟩ := ih hc hs
    exact ⟨List.forall_mem_cons.mpr ⟨hline, hfull⟩, hlast⟩

/-- The lines that words are put on are the words. -/
theorem flatten_filled (width : Nat) (line : Text) (words : List Text) :
    (filled width line words).flatten = line ++ words.flatten := by
  fun_induction filled width line words with
  | case1 line => rfl
  | case2 line word rest _ ih => rw [ih, List.flatten_cons, List.append_assoc]
  | case3 line word rest _ _ ih => rw [List.flatten_cons, ih, List.flatten_cons]
  | case4 line word rest _ _ full last hchopped ih =>
    have hword := flatten_chopped width [] word
    rw [hchopped] at hword
    rw [List.cons_append, List.flatten_cons, List.flatten_append, ih, ← List.append_assoc full.flatten,
      hword, List.nil_append, List.flatten_cons]

/-- **What is not blank at the end of a line fits**, where every character does. -/
theorem columns_trimmed_of_mem_filled {words : List Text}
    (hwords : ∀ word ∈ words, ∀ c ∈ word, columns c ≤ width) (hline : line.trimmed.columns ≤ width) :
    ∀ l ∈ filled width line words, l.trimmed.columns ≤ width := by
  fun_induction filled width line words with
  | case1 line => exact List.forall_mem_singleton.mpr hline
  | case2 line word rest hfits ih =>
    refine ih (List.forall_mem_cons.mp hwords).2 ?_
    exact (Text.columns_trimmed_append_le line word).trans hfits
  | case3 line word rest _ hword ih =>
    exact List.forall_mem_cons.mpr ⟨hline, ih (List.forall_mem_cons.mp hwords).2 hword⟩
  | case4 line word rest _ _ full last hchopped ih =>
    obtain ⟨hword, hrest⟩ := List.forall_mem_cons.mp hwords
    have hnil : Text.columns [] ≤ width := Nat.zero_le width
    obtain ⟨hfull, hlast⟩ := columns_le_of_chopped hnil hword
    rw [hchopped] at hfull hlast
    have htrimmed {t : Text} (ht : t.columns ≤ width) : t.trimmed.columns ≤ width :=
      (Text.columns_mono (Text.trimmed_isPrefix t)).trans ht
    refine List.forall_mem_cons.mpr ⟨hline, fun l hl => ?_⟩
    rcases List.mem_append.mp hl with hl | hl
    · exact htrimmed (hfull l hl)
    · exact ih hrest (htrimmed hlast) l hl

/-- Words that fit stay on the line. -/
theorem filled_of_fits {words : List Text}
    (hfits : line.columns + Text.columns words.flatten ≤ width) :
    filled width line words = [line ++ words.flatten] := by
  induction words generalizing line with
  | nil => rw [filled, List.flatten_nil, List.append_nil]
  | cons word rest ih =>
    rw [List.flatten_cons, Text.columns_append] at hfits
    have htrimmed := Text.columns_mono (Text.trimmed_isPrefix word)
    rw [filled, if_pos (by omega), ih (by rw [Text.columns_append]; omega), List.flatten_cons,
      List.append_assoc]

/-- **A line is broken in front of the first word that does not fit**, if that fits on a line of its own. -/
theorem filled_append_cons {front rest : List Text} {word : Text}
    (hfits : line.columns + Text.columns front.flatten ≤ width)
    (hover : width < line.columns + Text.columns front.flatten + word.trimmed.columns)
    (hword : word.trimmed.columns ≤ width) :
    filled width line (front ++ word :: rest) = (line ++ front.flatten) :: filled width word rest := by
  induction front generalizing line with
  | nil =>
    have hover : ¬ line.columns + word.trimmed.columns ≤ width := Nat.not_le.mpr hover
    rw [List.nil_append, filled, if_neg hover, if_pos hword, List.flatten_nil, List.append_nil]
  | cons first front ih =>
    rw [List.flatten_cons, Text.columns_append, ← Nat.add_assoc] at hfits hover
    have htrimmed := Text.columns_mono (Text.trimmed_isPrefix first)
    have hjoined := Text.columns_append line first
    rw [List.cons_append, filled, if_pos (by omega), ih (hjoined ▸ hfits) (hjoined ▸ hover),
      List.flatten_cons, List.append_assoc]

theorem flatten_begun (lines : List Text) : (begun lines).flatten = lines.flatten := by
  fun_induction begun lines with
  | case1 line rest ih => rw [ih, List.flatten_cons, List.flatten_cons, List.flatten_cons, List.nil_append]
  | case2 => rfl

theorem mem_of_mem_begun {lines : List Text} (h : line ∈ begun lines) : line ∈ lines := by
  fun_induction begun lines with
  | case1 _ _ ih => exact List.mem_cons_of_mem _ (ih h)
  | case2 => exact h

/-! ## Ends that are cut off -/

/-- What is left of a line that is cut off at a column: a front of it that reaches there, or one that ends
before it with a blank for half of the wide character that would reach over it. -/
inductive Cut (width : Nat) (line : Text) : Text → Prop
  | whole {front : Text} : front <+: line → front.columns = width → Cut width line front
  | half {front : Text} {c : Char} : front ++ [c] <+: line → front.columns + 1 = width →
      columns c = 2 → Cut width line (front ++ [' '])

theorem columns_blank : columns ' ' = 1 := by
  decide +kernel

theorem Cut.columns_eq {t : Text} (h : Cut width line t) : t.columns = width := by
  cases h with
  | whole _ hcolumns => exact hcolumns
  | half _ hcolumns _ => rw [Text.columns_concat, columns_blank, hcolumns]

theorem Cut.mem {t : Text} (h : Cut width line t) {c : Char} (hc : c ∈ t) : c ∈ line ∨ c = ' ' := by
  cases h with
  | whole hfront _ => exact .inl (hfront.mem hc)
  | half hfront _ _ =>
    rcases List.mem_append.mp hc with hc | hc
    · exact .inl (hfront.mem (List.mem_append_left _ hc))
    · exact .inr (List.mem_singleton.mp hc)

/-- Nothing is lost that there is to see, if what is not blank at the end of the line fits. -/
theorem Cut.filter_eq {t : Text} (h : Cut width line t) (hline : line.trimmed.columns ≤ width) :
    t.filter isVisible = line.filter isVisible := by
  cases h with
  | whole hfront hcolumns =>
    rcases List.prefix_or_prefix_of_prefix (Text.trimmed_isPrefix line) hfront with htrimmed | hmore
    · exact Text.filter_of_isPrefix htrimmed hfront
    · -- What is missing takes no column.
      obtain ⟨rest, hrest⟩ := hmore
      have hnone : Text.columns rest = 0 := by
        rw [← hrest, Text.columns_append] at hline
        omega
      rw [← Text.filter_trimmed line, ← hrest, List.filter_append,
        Text.filter_isVisible_of_columns hnone, List.append_nil]
  | @half front c hfront hcolumns hwide =>
    have hblank : [' '].filter isVisible = [] := rfl
    have hover : ¬ front ++ [c] <+: line.trimmed := by
      intro hmore
      have := Text.columns_mono hmore
      rw [Text.columns_concat] at this
      omega
    rw [List.filter_append, hblank, List.append_nil]
    refine Text.filter_of_isPrefix ?_ ((List.prefix_append front [c]).trans hfront)
    rcases List.prefix_or_prefix_of_prefix (Text.trimmed_isPrefix line) hfront with htrimmed | hmore
    · rcases List.prefix_concat_iff.mp htrimmed with heq | hless
      · exact absurd (heq ▸ List.prefix_rfl) hover
      · exact hless
    · exact absurd hmore hover

/-- A front of a line that reaches over the edge by half of its last character. -/
def Halves (width : Nat) (front : Text) : Prop :=
  front.columns = width + 1 ∧ front.getLast?.any (columns · = 2) = true

theorem exists_eq_concat_of_halves {front : Text} (h : Halves width front) :
    ∃ c, front = front.dropLast ++ [c] ∧ Text.columns front.dropLast + 1 = width ∧ columns c = 2 := by
  obtain ⟨hcolumns, hlast⟩ := h
  obtain ⟨c, hc, hwide⟩ := (Option.any_eq_true _ _).mp hlast
  have hsplit := List.dropLast_append_getLast? c hc
  have hwide : columns c = 2 := of_decide_eq_true hwide
  refine ⟨c, hsplit.symm, ?_, hwide⟩
  rw [← hsplit, Text.columns_concat] at hcolumns
  omega

/-- Where a front of a line is too wide, and not by half of a character, it is wide enough without its last
character. -/
theorem le_columns_take {n : Nat} (hover : width < Text.columns (line.take (n + 1)))
    (hhalf : ¬ Halves width (line.take (n + 1))) : width ≤ Text.columns (line.take n) := by
  rw [List.take_add_one] at hover hhalf
  cases hc : (line)[n]? with
  | none =>
    rw [hc] at hover
    simpa using hover.le
  | some c =>
    rw [hc, Option.toList_some] at hover hhalf
    rw [Text.columns_concat] at hover
    have htwo := columns_le_two c
    by_contra hless
    refine hhalf ⟨?_, ?_⟩
    · rw [Text.columns_concat]
      omega
    · have hwide : columns c = 2 := by omega
      simp [hwide]

/-- **The search ends at the last column.** The line is too wide up to the upper place and not up to the
lower one, so they do not meet before. -/
theorem cut_halved (hwidth : 0 < width) {low high : Nat} (hlt : low < high)
    (hlow : low = 0 ∨ Text.columns (line.take (low + 1)) < width)
    (hhigh : width ≤ Text.columns (line.take high)) : Cut width line (halved width line low high) := by
  fun_induction halved width line low high with
  | case1 low high middle front hhalf =>
    obtain ⟨c, hsplit, hcolumns, hwide⟩ := exists_eq_concat_of_halves hhalf
    exact .half (hsplit ▸ List.take_prefix _ _) hcolumns hwide
  | case2 low high middle front hhalf hmore hover ih =>
    exact ih hmore.2 hlow (le_columns_take hover hhalf)
  | case3 low high middle front hhalf hmore hover ih =>
    exact ih (by omega) (.inr (Nat.lt_of_le_of_ne (Nat.not_lt.mp hover) hmore.1)) hhigh
  | case4 low high middle front hhalf hdone =>
    refine .whole (List.take_prefix _ _) ?_
    by_contra hcolumns
    have hmiddle : middle = low := by
      have : ¬ low < middle := fun h => hdone ⟨hcolumns, h⟩
      omega
    have hfront : front = line.take (low + 1) := congrArg (fun n => line.take (n + 1)) hmiddle
    obtain rfl : high = low + 1 := by omega
    have hover : width < Text.columns (line.take (low + 1)) :=
      Nat.lt_of_le_of_ne hhigh (hfront ▸ Ne.symm hcolumns)
    rcases hlow with rfl | hlow
    · -- Up to the very first character a line cannot be too wide but by half of it.
      have hzero := le_columns_take hover (hfront ▸ hhalf)
      exact absurd hzero (Nat.not_le.mpr hwidth)
    · exact absurd hhigh (Nat.not_le.mpr hlow)

/-! ## Lines -/

/-- A line that is not too wide is left as it is, and of any other there is left what ends at the last
column. -/
theorem truncated_cases (hwidth : 0 < width) (line : Text) :
    truncated width line = line ∧ line.columns ≤ width ∨ Cut width line (truncated width line) := by
  unfold truncated
  split
  next hfits => exact .inl ⟨rfl, hfits⟩
  next hover =>
    refine .inr (cut_halved hwidth ?_ (.inl rfl) ?_)
    · by_contra hnil
      obtain rfl : line = [] := List.length_eq_zero_iff.mp (by omega)
      exact hover (Nat.zero_le width)
    · rw [List.take_length]
      exact (Nat.not_le.mp hover).le

theorem columns_truncated_le (hwidth : 0 < width) (line : Text) :
    (truncated width line).columns ≤ width := by
  rcases truncated_cases hwidth line with ⟨heq, hfits⟩ | hcut
  · rw [heq]
    exact hfits
  · exact hcut.columns_eq.le

theorem filter_truncated (hwidth : 0 < width) (hline : line.trimmed.columns ≤ width) :
    (truncated width line).filter isVisible = line.filter isVisible := by
  rcases truncated_cases hwidth line with ⟨heq, -⟩ | hcut
  · rw [heq]
  · exact hcut.filter_eq hline

/-- What is left of a line is of the line, and blanks. -/
theorem mem_of_mem_truncated (hwidth : 0 < width) {c : Char} (hc : c ∈ truncated width line) :
    c ∈ line ∨ c = ' ' := by
  rcases truncated_cases hwidth line with ⟨heq, -⟩ | hcut
  · exact .inl (heq ▸ hc)
  · exact hcut.mem hc

theorem cropped_isPrefix (width : Nat) (line : Text) : cropped width line <+: line := List.take_prefix _ _

theorem trimmed_isPrefix_cropped (width : Nat) (line : Text) : line.trimmed <+: cropped width line :=
  List.prefix_take_iff.mpr ⟨Text.trimmed_isPrefix line, Nat.le_max_left _ _⟩

/-- Before its lines are cut off, they are the line. -/
theorem flatten_begun_filled (width : Nat) (line : Text) :
    (begun (filled width [] (words line))).flatten = line := by
  rw [flatten_begun, flatten_filled, flatten_words, List.nil_append]

theorem columns_le_of_mem_broken (hwidth : 0 < width) {l : Text} (h : l ∈ broken width line) :
    l.columns ≤ width := by
  obtain ⟨whole, -, rfl⟩ := List.mem_map.mp h
  exact columns_truncated_le hwidth _

/-- A line is shown in characters of its own, and blanks. -/
theorem mem_of_mem_broken (hwidth : 0 < width) {l : Text} {c : Char} (h : l ∈ broken width line)
    (hc : c ∈ l) : c ∈ line ∨ c = ' ' := by
  obtain ⟨whole, hwhole, rfl⟩ := List.mem_map.mp h
  refine (mem_of_mem_truncated hwidth hc).imp_left fun hc => ?_
  rw [← flatten_begun_filled width line]
  exact List.mem_flatten_of_mem hwhole ((cropped_isPrefix width whole).mem hc)

/-- **What there is to see of a line stands in the lines in which it is shown**, if every character fits. -/
theorem filter_broken (hwidth : 0 < width) (hline : ∀ c ∈ line, columns c ≤ width) :
    (broken width line).flatten.filter isVisible = line.filter isVisible := by
  have hwords : ∀ word ∈ words line, ∀ c ∈ word, columns c ≤ width := by
    intro word hword c hc
    refine hline c ?_
    rw [← flatten_words line]
    exact List.mem_flatten_of_mem hword hc
  have hnil : (Text.trimmed []).columns ≤ width := Nat.zero_le width
  have hcut (whole : Text) (hwhole : whole ∈ begun (filled width [] (words line))) :
      (truncated width (cropped width whole)).filter isVisible = whole.filter isVisible := by
    have hfits := columns_trimmed_of_mem_filled hwords hnil whole (mem_of_mem_begun hwhole)
    have hfront := cropped_isPrefix width whole
    have hback := trimmed_isPrefix_cropped width whole
    have htrimmed := Text.columns_trimmed_of_isPrefix hback hfront
    rw [filter_truncated hwidth (htrimmed.trans hfits), Text.filter_of_isPrefix hback hfront]
  conv_rhs => rw [← flatten_begun_filled width line]
  rw [broken, List.filter_flatten, List.filter_flatten, List.map_map]
  exact congrArg List.flatten (List.map_congr_left hcut)

/-- Nothing is cut off from a line that fits. -/
theorem truncated_cropped_of_fits (hlength : line.length ≤ width) (hcolumns : line.columns ≤ width) :
    truncated width (cropped width line) = line := by
  have hcropped : cropped width line = line :=
    List.take_of_length_le (hlength.trans (Nat.le_max_right _ _))
  rw [hcropped, truncated, if_pos hcolumns]

/-- A line that fits is shown as it is. -/
theorem broken_of_fits (hlength : line.length ≤ width) (hcolumns : line.columns ≤ width) :
    broken width line = [line] := by
  have hfilled : filled width [] (words line) = [line] := by
    rw [filled_of_fits (by rw [flatten_words]; exact (Nat.zero_add _).trans_le hcolumns), flatten_words,
      List.nil_append]
  have hbegun : begun [line] = [line] := by
    cases line <;> rfl
  rw [broken, hfilled, hbegun, List.map_singleton, truncated_cropped_of_fits hlength hcolumns]

/-- A line that only its last word makes too wide is shown in two lines. -/
theorem broken_append {front word : Text} (hwords : words (front ++ word) = words front ++ [word])
    (hfront : front ≠ []) (hlength : front.length ≤ width) (hcolumns : front.columns ≤ width)
    (hwordLength : word.length ≤ width) (hwordColumns : word.columns ≤ width)
    (hover : width < front.columns + word.trimmed.columns) :
    broken width (front ++ word) = [front, word] := by
  have htrimmed := (Text.columns_mono (Text.trimmed_isPrefix word)).trans hwordColumns
  have hnil : Text.columns [] = 0 := rfl
  have hfilled : filled width [] (words (front ++ word)) = [front, word] := by
    have hfits : Text.columns [] + Text.columns (words front).flatten ≤ width := by
      rwa [hnil, Nat.zero_add, flatten_words]
    have htoo : width < Text.columns [] + Text.columns (words front).flatten + word.trimmed.columns := by
      rwa [hnil, Nat.zero_add, flatten_words]
    rw [hwords, filled_append_cons hfits htoo htrimmed, flatten_words]
    rfl
  have hbegun : begun [front, word] = [front, word] := by
    obtain ⟨c, rest, rfl⟩ := List.exists_cons_of_ne_nil hfront
    rfl
  rw [broken, hfilled, hbegun, List.map_cons, List.map_singleton,
    truncated_cropped_of_fits hlength hcolumns, truncated_cropped_of_fits hwordLength hwordColumns]

/-! ## Texts -/

/-- A text that fits is shown as it is. -/
theorem wrapped_of_fits (hwidth : 0 < width) (hfeed : '\n' ∉ s) (hlength : s.length ≤ width)
    (hcolumns : s.columns ≤ width) : wrapped width s = [s] := by
  rw [wrapped, if_neg (Nat.ne_of_gt hwidth), Text.parts_of_notMem hfeed, List.flatMap_singleton,
    broken_of_fits hlength hcolumns]

/-- A short text of plain characters is shown as it is. -/
theorem wrapped_of_all_isPlain (hwidth : 0 < width) (hs : s.all isPlain = true)
    (hlength : s.length ≤ width) : wrapped width s = [s] := by
  refine wrapped_of_fits hwidth (fun hfeed => ?_) hlength ?_
  · exact absurd (List.all_eq_true.mp hs '\n' hfeed) (by decide)
  · rw [Text.columns_of_all_isPlain hs]
    exact hlength

/-- No line is too wide, or goes on behind a line feed. -/
theorem narrow_of_mem_wrapped (h : line ∈ wrapped width s) : line.columns ≤ width ∧ '\n' ∉ line := by
  unfold wrapped at h
  split at h
  next => cases h
  next hwidth =>
    have hpos := Nat.pos_of_ne_zero hwidth
    obtain ⟨part, hpart, hline⟩ := List.mem_flatMap.mp h
    refine ⟨columns_le_of_mem_broken hpos hline, fun hc => ?_⟩
    rcases mem_of_mem_broken hpos hline hc with hc | hc
    · exact Text.notMem_of_mem_parts hpart hc
    · cases hc

/-- What there is to see of parts stands in the lines of all of them, if that of each stands in its own. -/
theorem filter_flatten_flatMap {parts : List Text} {lines : Text → List Text}
    (h : ∀ part ∈ parts, (lines part).flatten.filter isVisible = part.filter isVisible) :
    (parts.flatMap lines).flatten.filter isVisible = parts.flatten.filter isVisible := by
  induction parts with
  | nil => rfl
  | cons part rest ih =>
    obtain ⟨hpart, hrest⟩ := List.forall_mem_cons.mp h
    rw [List.flatMap_cons, List.flatten_append, List.filter_append, hpart, ih hrest, List.flatten_cons,
      List.filter_append]

/-- **What there is to see of a text stands in the lines in which it is shown**, if every character fits. -/
theorem filter_wrapped (hs : ∀ c ∈ s, columns c ≤ width) :
    (wrapped width s).flatten.filter isVisible = s.filter isVisible := by
  unfold wrapped
  split
  next hwidth =>
    refine (List.filter_eq_nil_iff.mpr fun c hc hvisible => ?_).symm
    have hnone : columns c = 0 := Nat.le_zero.mp (hwidth ▸ hs c hc)
    simp [isVisible, hnone] at hvisible
  next hwidth =>
    have hparts : ∀ part ∈ Text.parts '\n' s,
        (broken width part).flatten.filter isVisible = part.filter isVisible :=
      fun part hpart => filter_broken (Nat.pos_of_ne_zero hwidth)
        fun c hc => hs c (Text.mem_of_mem_parts hpart hc)
    rw [← Text.filter_flatten_parts s, filter_flatten_flatMap hparts]

/-- Printed lines have as many line feeds as there are lines, if none holds one. -/
theorem count_ended {lines : List Text} (h : ∀ line ∈ lines, '\n' ∉ line) :
    (ended lines).count '\n' = lines.length := by
  induction lines with
  | nil => rfl
  | cons line rest ih =>
    obtain ⟨hline, hrest⟩ := List.forall_mem_cons.mp h
    have hcons : ended (line :: rest) = line ++ ['\n'] ++ ended rest := List.flatMap_cons
    rw [hcons, List.count_append, List.count_append, List.count_eq_zero.mpr hline, ih hrest,
      List.length_cons, List.count_singleton_self]
    omega

/-- Lines that show a text on a console: the text itself where it fits, and otherwise lines that are narrow
enough and hold what there is to see of it, in its order. -/
structure Shows (width : Nat) (s : Text) (lines : List Text) : Prop where
  whole : 0 < width → '\n' ∉ s → s.length ≤ width → s.columns ≤ width → lines = [s]
  narrow : ∀ line ∈ lines, line.columns ≤ width ∧ '\n' ∉ line
  complete : (∀ c ∈ s, columns c ≤ width) → lines.flatten.filter isVisible = s.filter isVisible

/-- **A console shows a text.** -/
theorem shows_wrapped (width : Nat) (s : Text) : Shows width s (wrapped width s) where
  whole := wrapped_of_fits
  narrow _ := narrow_of_mem_wrapped
  complete := filter_wrapped

end Console

end Stencil
