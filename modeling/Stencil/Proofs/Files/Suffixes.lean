import Stencil.Files.Path

/-!
# Suffixes of paths

The last name of a path is what stands behind the last slash of its text, and a suffix is what stands there
from its last dot on, if something stands before and behind that dot. So a text gets a suffix by an extension
that is put behind it (`suffix_append`). It does not matter which dots the text has already, in its last name
or before it, for the last dot is now one of the extension. What matters is that a name is there for the
extension to be put behind, and that the extension neither ends in a dot nor begins another name.
-/

namespace Stencil

namespace Text

variable {s t : Text}

/-- A text that holds a character, cut where it holds it last. -/
theorem exists_last_cut {c : Char} (h : c ∈ s) :
    ∃ before after, s = before ++ c :: after ∧ c ∉ after := by
  obtain ⟨back, front, hsplit, hback⟩ := List.eq_append_cons_of_mem (List.mem_reverse.mpr h)
  refine ⟨front.reverse, back.reverse, ?_, fun hc => hback (List.mem_reverse.mp hc)⟩
  rw [← List.reverse_reverse s, hsplit]
  simp only [List.reverse_append, List.reverse_cons, List.append_assoc, List.cons_append,
    List.nil_append]

/-- Two texts with a separator between them have the parts of both. -/
theorem parts_append_cons (separator : Char) (s t : Text) :
    parts separator (s ++ separator :: t) = parts separator s ++ parts separator t := by
  induction s with
  | nil =>
    show parts separator (separator :: t) = [] :: parts separator t
    rw [parts, if_pos rfl]
  | cons c rest ih =>
    rw [List.cons_append, parts, parts, ih]
    split
    next => rfl
    next =>
      cases hparts : parts separator rest with
      | nil => exact absurd hparts (parts_ne_nil separator rest)
      | cons part others => rfl

end Text

namespace Path

/-- What stands behind the last slash is the last name, if it is one. -/
theorem name_ofText {s base : Text} (hcut : s = base ∨ ∃ before, s = before ++ '/' :: base)
    (hslash : '/' ∉ base) (hnil : base ≠ []) (hhere : base ≠ here) : (ofText s).name = base := by
  have hkept : [base].filter (fun name => name ≠ [] ∧ name ≠ here) = [base] :=
    List.filter_eq_self.mpr fun name hname => by
      rw [List.mem_singleton.mp hname]
      exact decide_eq_true ⟨hnil, hhere⟩
  have hnames : ∃ front, (ofText s).names = front ++ [base] := by
    rcases hcut with rfl | ⟨before, rfl⟩
    · refine ⟨[], ?_⟩
      rw [ofText, Text.parts_of_notMem hslash, hkept, List.nil_append]
    · refine ⟨(Text.parts '/' before).filter fun name => name ≠ [] ∧ name ≠ here, ?_⟩
      rw [ofText, Text.parts_append_cons, Text.parts_of_notMem hslash, List.filter_append, hkept]
  obtain ⟨front, hnames⟩ := hnames
  rw [name, hnames, List.getLast?_concat, Option.getD_some]

/-- The suffix of a path begins at the last dot of its last name. -/
theorem suffix_of_name {p : Path} {stem tail : Text} (hname : p.name = stem ++ '.' :: tail)
    (hstem : stem ≠ []) (htail : tail ≠ []) (hdot : '.' ∉ tail) : p.suffix = '.' :: tail := by
  have hreverse : p.name.reverse = tail.reverse ++ '.' :: stem.reverse := by
    rw [hname]
    simp only [List.reverse_append, List.reverse_cons, List.append_assoc, List.cons_append,
      List.nil_append]
  have hall : ∀ c ∈ tail.reverse, (c != '.') = true := by
    intro c hc
    exact bne_iff_ne.mpr fun heq => hdot (heq ▸ List.mem_reverse.mp hc)
  have htake : p.name.reverse.takeWhile (· != '.') = tail.reverse := by
    rw [hreverse, List.takeWhile_append_of_pos hall, List.takeWhile_cons_of_neg (by decide),
      List.append_nil]
  have hdrop : p.name.reverse.dropWhile (· != '.') = '.' :: stem.reverse := by
    rw [hreverse, List.dropWhile_append_of_pos hall, List.dropWhile_cons_of_neg (by decide)]
  obtain ⟨c, front, hc⟩ := List.exists_cons_of_ne_nil (List.reverse_ne_nil_iff.mpr htail)
  obtain ⟨d, back, hd⟩ := List.exists_cons_of_ne_nil (List.reverse_ne_nil_iff.mpr hstem)
  simp only [suffix, htake, hdrop, hc, hd]
  rw [← hc, List.reverse_reverse]

/-- **A text has a suffix with an extension behind it.** -/
theorem suffix_append {s ext : Text} (hs : s ≠ []) (hslash : s.getLast? ≠ some '/')
    (hhead : ext.head? = some '.') (hext : '/' ∉ ext) (hlast : ext.getLast? ≠ some '.') :
    (ofText (s ++ ext)).suffix ≠ [] := by
  -- The last name of the text, which is there because the text does not end in a slash.
  obtain ⟨base, hbase, hcut, hfree⟩ : ∃ base : Text, base ≠ [] ∧
      (s = base ∨ ∃ before, s = before ++ '/' :: base) ∧ '/' ∉ base := by
    by_cases hmem : '/' ∈ s
    · obtain ⟨before, base, rfl, hfree⟩ := Text.exists_last_cut hmem
      refine ⟨base, ?_, .inr ⟨before, rfl⟩, hfree⟩
      rintro rfl
      exact hslash List.getLast?_concat
    · exact ⟨s, hs, .inl rfl, hmem⟩
  -- The last dot of the extension, behind which something stands.
  obtain ⟨front, tail, rfl, hdot⟩ := Text.exists_last_cut (List.mem_of_head? hhead)
  have htail : tail ≠ [] := by
    rintro rfl
    exact hlast List.getLast?_concat
  have hname : (ofText (s ++ (front ++ '.' :: tail))).name = (base ++ front) ++ '.' :: tail := by
    rw [List.append_assoc]
    refine name_ofText ?_ ?_ (List.append_ne_nil_of_left_ne_nil hbase _) ?_
    · rcases hcut with rfl | ⟨before, rfl⟩
      · exact .inl rfl
      · exact .inr ⟨before, List.append_assoc _ _ _⟩
    · exact fun hmem => (List.mem_append.mp hmem).elim hfree hext
    · -- The directory itself has a name of one character, and here there are more.
      intro hhere
      have hlength := congrArg List.length hhere
      have hpos : 0 < base.length := List.length_pos_iff.mpr hbase
      have hmore : 0 < tail.length := List.length_pos_iff.mpr htail
      simp only [here, List.length_append, List.length_cons, List.length_nil] at hlength
      omega
  rw [suffix_of_name hname (List.append_ne_nil_of_left_ne_nil hbase _) htail hdot]
  exact List.cons_ne_nil _ _

end Path

end Stencil
