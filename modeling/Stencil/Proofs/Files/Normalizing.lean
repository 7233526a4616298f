import Mathlib.Data.List.TakeWhile
import Stencil.Proofs.Files.Reading
import Stencil.Proofs.Files.Suffixes
import Stencil.Proofs.Files.Walking

/-!
# Paths in normal form lead to the same files

A program is given a text and keeps the path that the text means, so what was looked at by the text is read
by the path's own text. Nothing that is lost on the way leads anywhere: a walk that arrives passes over
empty names and over the name for the directory itself (`walk_of_erased`). What is left is no longer than
what there was (`toText_ofText_sublist`), so the system takes it where it took the text. Hence both lead to
one file (`stat_toText_ofText`).

The law is about files. A name for the directory itself asks for a directory in front of it, so a text may
lead nowhere where its path leads to a file.
-/

namespace Stencil

namespace Text

/-- Parts that are left out make a joined text shorter. -/
theorem joined_sublist (separator : Text) {some all : List Text} (h : some.Sublist all) :
    (joined separator some).Sublist (joined separator all) := by
  induction h with
  | slnil => exact List.Sublist.refl _
  | @cons front all part hsub ih =>
    refine ih.trans ?_
    cases all with
    | nil => exact List.nil_sublist _
    | cons second rest =>
      rw [joined_cons_cons]
      exact (List.sublist_append_right _ _).trans (List.sublist_append_right _ _)
  | @cons_cons front all part hsub ih =>
    cases front with
    | nil =>
      rw [joined_singleton]
      cases all with
      | nil => exact (joined_singleton separator part).symm ▸ List.Sublist.refl _
      | cons second rest =>
        rw [joined_cons_cons]
        exact List.sublist_append_left _ _
    | cons first others =>
      cases all with
      | nil => cases hsub
      | cons second rest =>
        rw [joined_cons_cons, joined_cons_cons]
        exact (ih.append_left separator).append_left part

end Text

namespace FileTree

/-- A shorter text has no more bytes. -/
theorem size_le_of_sublist {s s' : Text} (h : s.Sublist s') : size s ≤ size s' := by
  induction h with
  | slnil => exact Nat.le_refl _
  | cons c _ ih =>
    rw [size_cons]
    omega
  | cons_cons c _ ih =>
    rw [size_cons, size_cons]
    omega

end FileTree

namespace Path

/-- A text that begins with a slash means an absolute path, and no other does. -/
theorem isAbsolute_ofText (s : Text) : (ofText s).isAbsolute = true ↔ s.head? = some '/' := by
  have hleading : leading s = 0 ↔ s.head? ≠ some '/' := by
    unfold leading
    cases s with
    | nil => simp
    | cons c rest =>
      by_cases hc : c = '/'
      · subst hc
        have hpos : ((('/' :: rest).takeWhile (· == '/')).length) ≠ 0 := by simp
        split <;> simp_all
      · simp [hc]
  rw [isAbsolute, bne_iff_ne, ofText, ne_eq, hleading, not_not]

/-- **The text of a path is what is left of a text that means it**, when the path has names. -/
theorem toText_ofText_sublist {s : Text} (h : (ofText s).names ≠ []) : (ofText s).toText.Sublist s := by
  rw [toText_of_names h]
  -- The slashes that count stand in front, and the names are parts of what is behind them.
  let slashes := s.takeWhile (· == '/')
  let rest := s.dropWhile (· == '/')
  have hslashes : slashes = List.replicate slashes.length '/' := by
    refine List.eq_replicate_iff.mpr ⟨rfl, fun c hc => ?_⟩
    have hslash := List.mem_takeWhile_imp hc
    exact beq_iff_eq.mp hslash
  have hs : s = slashes ++ rest := (List.takeWhile_append_dropWhile).symm
  have hcount : (ofText s).slashes ≤ slashes.length := by
    show leading s ≤ (s.takeWhile (· == '/')).length
    unfold leading
    split
    next => exact Nat.zero_le _
    next htwo => exact Nat.le_of_eq htwo.symm
    next hzero _ => exact Nat.one_le_iff_ne_zero.mpr hzero
  have hnames : (ofText s).names.Sublist (Text.parts '/' rest) := by
    have hparts : Text.parts '/' s = List.replicate slashes.length [] ++ Text.parts '/' rest := by
      rw [← Text.parts_replicate, ← hslashes, ← hs]
    show ((Text.parts '/' s).filter _).Sublist _
    rw [hparts, List.filter_append]
    simp
  have hrest : Text.joined ['/'] (Text.parts '/' rest) = rest := by
    rw [Text.parts_eq_splitOn]
    exact List.intercalate_splitOn '/'
  have hjoined := Text.joined_sublist ['/'] hnames
  rw [hrest] at hjoined
  have hfront : (List.replicate (ofText s).slashes '/').Sublist slashes := by
    rw [hslashes]
    exact List.replicate_sublist_replicate '/' |>.mpr hcount
  conv_rhs => rw [hs]
  exact hfront.append hjoined

end Path

namespace FileTree

variable {t : FileTree} {links : Nat} {p q : Place} {name : Text} {front names rest : List Text}

/-- **A walk arrives without a name for the directory itself** where it arrives with one. -/
theorem walk_of_erased (hhere : isHere name = true)
    (h : t.walk links p (front ++ name :: rest) = .ok q) : t.walk links p (front ++ rest) = .ok q := by
  generalize hnames : front ++ name :: rest = names at h
  -- By induction on the walk: a link that is followed only puts more names in front.
  fun_induction walk t links p names generalizing front with
  | case1 => simp at hnames
  | case2 | case3 | case4 | case7 | case8 => cases h
  | case5 links p first after hdirectory hfirst ih =>
    cases front with
    | nil =>
      obtain ⟨rfl, rfl⟩ := List.cons.inj hnames
      exact h
    | cons other front =>
      obtain ⟨rfl, rfl⟩ := List.cons.inj hnames
      rw [List.cons_append, walk_cons_of_here hdirectory hfirst]
      exact ih rfl h
  | case6 links p after hdirectory hfirst ih =>
    cases front with
    | nil =>
      obtain ⟨rfl, rfl⟩ := List.cons.inj hnames
      exact absurd hhere hfirst
    | cons other front =>
      obtain ⟨rfl, rfl⟩ := List.cons.inj hnames
      rw [List.cons_append, walk_cons_of_up hdirectory]
      exact ih rfl h
  | case9 p first after hdirectory hfirst hup hsize target hlink links ih =>
    cases front with
    | nil =>
      obtain ⟨rfl, rfl⟩ := List.cons.inj hnames
      exact absurd hhere hfirst
    | cons other front =>
      obtain ⟨rfl, rfl⟩ := List.cons.inj hnames
      have hname : isHere other = false ∧ other ≠ Path.up := ⟨Bool.eq_false_iff.mpr hfirst, hup⟩
      rw [List.cons_append, walk_cons_of_link hdirectory hname (Nat.not_lt.mp hsize) hlink,
        ← List.append_assoc]
      exact ih (by simp) h
  | case10 links p first after hdirectory hfirst hup hsize hlink ih =>
    cases front with
    | nil =>
      obtain ⟨rfl, rfl⟩ := List.cons.inj hnames
      exact absurd hhere hfirst
    | cons other front =>
      obtain ⟨rfl, rfl⟩ := List.cons.inj hnames
      have hname : isHere other = false ∧ other ≠ Path.up := ⟨Bool.eq_false_iff.mpr hfirst, hup⟩
      rw [List.cons_append,
        walk_cons_of_directory hdirectory hname (Nat.not_lt.mp hsize) fun target => hlink target]
      exact ih rfl h

/-- A walk arrives by the names that lead somewhere. -/
theorem walk_filter (front : List Text) (h : t.walk links p (front ++ names) = .ok q) :
    t.walk links p (front ++ names.filter fun name => !isHere name) = .ok q := by
  induction names generalizing front with
  | nil => exact h
  | cons name names ih =>
    cases hhere : isHere name with
    | true =>
      rw [List.filter_cons_of_neg (by simp [hhere])]
      exact ih front (walk_of_erased hhere h)
    | false =>
      rw [List.filter_cons_of_pos (by simp [hhere])]
      rw [List.append_cons] at h ⊢
      exact ih _ h

/-- A text that leads somewhere starts in a directory. -/
theorem directory_startOf_of_locate {s : Text} (h : t.locate s = .ok q) :
    t.item? (startOf t.workingDirectory s) = some .directory := by
  obtain ⟨-, -, -, hwalk⟩ := locate_eq_ok_iff.mp h
  obtain ⟨first, rest, hparts⟩ := List.exists_cons_of_ne_nil (Text.parts_ne_nil '/' s)
  rw [hparts] at hwalk
  exact directory_of_walk_cons hwalk

/-- A walk along the names of the path that a text means arrives where the text leads. -/
theorem walk_names_of_locate {s : Text} (h : t.locate s = .ok q) :
    t.walk mostLinks (startOf t.workingDirectory s) (Path.ofText s).names = .ok q := by
  have hnames : (Path.ofText s).names = (Text.parts '/' s).filter fun name => !isHere name := by
    refine List.filter_congr fun name _ => ?_
    rw [Bool.eq_iff_iff]
    simp [isHere]
  rw [hnames]
  exact walk_filter [] (locate_eq_ok_iff.mp h).2.2.2

/-- The path that a text means leads to the place that the text leads to, when it has names. -/
theorem locate_toText_ofText {s : Text} (hnames : (Path.ofText s).names ≠ [])
    (h : t.locate s = .ok q) : t.locate (Path.ofText s).toText = .ok q := by
  obtain ⟨hnul, -, hsize, -⟩ := locate_eq_ok_iff.mp h
  have hnormal := Path.normal_ofText s
  refine locate_eq_ok_iff.mpr ⟨?_, ?_, ?_, ?_⟩
  · rw [Path.mem_toText_iff (by decide) (by decide)]
    rintro ⟨name, hname, hmem⟩
    exact hnul (Text.mem_of_mem_parts (List.mem_filter.mp hname).1 hmem)
  · intro hnil
    have hmeans := hnormal.ofText_toText
    rw [hnil] at hmeans
    exact hnames (hmeans ▸ rfl)
  · exact Nat.le_trans (size_le_of_sublist (Path.toText_ofText_sublist hnames)) hsize
  · have hstart : startOf t.workingDirectory (Path.ofText s).toText = startOf t.workingDirectory s := by
      rw [hnormal.startOf_toText, startOf]
      simp only [Path.isAbsolute_ofText]
    rw [hstart, hnormal.parts_toText hnames, walk_replicate (directory_startOf_of_locate h)]
    exact walk_names_of_locate h

/-- **The path that a text means leads to the file that the text leads to.** -/
theorem stat_toText_ofText {s : Text} {bytes : ByteArray} (h : t.stat s = .ok (.file bytes)) :
    t.stat (Path.ofText s).toText = .ok (.file bytes) := by
  obtain ⟨q, hlocate, hitem⟩ := bind_eq_ok_iff.mp h
  have hnames : (Path.ofText s).names ≠ [] := by
    intro hnone
    -- Without names the walk stays in the directory that it starts in, which is no file.
    have hwalk := walk_names_of_locate hlocate
    rw [hnone, walk] at hwalk
    cases hwalk
    rw [directory_startOf_of_locate hlocate] at hitem
    cases hitem
  exact bind_eq_ok_iff.mpr ⟨q, locate_toText_ofText hnames hlocate, hitem⟩

/-- What is read is a file. -/
theorem exists_stat_of_readText {s source : Text} (h : t.readText s = .ok source) :
    ∃ bytes, t.stat s = .ok (.file bytes) := by
  obtain ⟨item, hstat, hread⟩ := bind_eq_ok_iff.mp h
  obtain ⟨bytes, hbytes, -⟩ := bind_eq_ok_iff.mp hread
  cases item with
  | directory => cases hbytes
  | link target => cases hbytes
  | file bytes => exact ⟨bytes, hstat⟩

/-- What is read by a text is read by the path that it means. -/
theorem readText_toText_ofText {s source : Text} (h : t.readText s = .ok source) :
    t.readText (Path.ofText s).toText = .ok source := by
  obtain ⟨bytes, hstat⟩ := exists_stat_of_readText h
  obtain ⟨item, hitem, hread⟩ := bind_eq_ok_iff.mp h
  cases hstat.symm.trans hitem
  exact bind_eq_ok_iff.mpr ⟨.file bytes, stat_toText_ofText hstat, hread⟩

end FileTree

end Stencil
