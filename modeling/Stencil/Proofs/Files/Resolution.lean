import Stencil.Engine.Store
import Stencil.Proofs.Failure

/-!
# Where paths lead

Resolving a path follows the links on it. What it answers is a place, and no link is left on the way to
that place, unless a link was met that leads back to itself (`linkFree_of_resolve`): then the names
behind it stand as they are, and links may be among them. `Circles` says that this happens.

Along a place without links a walk meets nothing to follow. It arrives at the place itself, and does so
when directories lead there and the system takes their names (`walk_eq_ok_iff`). So what the system
finds at such a place is what stands there (`itemAt_eq_file_iff`).
-/

namespace Stencil

/-- A path read from inside an absolute one is absolute. -/
theorem Path.isAbsolute_within {base : Path} (h : base.isAbsolute = true) (p : Path) :
    (Path.within base p).isAbsolute = true := by
  rw [Path.within]
  split
  next hp => exact hp
  next => exact h

namespace FileTree

variable {t : FileTree}

/-! ## Places without links -/

/-- No link stands on the way to a place, nor at it. -/
def LinkFree (t : FileTree) (p : Place) : Prop :=
  ∀ q target, q <+: p → t.item? q ≠ some (.link target)

/-- Every name of a place is one that something can have. -/
def Plain (p : Place) : Prop := ∀ name ∈ p, isHere name = false ∧ name ≠ Path.up

/-- The root has no links on the way. -/
theorem linkFree_nil (t : FileTree) : t.LinkFree [] := by
  intro q target hq
  rw [List.prefix_nil.mp hq]
  rintro ⟨⟩

/-- A place on the way to one without links has none either. -/
theorem LinkFree.of_prefix {p q : Place} (h : t.LinkFree p) (hq : q <+: p) : t.LinkFree q :=
  fun r target hr => h r target (hr.trans hq)

/-- One more name that is not a link's adds none. -/
theorem LinkFree.concat {p : Place} {name : Text} (h : t.LinkFree p)
    (hname : ∀ target, t.item? (p ++ [name]) ≠ some (.link target)) : t.LinkFree (p ++ [name]) := by
  intro q target hq
  rcases List.prefix_concat_iff.mp hq with rfl | hq
  · exact hname target
  · exact h q target hq

/-- The place at which a link's target starts has no links where the link's directory has none. -/
theorem LinkFree.startOf {p : Place} (h : t.LinkFree p) (path : Text) :
    t.LinkFree (FileTree.startOf p path) := by
  rw [FileTree.startOf]
  split
  next => exact t.linkFree_nil
  next => exact h

theorem plain_nil : Plain [] := fun _ h => nomatch h

theorem Plain.dropLast {p : Place} (h : Plain p) : Plain p.dropLast :=
  fun name hname => h name (p.dropLast_prefix.subset hname)

theorem Plain.concat {p : Place} {name : Text} (h : Plain p) (hhere : ¬ isHere name = true)
    (hup : name ≠ Path.up) : Plain (p ++ [name]) := by
  intro other hother
  rcases List.mem_append.mp hother with hp | hlast
  · exact h other hp
  · rw [List.mem_singleton.mp hlast]
    exact ⟨Bool.eq_false_iff.mpr hhere, hup⟩

theorem Plain.startOf {p : Place} (h : Plain p) (path : Text) : Plain (FileTree.startOf p path) := by
  rw [FileTree.startOf]
  split
  next => exact plain_nil
  next => exact h

/-! ## Resolving -/

/-- A path on which a link is met that leads back to itself. -/
def Circles (t : FileTree) (path : Path) : Prop :=
  ∃ names, t.resolve [] (if path.isAbsolute then [] else t.workingDirectory) path.names =
    .circle names

/-- A path that is resolved to a place without links, if it is resolved. -/
def Unlinked (t : FileTree) (path : Path) : Prop := ∀ p, t.resolved path = .ok p → t.LinkFree p

/-- **No link is left in a place that resolving answers.** -/
theorem linkFree_of_resolve {busy : List Place} {p q : Place} {names : List Text}
    (h : t.resolve busy p names = .place q) (hfree : t.LinkFree p) : t.LinkFree q := by
  fun_induction resolve t busy p names generalizing q with
  | case1 => cases h; exact hfree
  | case2 _ _ _ _ _ ih => exact ih h hfree
  | case3 _ p _ _ ih => exact ih h (hfree.of_prefix p.dropLast_prefix)
  | case4 => cases h
  | case5 => cases h
  | case6 _ _ _ _ _ _ target _ _ inner hinner ihinner ih =>
    exact ih h (ihinner hinner (hfree.startOf target))
  | case7 _ _ _ _ _ _ hlink ih => exact ih h (hfree.concat fun target => hlink target)

/-- The names of a place that resolving answers are names that something can have. -/
theorem plain_of_resolve {busy : List Place} {p q : Place} {names : List Text}
    (h : t.resolve busy p names = .place q) (hplain : Plain p) : Plain q := by
  fun_induction resolve t busy p names generalizing q with
  | case1 => cases h; exact hplain
  | case2 _ _ _ _ _ ih => exact ih h hplain
  | case3 _ _ _ _ ih => exact ih h hplain.dropLast
  | case4 => cases h
  | case5 => cases h
  | case6 _ _ _ _ hhere hup target _ _ inner hinner ihinner ih =>
    exact ih h (ihinner hinner (hplain.startOf target))
  | case7 _ _ _ _ hhere hup _ ih => exact ih h (hplain.concat hhere hup)

/-- So are the names of a place that is settled without looking at links. -/
theorem plain_settled {p : Place} (hplain : Plain p) (names : List Text) : Plain (settled p names) := by
  fun_induction settled p names with
  | case1 => exact hplain
  | case2 _ _ _ _ ih => exact ih hplain
  | case3 _ _ _ ih => exact ih hplain.dropLast
  | case4 _ _ _ hhere hup ih => exact ih (hplain.concat hhere hup)

/-- The names of a resolved absolute path are names that something can have. -/
theorem plain_of_resolved {path : Path} {p : Place} (habsolute : path.isAbsolute = true)
    (h : t.resolved path = .ok p) : Plain p := by
  rw [resolved, if_pos habsolute] at h
  split at h
  next => cases h
  next =>
    split at h
    next hresolve =>
      cases h
      exact plain_of_resolve hresolve plain_nil
    next names _ =>
      simp only at h
      split at h
      next => cases h
      next =>
        cases h
        exact plain_settled plain_nil names

/-- An absolute path is resolved to a place without links, unless it meets one that leads back to
itself. -/
theorem unlinked_of_not_circles {path : Path} (habsolute : path.isAbsolute = true)
    (hcircles : ¬ t.Circles path) : t.Unlinked path := by
  intro p h
  rw [resolved, if_pos habsolute] at h
  split at h
  next => cases h
  next =>
    split at h
    next hresolve =>
      cases h
      exact linkFree_of_resolve hresolve t.linkFree_nil
    next names hresolve =>
      refine absurd ⟨names, ?_⟩ hcircles
      rw [if_pos habsolute]
      exact hresolve

/-! ## Walking -/

/-- A walk goes on from a directory, by a name that is not a link's. -/
theorem walk_cons_of_directory {links : Nat} {p : Place} {name : Text} {rest : List Text}
    (hdirectory : t.item? p = some .directory) (hname : isHere name = false ∧ name ≠ Path.up)
    (hsize : size name ≤ longestName)
    (hlink : ∀ target, t.item? (p ++ [name]) ≠ some (.link target)) :
    t.walk links p (name :: rest) = t.walk links (p ++ [name]) rest := by
  have hlong : ¬ longestName < size name := Nat.not_lt.mpr hsize
  rw [walk]
  simp only [hdirectory, hname.1, hname.2, hlong, Bool.false_eq_true, if_false]

/-- A walk goes on from directories only. -/
theorem directory_of_walk_cons {links : Nat} {p q : Place} {name : Text} {rest : List Text}
    (h : t.walk links p (name :: rest) = .ok q) : t.item? p = some .directory := by
  rw [walk] at h
  split at h
  next => cases h
  next => cases h
  next => cases h
  next hdirectory => exact hdirectory

/-- A walk takes a name only where the system does. -/
theorem size_of_walk_cons {links : Nat} {p q : Place} {name : Text} {rest : List Text}
    (h : t.walk links p (name :: rest) = .ok q) (hname : isHere name = false ∧ name ≠ Path.up) :
    size name ≤ longestName := by
  have hdirectory := directory_of_walk_cons h
  refine Nat.not_lt.mp fun hlong => ?_
  rw [walk, hdirectory] at h
  simp only [hname.1, hname.2, hlong, Bool.false_eq_true, if_false, if_true] at h
  cases h

/-- **A walk along names without links arrives where they say**, if it walks from directory to directory
and the system takes every name. -/
theorem walk_eq_ok_iff {links : Nat} {p q : Place} {names : List Text}
    (hfree : t.LinkFree (p ++ names)) (hplain : Plain names) :
    t.walk links p names = .ok q ↔
      q = p ++ names ∧
        (∀ front rest, names = front ++ rest → rest ≠ [] →
          t.item? (p ++ front) = some .directory) ∧
        ∀ name ∈ names, size name ≤ longestName := by
  induction names generalizing p with
  | nil => simp [walk, eq_comm]
  | cons name rest ih =>
    obtain ⟨hname, hrest⟩ := List.forall_mem_cons.mp hplain
    have hnext : p ++ name :: rest = (p ++ [name]) ++ rest := by simp
    rw [hnext] at hfree ⊢
    -- The place of the first name is on the way, so it is no link.
    have hlink (target : Text) : t.item? (p ++ [name]) ≠ some (.link target) :=
      hfree (p ++ [name]) target (List.prefix_append ..)
    constructor
    · intro h
      have hdirectory := directory_of_walk_cons h
      have hsize := size_of_walk_cons h hname
      rw [walk_cons_of_directory hdirectory hname hsize hlink, ih hfree hrest] at h
      obtain ⟨hq, hway, hsizes⟩ := h
      refine ⟨hq, fun front after hsplit hafter => ?_, List.forall_mem_cons.mpr ⟨hsize, hsizes⟩⟩
      cases front with
      | nil => rwa [List.append_nil]
      | cons first front =>
        rw [List.cons_append] at hsplit
        obtain ⟨rfl, hrest⟩ := List.cons.inj hsplit
        rw [← hway front after hrest hafter]
        simp
    · rintro ⟨hq, hway, hsizes⟩
      obtain ⟨hsize, hsizes⟩ := List.forall_mem_cons.mp hsizes
      have hdirectory : t.item? p = some .directory := by
        simpa using hway [] (name :: rest) rfl (List.cons_ne_nil name rest)
      rw [walk_cons_of_directory hdirectory hname hsize hlink, ih hfree hrest]
      refine ⟨hq, fun front after hsplit hafter => ?_, hsizes⟩
      rw [← hway (name :: front) after (by rw [hsplit]; rfl) hafter]
      simp

/-! ## Files at places -/

/-- A file at a place to which directories alone lead. Such a place is fully resolved. -/
structure FileAt (t : FileTree) (p : Place) (bytes : ByteArray) : Prop where
  way : ∀ q, q <+: p → q ≠ p → t.item? q = some .directory
  file : t.item? p = some (.file bytes)

/-- A place whose path the system takes. -/
structure Fits (p : Place) : Prop where
  path : size ('/' :: Text.joined ['/'] p) ≤ longestPath
  names : ∀ name ∈ p, size name ≤ longestName

/-- There is no link where a file is fully resolved. -/
theorem FileAt.linkFree {p : Place} {bytes : ByteArray} (h : t.FileAt p bytes) : t.LinkFree p := by
  intro q target hq hlink
  by_cases hp : q = p
  · rw [hp, h.file] at hlink
    cases hlink
  · rw [h.way q hq hp] at hlink
    cases hlink

/-- What is found at a place stands where the walk along it arrives. -/
theorem itemAt_eq_ok_iff {p : Place} {item : Item} :
    t.itemAt p = .ok item ↔ size ('/' :: Text.joined ['/'] p) ≤ longestPath ∧
      ∃ q, t.walk mostLinks [] p = .ok q ∧ t.item? q = some item := by
  rw [itemAt]
  by_cases hlong : longestPath < size ('/' :: Text.joined ['/'] p)
  · rw [if_pos hlong]
    exact iff_of_false (fun h => nomatch h) fun h => absurd hlong (Nat.not_lt.mpr h.1)
  · rw [if_neg hlong, and_iff_right (Nat.not_lt.mp hlong), bind_eq_ok_iff]
    refine exists_congr fun q => and_congr_right fun _ => ?_
    cases t.item? q with
    | none => exact iff_of_false nofun nofun
    | some found => simp [pure, Except.pure]

/-- **What the system finds at a place without links is the file that stands there.** -/
theorem itemAt_eq_file_iff {p : Place} {bytes : ByteArray} (hfree : t.LinkFree p) (hplain : Plain p) :
    t.itemAt p = .ok (.file bytes) ↔ t.FileAt p bytes ∧ Fits p := by
  have hwalk (q : Place) : t.walk mostLinks [] p = .ok q ↔
      q = p ∧ (∀ front rest, p = front ++ rest → rest ≠ [] → t.item? front = some .directory) ∧
        ∀ name ∈ p, size name ≤ longestName := by
    simpa using walk_eq_ok_iff (t := t) (p := []) (q := q) (by simpa) hplain
  rw [itemAt_eq_ok_iff]
  constructor
  · rintro ⟨hsize, q, hq, hitem⟩
    obtain ⟨rfl, hway, hsizes⟩ := (hwalk q).mp hq
    refine ⟨⟨fun front ⟨rest, hfront⟩ hne => ?_, hitem⟩, hsize, hsizes⟩
    refine hway front rest hfront.symm fun hrest => hne ?_
    rw [← hfront, hrest, List.append_nil]
  · rintro ⟨⟨hway, hfile⟩, hsize, hsizes⟩
    refine ⟨hsize, p, (hwalk p).mpr ⟨rfl, fun front rest hsplit hrest => ?_, hsizes⟩, hfile⟩
    refine hway front ⟨rest, hsplit.symm⟩ fun hfront => hrest ?_
    exact List.append_cancel_left (hfront ▸ hsplit.symm.trans (List.append_nil p).symm)

end FileTree

end Stencil
