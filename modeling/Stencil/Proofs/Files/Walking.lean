import Stencil.Proofs.Files.Resolution

/-!
# Walking and resolving

A path leads to a place in two ways. The system walks from directory to directory, follows links as they
come, and gives up at the first name that is amiss. Resolving follows links one inside the other and asks
for nothing to be there. Where a walk arrives, resolving arrives too, at the same place
(`resolve_of_walk`). So what a program finds by a path, a store over a directory finds below the
directory (`readBelow_of_readText`).

Resolving might stop short of the place at a link that leads back to itself. No walk goes along such a
link: a walk that comes to it comes to it again before it is done with it, each time with fewer links
that it may still follow (`walk_ne_ok_of_circle`).
-/

namespace Stencil

/-! ## Paths and their texts -/

namespace Text

variable {separator c : Char}

/-- Cutting a text at a character is what the library has as `List.splitOn`. -/
theorem parts_eq_splitOn (separator : Char) (s : Text) : parts separator s = s.splitOn separator := by
  induction s with
  | nil => exact (List.splitOn_nil separator).symm
  | cons c rest ih =>
    rw [parts, List.splitOn_cons_eq_if_modifyHead, ih]
    simp only [beq_iff_eq]
    congr 1
    cases hparts : rest.splitOn separator with
    | nil => exact absurd hparts (List.splitOn_ne_nil separator rest)
    | cons part others => rfl

/-- Each separator in front of a text makes an empty part. -/
theorem parts_replicate (separator : Char) (n : Nat) (s : Text) :
    parts separator (List.replicate n separator ++ s) = List.replicate n [] ++ parts separator s := by
  induction n with
  | zero => rfl
  | succ n ih =>
    rw [List.replicate_succ, List.cons_append, parts, if_pos rfl, ih]
    rfl

theorem joined_cons_cons (separator : Text) (first second : Text) (rest : List Text) :
    joined separator (first :: second :: rest) =
      first ++ (separator ++ joined separator (second :: rest)) := by
  rw [joined, List.intercalate_cons_cons, List.append_assoc]
  rfl

theorem joined_singleton (separator part : Text) : joined separator [part] = part :=
  List.intercalate_singleton

/-- Another character than the separator is in a joined text when it is in a part. -/
theorem mem_joined_iff (hc : c ≠ separator) {parts : List Text} :
    c ∈ joined [separator] parts ↔ ∃ part ∈ parts, c ∈ part := by
  induction parts with
  | nil => exact iff_of_false List.not_mem_nil fun ⟨_, h, _⟩ => nomatch h
  | cons first rest ih =>
    cases rest with
    | nil => simp only [joined_singleton, List.mem_singleton, exists_eq_left]
    | cons second rest =>
      rw [joined_cons_cons, List.mem_append, List.mem_append, List.mem_singleton, ih,
        or_iff_right hc]
      simp only [List.mem_cons, exists_eq_or_imp]

/-- A joined text with one more separator is its parts with one behind each. -/
theorem joined_append_separator {parts : List Text} (h : parts ≠ []) :
    joined [separator] parts ++ [separator] = parts.flatMap (· ++ [separator]) := by
  induction parts with
  | nil => exact absurd rfl h
  | cons first rest ih =>
    cases rest with
    | nil => rw [joined_singleton, List.flatMap_singleton]
    | cons second rest =>
      rw [joined_cons_cons, List.flatMap_cons, ← ih (List.cons_ne_nil _ _)]
      simp only [List.append_assoc]

end Text

namespace Path

/-- A path in its normal form, as a text means it. -/
structure Normal (p : Path) : Prop where
  slashes : p.slashes ≤ 2
  names : ∀ name ∈ p.names, FileTree.isHere name = false ∧ '/' ∉ name

/-- What a text means is in normal form. -/
theorem normal_ofText (s : Text) : (ofText s).Normal where
  slashes := by
    show leading s ≤ 2
    unfold leading
    split <;> decide
  names name h := by
    obtain ⟨hparts, hname⟩ := List.mem_filter.mp h
    refine ⟨?_, Text.notMem_of_mem_parts hparts⟩
    simpa [FileTree.isHere] using hname

theorem Normal.within {base p : Path} (hbase : base.Normal) (hp : p.Normal) :
    (base.within p).Normal := by
  rw [Path.within]
  split
  next => exact hp
  next => exact ⟨hbase.slashes, List.forall_mem_append.mpr ⟨hbase.names, hp.names⟩⟩

/-- Names that are read inside of a directory stand behind those of the directory. -/
theorem within_of_relative {base p : Path} (h : p.isAbsolute = false) :
    base.within p = ⟨base.slashes, base.names ++ p.names⟩ := by
  rw [Path.within, h]
  rfl

theorem within_of_absolute {base p : Path} (h : p.isAbsolute = true) : base.within p = p := by
  rw [Path.within, h]
  rfl

/-- Without its leading slashes, the text of a path does not begin with a slash. -/
theorem Normal.head?_joined {p : Path} (h : p.Normal) :
    (Text.joined ['/'] p.names).head? ≠ some '/' := by
  obtain ⟨slashes, names⟩ := p
  cases names with
  | nil => exact fun h => nomatch h
  | cons first rest =>
    obtain ⟨hhere, hslash⟩ := h.names first List.mem_cons_self
    cases first with
    | nil => cases hhere
    | cons c name =>
      have hhead : (Text.joined ['/'] ((c :: name) :: rest)).head? = some c := by
        cases rest with
        | nil => rw [Text.joined_singleton]; rfl
        | cons second rest => rw [Text.joined_cons_cons]; rfl
      rw [hhead]
      rintro ⟨⟩
      exact hslash List.mem_cons_self

/-- The text of a path that has names. -/
theorem toText_of_names {p : Path} (h : p.names ≠ []) :
    p.toText = List.replicate p.slashes '/' ++ Text.joined ['/'] p.names := by
  rw [toText, if_neg fun hnone => h hnone.2]

/-- The parts of a path's text are its names, behind an empty part for each leading slash. -/
theorem Normal.parts_toText {p : Path} (h : p.Normal) (hnames : p.names ≠ []) :
    Text.parts '/' p.toText = List.replicate p.slashes [] ++ p.names := by
  rw [toText_of_names hnames, Text.parts_replicate, Text.parts_eq_splitOn, Text.joined,
    List.splitOn_intercalate '/' (fun name hname => (h.names name hname).2) hnames]

/-- A path's text begins with as many slashes as the path has. -/
theorem Normal.leading_toText {p : Path} (h : p.Normal) : leading p.toText = p.slashes := by
  have htake (s : Text) (hs : s.head? ≠ some '/') :
      ((List.replicate p.slashes '/' ++ s).takeWhile (· == '/')).length = p.slashes := by
    rw [List.takeWhile_append_of_pos (by simp)]
    cases s with
    | nil => simp
    | cons c rest =>
      have hc : ¬ (c == '/') = true := fun hc => hs (congrArg some (beq_iff_eq.mp hc))
      have hrest : (c :: rest).takeWhile (· == '/') = [] := List.takeWhile_cons_of_neg hc
      rw [hrest, List.append_nil, List.length_replicate]
  rw [toText]
  split
  next hnone =>
    rw [hnone.1]
    rfl
  next =>
    rw [leading, htake _ h.head?_joined]
    exact match p.slashes, h.slashes with
      | 0, _ | 1, _ | 2, _ => rfl

/-- **The text of a path in normal form means that path.** -/
theorem Normal.ofText_toText {p : Path} (h : p.Normal) : ofText p.toText = p := by
  have hnames : (Text.parts '/' p.toText).filter (fun name => name ≠ [] ∧ name ≠ here) = p.names := by
    have hkeep : p.names.filter (fun name => name ≠ [] ∧ name ≠ here) = p.names := by
      refine List.filter_eq_self.mpr fun name hname => ?_
      simpa [FileTree.isHere] using (h.names name hname).1
    by_cases hnil : p.names = []
    · rw [hnil, toText]
      split
      next => rfl
      next =>
        rw [hnil, Text.parts_replicate]
        simp [Text.joined, Text.parts]
    · rw [h.parts_toText hnil, List.filter_append, hkeep]
      simp
  rw [ofText, h.leading_toText, hnames]

/-- Where a path's text starts. -/
theorem Normal.startOf_toText {p : Path} (h : p.Normal) (dir : Place) :
    FileTree.startOf dir p.toText = if p.isAbsolute then [] else dir := by
  have hhead : p.toText.head? = some '/' ↔ p.slashes ≠ 0 := by
    rw [toText]
    split
    next hnone => exact iff_of_false (fun h => nomatch h) fun h => h hnone.1
    next =>
      cases p.slashes with
      | zero => exact iff_of_false h.head?_joined fun h => h rfl
      | succ n => exact iff_of_true rfl (Nat.succ_ne_zero n)
  simp only [FileTree.startOf, isAbsolute, hhead, bne_iff_ne]

/-- A character that is no slash and no dot is in the text of a path when it is in a name. -/
theorem mem_toText_iff {p : Path} {c : Char} (hslash : c ≠ '/') (hdot : c ≠ '.') :
    c ∈ p.toText ↔ ∃ name ∈ p.names, c ∈ name := by
  rw [toText]
  split
  next hnone =>
    rw [hnone.2]
    exact iff_of_false (by simpa [here] using hdot) fun ⟨_, h, _⟩ => nomatch h
  next =>
    rw [List.mem_append, or_iff_right fun h => hslash (List.eq_of_mem_replicate h),
      Text.mem_joined_iff hslash]

end Path

namespace FileTree

variable {t : FileTree} {busy : List Place} {links : Nat} {p q : Place} {name : Text}
  {names rest : List Text}

theorem size_cons (c : Char) (s : Text) : size (c :: s) = c.utf8Size + size s := by
  rw [size, ← List.singleton_append, String.ofList_append, String.utf8ByteSize_append]
  simp [size]

theorem length_le_size (s : Text) : s.length ≤ size s := by
  induction s with
  | nil => exact Nat.zero_le _
  | cons c rest ih =>
    have hpos := c.utf8Size_pos
    rw [size_cons, List.length_cons]
    omega

/-! ## One name of a walk -/

/-- A name for the directory itself is passed over in a directory. -/
theorem walk_cons_of_here (hdirectory : t.item? p = some .directory) (hhere : isHere name = true) :
    t.walk links p (name :: rest) = t.walk links p rest := by
  rw [walk, hdirectory]
  simp only [hhere, if_true]

/-- A walk goes back to the enclosing directory from a directory. -/
theorem walk_cons_of_up (hdirectory : t.item? p = some .directory) :
    t.walk links p (Path.up :: rest) = t.walk links p.dropLast rest := by
  have hhere : isHere Path.up = false := rfl
  rw [walk, hdirectory]
  simp only [hhere, Bool.false_eq_true, if_false, if_true]

/-- A name for the directory itself is passed over. -/
theorem walk_of_here (h : t.walk links p (name :: rest) = .ok q) (hhere : isHere name = true) :
    t.walk links p rest = .ok q := by
  rwa [walk_cons_of_here (directory_of_walk_cons h) hhere] at h

/-- Empty names, such as leading slashes make, are passed over. -/
theorem walk_of_replicate {n : Nat} (h : t.walk links p (List.replicate n [] ++ names) = .ok q) :
    t.walk links p names = .ok q := by
  induction n with
  | zero => exact h
  | succ n ih => exact ih (walk_of_here h rfl)

theorem walk_replicate (hdirectory : t.item? p = some .directory) (n : Nat) :
    t.walk links p (List.replicate n [] ++ names) = t.walk links p names := by
  induction n with
  | zero => rfl
  | succ n ih =>
    rw [List.replicate_succ, List.cons_append, walk_cons_of_here hdirectory rfl]
    exact ih

/-- The name for the enclosing directory leads there. -/
theorem walk_of_up (h : t.walk links p (Path.up :: rest) = .ok q) :
    t.walk links p.dropLast rest = .ok q := by
  rwa [walk_cons_of_up (directory_of_walk_cons h)] at h

/-- The name of a link is walked along the link's target, with one link less to follow. -/
theorem walk_of_link {target : Text} (h : t.walk links p (name :: rest) = .ok q)
    (hname : isHere name = false ∧ name ≠ Path.up)
    (hlink : t.item? (p ++ [name]) = some (.link target)) :
    ∃ left, links = left + 1 ∧
      t.walk left (startOf p target) (Text.parts '/' target ++ rest) = .ok q := by
  have hdirectory := directory_of_walk_cons h
  have hlong : ¬ longestName < size name := Nat.not_lt.mpr (size_of_walk_cons h hname)
  rw [walk, hdirectory] at h
  simp only [hname.1, hname.2, hlong, Bool.false_eq_true, if_false, hlink] at h
  cases links with
  | zero => cases h
  | succ left => exact ⟨left, rfl, h⟩

/-- A walk goes on along a link's target, if it may still follow one. -/
theorem walk_cons_of_link {target : Text} (hdirectory : t.item? p = some .directory)
    (hname : isHere name = false ∧ name ≠ Path.up) (hsize : size name ≤ longestName)
    (hlink : t.item? (p ++ [name]) = some (.link target)) :
    t.walk (links + 1) p (name :: rest) =
      t.walk links (startOf p target) (Text.parts '/' target ++ rest) := by
  have hlong : ¬ longestName < size name := Nat.not_lt.mpr hsize
  rw [walk]
  simp only [hdirectory, hname.1, hname.2, hlong, Bool.false_eq_true, if_false, hlink]

/-- Any other name is walked to. -/
theorem walk_of_name (h : t.walk links p (name :: rest) = .ok q)
    (hname : isHere name = false ∧ name ≠ Path.up)
    (hlink : ∀ target, t.item? (p ++ [name]) ≠ some (.link target)) :
    t.walk links (p ++ [name]) rest = .ok q := by
  rwa [walk_cons_of_directory (directory_of_walk_cons h) hname (size_of_walk_cons h hname) hlink] at h

/-! ## Walks along what is resolved -/

/-- A walk along names that are resolved to a place comes to that place, and goes on from there. -/
theorem walk_of_place {place : Place} (hplace : t.resolve busy p names = .place place)
    (h : t.walk links p (names ++ rest) = .ok q) :
    ∃ left ≤ links, t.walk left place rest = .ok q := by
  fun_induction resolve t busy p names generalizing place links rest with
  | case1 =>
    cases hplace
    exact ⟨links, Nat.le_refl links, h⟩
  | case2 _ _ _ _ hhere ih => exact ih hplace (walk_of_here h hhere)
  | case3 _ _ _ _ ih => exact ih hplace (walk_of_up h)
  | case4 => cases hplace
  | case5 => cases hplace
  | case6 busy p name after hhere hup target hlink hidle inner hinner ihinner ih =>
    have hname : isHere name = false ∧ name ≠ Path.up := ⟨Bool.eq_false_iff.mpr hhere, hup⟩
    -- The target is walked first, and what is behind the link from where that leads.
    obtain ⟨left, rfl, htarget⟩ := walk_of_link h hname hlink
    obtain ⟨fewer, hfewer, hafter⟩ := ihinner hinner htarget
    obtain ⟨fewest, hfewest, hrest⟩ := ih hplace hafter
    exact ⟨fewest, by omega, hrest⟩
  | case7 _ _ _ _ hhere hup hlink ih =>
    exact ih hplace (walk_of_name h ⟨Bool.eq_false_iff.mpr hhere, hup⟩ fun target => hlink target)

/-- No walk that may follow so many links, or fewer, goes by a place. -/
def Barred (t : FileTree) (links : Nat) (place : Place) : Prop :=
  ∀ left ≤ links, ∀ p name rest q, p ++ [name] = place → t.walk left p (name :: rest) ≠ .ok q

theorem Barred.mono {fewer : Nat} {place : Place} (h : t.Barred links place)
    (hfewer : fewer ≤ links) : t.Barred fewer place :=
  fun left hleft => h left (Nat.le_trans hleft hfewer)

/-- **No walk goes along names on which a link is met that leads back to itself**, when none can go by
the links that are being followed. -/
theorem walk_ne_ok_of_circle {remaining : List Text} (hcircle : t.resolve busy p names = .circle remaining)
    (hbusy : ∀ b ∈ busy, t.Barred links b) (rest : List Text) (q : Place) :
    t.walk links p (names ++ rest) ≠ .ok q := by
  fun_induction resolve t busy p names generalizing remaining links rest q with
  | case1 => cases hcircle
  | case2 _ _ _ _ hhere ih => exact fun h => ih hcircle hbusy _ _ (walk_of_here h hhere)
  | case3 _ _ _ _ ih => exact fun h => ih hcircle hbusy _ _ (walk_of_up h)
  | case4 busy p name after hhere hup target hlink hmem =>
    exact hbusy (p ++ [name]) hmem links (Nat.le_refl links) p name _ q rfl
  | case5 busy p name after hhere hup target hlink hidle inner hinner ihinner =>
    have hname : isHere name = false ∧ name ≠ Path.up := ⟨Bool.eq_false_iff.mpr hhere, hup⟩
    -- By induction on the links that are left: the target is barred because the link is, with fewer.
    have hbarred : ∀ fewer ≤ links, t.Barred fewer (p ++ [name]) := by
      intro fewer
      induction fewer using Nat.strongRecOn with
      | ind fewer ihfewer =>
        intro hfewer left hleft p' name' rest' q' heq h
        obtain ⟨rfl, hlast⟩ := List.append_inj' heq rfl
        cases hlast
        obtain ⟨less, rfl, htarget⟩ := walk_of_link h hname hlink
        refine ihinner hinner (List.forall_mem_cons.mpr ⟨?_, fun b hb => ?_⟩) _ _ htarget
        · exact ihfewer less (by omega) (by omega)
        · exact (hbusy b hb).mono (by omega)
    exact hbarred links (Nat.le_refl links) links (Nat.le_refl links) p name _ q rfl
  | case6 busy p name after hhere hup target hlink hidle inner hinner ihinner ih =>
    intro h
    have hname : isHere name = false ∧ name ≠ Path.up := ⟨Bool.eq_false_iff.mpr hhere, hup⟩
    obtain ⟨left, rfl, htarget⟩ := walk_of_link h hname hlink
    obtain ⟨fewer, hfewer, hafter⟩ := walk_of_place hinner htarget
    exact ih hcircle (fun b hb => (hbusy b hb).mono (by omega)) _ _ hafter
  | case7 _ _ _ _ hhere hup hlink ih =>
    exact fun h => ih hcircle hbusy _ _
      (walk_of_name h ⟨Bool.eq_false_iff.mpr hhere, hup⟩ fun target => hlink target)

/-- The names that a walk begins with are resolved to a place, and the walk goes on from there. -/
theorem resolve_of_walk_append (h : t.walk links p (names ++ rest) = .ok q) :
    ∃ place left, t.resolve [] p names = .place place ∧ t.walk left place rest = .ok q := by
  cases hresolve : t.resolve [] p names with
  | circle remaining => exact absurd h (walk_ne_ok_of_circle hresolve (fun _ hb => nomatch hb) rest q)
  | place place =>
    obtain ⟨left, -, hleft⟩ := walk_of_place hresolve h
    exact ⟨place, left, rfl, hleft⟩

/-- **Where a walk arrives, resolving arrives.** -/
theorem resolve_of_walk (h : t.walk links p names = .ok q) : t.resolve [] p names = .place q := by
  rw [← List.append_nil names] at h
  obtain ⟨place, left, hresolve, hwalk⟩ := resolve_of_walk_append h
  rw [walk] at hwalk
  rw [hresolve, Except.ok.inj hwalk]

/-- Names of a place without links are resolved one by one. -/
theorem resolve_append_of_linkFree (hfree : t.LinkFree (p ++ names)) (hplain : Plain names) :
    t.resolve busy p (names ++ rest) = t.resolve busy (p ++ names) rest := by
  induction names generalizing p with
  | nil => rw [List.append_nil, List.nil_append]
  | cons name names ih =>
    obtain ⟨hname, hnames⟩ := List.forall_mem_cons.mp hplain
    have hnext : p ++ name :: names = (p ++ [name]) ++ names := by simp
    rw [hnext] at hfree ⊢
    have hlink (target : Text) : t.item? (p ++ [name]) ≠ some (.link target) :=
      hfree (p ++ [name]) target (List.prefix_append ..)
    rw [List.cons_append, resolve]
    simp only [hname.1, hname.2, Bool.false_eq_true, if_false]
    exact ih hfree hnames

/-! ## Trees as they are kept -/

/-- A tree as a system keeps it: what is there stands in directories, under names that it takes. -/
structure Sound (t : FileTree) : Prop where
  way : ∀ p item, t.item? p = some item → ∀ q, q <+: p → q ≠ p → t.item? q = some .directory
  names : ∀ p item, t.item? p = some item → ∀ name ∈ p,
    isHere name = false ∧ name ≠ Path.up ∧ Text.nul ∉ name ∧ size name ≤ longestName

namespace Sound

variable (hsound : t.Sound)
include hsound

/-- The names of a place at which something stands are names that something can have. -/
theorem plain {item : Item} (h : t.item? p = some item) : Plain p :=
  fun name hname => ⟨(hsound.names p item h name hname).1, (hsound.names p item h name hname).2.1⟩

/-- There is no link on the way to a directory. -/
theorem linkFree_of_directory (h : t.item? p = some .directory) : t.LinkFree p := by
  intro q target hq hlink
  by_cases hp : q = p
  · cases (hp ▸ hlink).symm.trans h
  · cases (hsound.way p _ h q hq hp).symm.trans hlink

/-- What the system finds at the place of a file is that file, if the place is not too long for it. -/
theorem itemAt_of_file {bytes : ByteArray} (h : t.item? p = some (.file bytes))
    (hsize : size ('/' :: Text.joined ['/'] p) ≤ longestPath) : t.itemAt p = .ok (.file bytes) := by
  have hfile : t.FileAt p bytes := ⟨hsound.way p _ h, h⟩
  refine (itemAt_eq_file_iff hfile.linkFree (hsound.plain h)).mpr ⟨hfile, hsize, fun name hname => ?_⟩
  exact (hsound.names p _ h name hname).2.2.2

end Sound

/-- Whether everything in a tree stands in directories, under names that a system takes. -/
def isKept (t : FileTree) : Bool :=
  t.items.all fun (p, _) =>
    ((List.range p.length).all fun n => match t.item? (p.take n) with
      | some .directory => true
      | _ => false) &&
    p.all fun name => !isHere name && name != Path.up && !name.contains Text.nul &&
      size name ≤ longestName

theorem mem_items_of_find? {item : Item} {items : List (Place × Item)} (h : find? p items = some item) :
    (p, item) ∈ items := by
  induction items with
  | nil => cases h
  | cons entry items ih =>
    obtain ⟨q, other⟩ := entry
    rw [find?] at h
    split at h
    next hq =>
      cases h
      rw [hq]
      exact List.mem_cons_self
    next => exact List.mem_cons_of_mem _ (ih h)

/-- A tree that passes the check is kept as a system keeps it. -/
theorem sound_of_isKept (h : t.isKept = true) : t.Sound := by
  have hitems (p : Place) (item : Item) (hitem : t.item? p = some item) :
      p = [] ∨ (p, item) ∈ t.items := by
    rw [item?] at hitem
    split at hitem
    next hp => exact .inl hp
    next => exact .inr (mem_items_of_find? hitem)
  rw [isKept, List.all_eq_true] at h
  constructor
  · intro p item hitem q hq hne
    rcases hitems p item hitem with rfl | hmem
    · exact absurd (List.prefix_nil.mp hq) hne
    · have hway := (Bool.and_eq_true_iff.mp (h _ hmem)).1
      have hlength : q.length < p.length := by
        refine Nat.lt_of_le_of_ne hq.length_le fun heq => hne (hq.eq_of_length heq)
      have hdirectory := List.all_eq_true.mp hway q.length (List.mem_range.mpr hlength)
      rw [← List.prefix_iff_eq_take.mp hq] at hdirectory
      split at hdirectory
      next hfound => exact hfound
      next => cases hdirectory
  · intro p item hitem name hname
    rcases hitems p item hitem with rfl | hmem
    · cases hname
    · have hnames := (Bool.and_eq_true_iff.mp (h _ hmem)).2
      simpa [and_assoc] using List.all_eq_true.mp hnames name hname

/-! ## Templates by path and by name -/

/-- A path leads to a place when the system takes its text, and a walk along its parts arrives there. -/
theorem locate_eq_ok_iff {path : Text} : t.locate path = .ok q ↔
    Text.nul ∉ path ∧ path ≠ [] ∧ size path ≤ longestPath ∧
      t.walk mostLinks (startOf t.workingDirectory path) (Text.parts '/' path) = .ok q := by
  unfold locate
  split
  next hnul => exact iff_of_false nofun fun h => h.1 hnul
  next hnul =>
    split
    next hempty => exact iff_of_false nofun fun h => h.2.1 hempty
    next hempty =>
      split
      next hlong => exact iff_of_false nofun fun h => Nat.not_lt.mpr h.2.2.1 hlong
      next hsize => simp only [hnul, hempty, Nat.not_lt.mp hsize, not_false_eq_true, ne_eq, true_and]

/-- A text that is read by a path is in a file where a walk along the path arrives. -/
theorem walk_of_readText {path : Path} {source : Text} (hpath : path.Normal) (hnames : path.names ≠ [])
    (h : t.readText path.toText = .ok source) :
    Text.nul ∉ path.toText ∧ ∃ q bytes,
      t.walk mostLinks (if path.isAbsolute then [] else t.workingDirectory) path.names = .ok q ∧
        t.item? q = some (.file bytes) ∧ textOf bytes = .ok source := by
  obtain ⟨item, hstat, h⟩ := bind_eq_ok_iff.mp h
  obtain ⟨bytes, hbytes, htext⟩ := bind_eq_ok_iff.mp h
  obtain ⟨q, hlocate, hitem⟩ := bind_eq_ok_iff.mp hstat
  have hfile : t.item? q = some (.file bytes) := by
    cases hq : t.item? q with
    | none =>
      rw [hq] at hitem
      cases hitem
    | some found =>
      rw [hq] at hitem
      cases hitem
      cases item <;> cases hbytes
      rfl
  obtain ⟨hnul, -, -, hwalk⟩ := locate_eq_ok_iff.mp hlocate
  rw [hpath.startOf_toText, hpath.parts_toText hnames] at hwalk
  exact ⟨hnul, q, bytes, walk_of_replicate hwalk, hfile, htext⟩

/-- A path is resolved to the place of its names, if they have one. -/
theorem resolved_of_resolve {path : Path} (hnul : Text.nul ∉ path.toText)
    (h : t.resolve [] (if path.isAbsolute then [] else t.workingDirectory) path.names = .place q) :
    t.resolved path = .ok q := by
  rw [resolved, if_neg hnul, h]

/-- Names behind those of a path that is resolved to `dir` lead to the same place from `dir`, when a walk
goes along all of them. -/
theorem Sound.resolved_below (hsound : t.Sound) {directory : Path} {dir : Place} (hnames : names ≠ [])
    (hdir : t.resolved directory = .ok dir)
    (hnul : Text.nul ∉ (⟨directory.slashes, directory.names ++ names⟩ : Path).toText)
    (h : t.walk links (if directory.isAbsolute then [] else t.workingDirectory)
      (directory.names ++ names) = .ok q) :
    t.resolved ⟨1, dir ++ names⟩ = .ok q := by
  obtain ⟨place, left, hresolve, hrest⟩ := resolve_of_walk_append h
  obtain rfl : place = dir := by
    rw [resolved, hresolve] at hdir
    split at hdir
    next => cases hdir
    next => exact Except.ok.inj hdir
  -- The walk goes on from there, so it is a directory.
  have hdirectory : t.item? place = some .directory := by
    obtain ⟨name, rest, rfl⟩ := List.exists_cons_of_ne_nil hnames
    exact directory_of_walk_cons hrest
  have hfree : t.LinkFree ([] ++ place) := hsound.linkFree_of_directory hdirectory
  have hnone : Text.nul ∉ (⟨1, place ++ names⟩ : Path).toText := by
    rw [Path.mem_toText_iff (by decide) (by decide)] at hnul ⊢
    rintro ⟨name, hname, hmem⟩
    rcases List.mem_append.mp hname with hplace | hlast
    · exact (hsound.names _ _ hdirectory name hplace).2.2.1 hmem
    · exact hnul ⟨name, List.mem_append_right _ hlast, hmem⟩
  refine resolved_of_resolve hnone ?_
  show t.resolve [] [] (place ++ names) = .place q
  rw [resolve_append_of_linkFree hfree (hsound.plain hdirectory), List.nil_append,
    resolve_of_walk hrest]

/-- **A template that is read by its path is served by its name**, from the store over the directory
that the path begins with: what the path is resolved to has to lie below that directory, and not be too
long for the system. -/
theorem readBelow_of_readText (hsound : t.Sound) {directory : Path} {template source : Text} {dir : Place}
    (hdirectory : directory.Normal) (hnames : (Path.ofText template).names ≠ [])
    (hread : t.readText (directory.within (.ofText template)).toText = .ok source)
    (hdir : t.resolved directory = .ok dir)
    (hplace : t.resolved (directory.within (.ofText template)) = .ok p) (hbelow : dir <+: p)
    (hsize : size ('/' :: Text.joined ['/'] p) ≤ longestPath) :
    t.readBelow dir template = .ok source := by
  have hnormal := hdirectory.within (Path.normal_ofText template)
  have hnonempty : (directory.within (.ofText template)).names ≠ [] := by
    rw [Path.within]
    split
    next => exact hnames
    next => exact List.append_ne_nil_of_right_ne_nil _ hnames
  obtain ⟨hnul, q, bytes, hwalk, hfile, htext⟩ := walk_of_readText hnormal hnonempty hread
  cases hplace.symm.trans (resolved_of_resolve hnul (resolve_of_walk hwalk))
  have hresolved : t.resolved (Path.within ⟨1, dir⟩ (.ofText template)) = .ok p := by
    cases habsolute : (Path.ofText template).isAbsolute with
    | true =>
      rw [Path.within_of_absolute habsolute] at hplace ⊢
      exact hplace
    | false =>
      rw [Path.within_of_relative habsolute] at hwalk hnul ⊢
      exact hsound.resolved_below hnames hdir hnul hwalk
  have hserved : t.placeBelow dir template = .ok (some p) := by
    refine bind_eq_ok_iff.mpr ⟨p, hresolved, ?_⟩
    rw [if_pos (List.isPrefixOf_iff_prefix.mpr hbelow)]
    rfl
  have hitem := hsound.itemAt_of_file hfile hsize
  refine bind_eq_ok_iff.mpr ⟨some p, hserved, ?_⟩
  simp only [hitem]
  exact htext

/-- A template at a place that is too long for the system is not served. -/
theorem readBelow_of_long {dir : Place} {path : Text}
    (hplace : t.resolved (Path.within ⟨1, dir⟩ (.ofText path)) = .ok p) (hbelow : dir <+: p)
    (hsize : longestPath < size ('/' :: Text.joined ['/'] p)) :
    t.readBelow dir path = .error .nameTooLong := by
  have hserved : t.placeBelow dir path = .ok (some p) := by
    refine bind_eq_ok_iff.mpr ⟨p, hplace, ?_⟩
    rw [if_pos (List.isPrefixOf_iff_prefix.mpr hbelow)]
    rfl
  have hitem : t.itemAt p = .error .nameTooLong := by
    rw [itemAt, if_pos hsize]
    rfl
  rw [readBelow, hserved]
  show (foundFile (t.itemAt p) >>= _) = _
  rw [hitem]
  rfl

end FileTree

end Stencil
