import Stencil.Proofs.Engine.Resolving
import Stencil.Proofs.Files.Confinement

/-!
# What a rendering leaves unreported

A template that is not found, is no text or is not written as one is reported. From a rendering out of a
directory something else can escape in four places (`Stumbles`): where candidates are looked for, where the
one candidate is read that is not looked for, where a block is counted against a limit that is no number,
and where a value of the context is shown. Nothing else ever does (`render_escapes_iff`).

Looking and reading both resolve a path first, and two kinds of path cannot be resolved: one that holds a
NUL character, and one whose links lead back to themselves (`Unresolvable`). A failure to read is reported
when it is one of the file system; that of resolving is not. A failure to look never is.
-/

namespace Stencil

variable {e : Escape}

/-! ## Resolving and reading -/

namespace FileTree

variable {t : FileTree} {dir : Place} {path : Text}

/-- A path that cannot be resolved. -/
inductive Unresolvable (t : FileTree) (path : Path) : Escape → Prop
  | nul : Text.nul ∈ path.toText → Unresolvable t path .badValue
  /-- A link on the path leads back to itself, and what is left then does as well. -/
  | circle {names : List Text} : Text.nul ∉ path.toText →
      t.resolve [] (if path.isAbsolute then [] else t.workingDirectory) path.names = .circle names →
      t.walk mostLinks [] (settled [] names) = .error .linkLoop → Unresolvable t path .unresolvable

theorem resolved_eq_error_iff {path : Path} :
    t.resolved path = .error e ↔ t.Unresolvable path e := by
  unfold resolved
  constructor
  · intro h
    split at h
    next hnul =>
      cases h
      exact .nul hnul
    next hnul =>
      split at h
      next => cases h
      next names hcircle =>
        dsimp only at h
        split at h
        next hwalk =>
          cases h
          exact .circle hnul hcircle hwalk
        next => cases h
  · rintro (hnul | ⟨hnul, hcircle, hwalk⟩)
    · exact if_pos hnul
    · simp only [if_neg hnul, hcircle, hwalk]

/-- Resolving fails in no way that the file system or the reading of a text does. -/
theorem Unresolvable.unreported {path : Path} (h : t.Unresolvable path e) :
    e.isAccess = false ∧ e ≠ .undecodable := by
  cases h with
  | nul => exact ⟨rfl, nofun⟩
  | circle => exact ⟨rfl, nofun⟩

/-- The place of a template is not told when its path cannot be resolved. -/
theorem placeBelow_eq_error_iff :
    t.placeBelow dir path = .error e ↔ t.Unresolvable (pathBelow dir path) e := by
  rw [placeBelow, ← pathBelow, bind_eq_error_iff, resolved_eq_error_iff]
  refine or_iff_left ?_
  rintro ⟨place, -, h⟩
  cases h

/-- A template of which it cannot be said whether it is there. -/
inductive Unaskable (t : FileTree) (dir : Place) (path : Text) : Escape → Prop
  | unresolvable {e : Escape} : t.Unresolvable (pathBelow dir path) e → Unaskable t dir path e
  /-- The system does not take the place that the path is resolved to. -/
  | tooLong {p : Place} : t.placeBelow dir path = .ok (some p) →
      t.itemAt p = .error .nameTooLong → Unaskable t dir path .nameTooLong

theorem hasBelow_eq_error_iff : t.hasBelow dir path = .error e ↔ t.Unaskable dir path e := by
  rw [hasBelow, bind_eq_error_iff, placeBelow_eq_error_iff]
  constructor
  · rintro (h | ⟨place, hplace, h⟩)
    · exact .unresolvable h
    · cases place with
      | none => cases h
      | some p =>
        obtain ⟨hitem, rfl⟩ := foundFile_eq_error_iff.mp h
        exact .tooLong hplace hitem
  · rintro (h | ⟨hplace, hitem⟩)
    · exact .inl h
    · exact .inr ⟨some _, hplace, foundFile_eq_error_iff.mpr ⟨hitem, rfl⟩⟩

/-- What is found at a place is kept back by the file system alone. -/
theorem isAccess_of_itemAt {p : Place} (h : t.itemAt p = .error e) : e.isAccess = true := by
  unfold itemAt at h
  split at h
  next =>
    cases h
    rfl
  next =>
    rcases bind_eq_error_iff.mp h with h | ⟨q, -, h⟩
    · exact isAccess_of_walk h
    · split at h
      next => cases h
      next =>
        cases h
        rfl

/-- **A template is not read, and the file system or its bytes are not to blame, when its path cannot be
resolved.** -/
theorem readBelow_eq_error_iff (haccess : e.isAccess = false) (hbytes : e ≠ .undecodable) :
    t.readBelow dir path = .error e ↔ t.Unresolvable (pathBelow dir path) e := by
  rw [readBelow, bind_eq_error_iff, placeBelow_eq_error_iff]
  refine or_iff_left ?_
  have hnot {d : Escape} (h : d.isAccess = true) : d ≠ e := by
    rintro rfl
    cases h.symm.trans haccess
  rintro ⟨place, -, h⟩
  cases place with
  | none =>
    cases h
    cases haccess
  | some p =>
    rcases bind_eq_error_iff.mp h with h | ⟨found, -, h⟩
    · obtain ⟨-, rfl⟩ := foundFile_eq_error_iff.mp h
      cases haccess
    · split at h
      next =>
        rcases bind_eq_error_iff.mp h with h | ⟨item, -, h⟩
        · exact hnot (isAccess_of_itemAt h) rfl
        · cases item with
          | file bytes =>
            change textOf bytes = .error e at h
            unfold textOf at h
            split at h
            next => cases h
            next =>
              cases h
              exact hbytes rfl
          | directory =>
            cases h
            cases haccess
          | link target =>
            cases h
            cases haccess
      next =>
        cases h
        cases haccess

end FileTree

/-! ## Loading -/

namespace Store

open FileTree (pathBelow)

variable {store : Store} {s : Settings} {environment : Option Text} {cache : Cache} {name : Text}

/-- From the search for a candidate escapes what a store cannot say. -/
theorem resolve_eq_escaped_iff :
    (store.resolve s name).result = .error (.escaped e) ↔
      (∀ only, s.candidates name ≠ [only]) ∧
        (store.firstPresent (s.candidates name)).result = .error e := by
  unfold resolve
  split
  next only hcandidates => exact iff_of_false nofun fun h => h.1 only hcandidates
  next hseveral =>
    rw [and_iff_right hseveral]
    dsimp only
    split
    next hfound => simp [hfound]
    next hfound => simp [hfound]
    next hfound => simp [hfound]

/-- What a failure to read is not reported as. -/
theorem readFailure_eq_escaped_iff {resolved : Text} {d : Escape} :
    readFailure s name resolved d = .escaped e ↔ d.isAccess = false ∧ d ≠ .undecodable ∧ d = e := by
  unfold readFailure
  split
  next h => simp [h]
  next h =>
    split
    next hbytes => simp [hbytes]
    next hbytes => simp [h, hbytes]

/-- From a load escapes what escapes from the search, or what keeps the candidate from being read. -/
theorem load_eq_escaped_iff :
    (store.load s environment cache name).1.result = .error (.escaped e) ↔
      (store.resolve s name).result = .error (.escaped e) ∨
        ∃ resolved, (store.resolve s name).result = .ok resolved ∧
          (s.policy.isEnabled environment = true → cache.get? resolved = none) ∧
          store.read resolved = .error e ∧ e.isAccess = false ∧ e ≠ .undecodable := by
  constructor
  · intro h
    have hends := store.ends_load s environment cache name
    generalize hanswer : store.load s environment cache name = answer at h hends
    cases hends with
    | unresolved hresolve =>
      cases h
      exact .inl hresolve
    | kept => cases h
    | unread hresolve hread =>
      obtain ⟨haccess, hbytes, rfl⟩ := readFailure_eq_escaped_iff.mp (Except.error.inj h)
      refine .inr ⟨_, hresolve, fun hkeep => ?_, hread, haccess, hbytes⟩
      refine Option.eq_none_iff_forall_not_mem.mpr fun source hget => ?_
      rw [load_of_get? hresolve hkeep hget] at hanswer
      cases congrArg (fun answer => answer.1.result) hanswer
    | readToKeep => cases h
    | readOnly => cases h
  · rintro (hresolve | ⟨resolved, hresolve, hcache, hread, haccess, hbytes⟩)
    · rw [load_of_unresolved hresolve]
    · have hget : (if s.policy.isEnabled environment then cache.get? resolved else none) = none :=
        ite_eq_right_iff.mpr hcache
      rw [load_of_get?_eq_none hresolve rfl hget, fetch, hread]
      exact congrArg Except.error (readFailure_eq_escaped_iff.mpr ⟨haccess, hbytes, rfl⟩)

/-! ## Rendering -/

/-- From the counting of blocks escapes a limit that is no number. -/
theorem compile_eq_escaped_iff {sourceName source : Text} :
    s.compile sourceName source = .error (.escaped e) ↔
      e = .noNumber ∧ s.maxDepth = none ∧
        ∃ fault, Template.parse 0 source = .error fault ∧ fault.misuse.isNesting = true := by
  unfold Settings.compile
  constructor
  · intro h
    split at h
    next => cases h
    next fault hparse =>
      split at h
      next hcounted =>
        cases h
        obtain ⟨hnone, hnesting⟩ := Bool.and_eq_true_iff.mp hcounted
        have hlimit : s.maxDepth = none := Option.isNone_iff_eq_none.mp hnone
        rw [hlimit] at hparse
        exact ⟨rfl, hlimit, fault, hparse, hnesting⟩
      next => cases h
  · rintro ⟨rfl, hlimit, fault, hparse, hnesting⟩
    have hparse : Template.parse (s.maxDepth.getD 0) source = .error fault := by
      rw [hlimit]
      exact hparse
    rw [hparse]
    simp only [hlimit, hnesting, Option.isNone_none, Bool.and_self, if_true]

/-- Chunks are put out, unless one of them is a value that cannot be shown. -/
theorem output_eq_none_iff {chunks : List Template.Chunk} :
    Template.Chunk.output chunks = none ↔ ∃ v, .value v ∈ chunks ∧ v.shown = none := by
  rw [Template.Chunk.output, Option.map_eq_none_iff]
  induction chunks with
  | nil => exact iff_of_false nofun (by simp)
  | cons chunk rest ih =>
    simp only [List.mapM_cons, List.mem_cons, or_and_right, exists_or, ← ih]
    cases chunk with
    | literal content =>
      cases rest.mapM Template.Chunk.shown <;> simp [Template.Chunk.shown]
    | value v =>
      cases hshown : v.shown with
      | none => simp [Template.Chunk.shown, hshown]
      | some symbols =>
        cases rest.mapM Template.Chunk.shown <;> simp [Template.Chunk.shown, hshown]

/-- From the rendering of nodes escapes a value that cannot be shown. -/
theorem rendered_eq_escaped_iff {context : Dict} {nodes : List Template.Node} :
    (Template.rendered context nodes : Except TemplateFailure Symbols) = .error (.escaped e) ↔
      e = .badValue ∧
        ∃ v, .value v ∈ Template.renderNodes [context] nodes ∧ v.shown = none := by
  rw [← output_eq_none_iff, ← Template.render]
  unfold Template.rendered
  cases Template.render context nodes with
  | none => simp [eq_comm]
  | some output => simp

/-- What a rendering out of a directory meets that is not reported. -/
inductive Stumbles (t : FileTree) (dir : Place) (s : Settings) (environment : Option Text)
    (cache : Cache) (name : Text) (context : Dict) : Escape → Prop
  /-- Of several candidates, one that cannot be asked for comes before any that is there. -/
  | looking {front : List Text} {path : Text} {back : List Text} {e : Escape} :
      (∀ only, s.candidates name ≠ [only]) → s.candidates name = front ++ path :: back →
      (∀ p ∈ front, t.hasBelow dir p = .ok false) → t.Unaskable dir path e →
      Stumbles t dir s environment cache name context e
  /-- The only candidate is not in the cache and cannot be resolved. -/
  | reading {only : Text} {e : Escape} : s.candidates name = [only] →
      (s.policy.isEnabled environment = true → cache.get? only = none) →
      t.Unresolvable (pathBelow dir only) e →
      Stumbles t dir s environment cache name context e
  /-- A block is counted against a limit that is no number. -/
  | counting {l : Loaded} {fault : Template.SyntaxError} :
      ((t.store dir).load s environment cache name).1.result = .ok l → s.maxDepth = none →
      Template.parse 0 l.source = .error fault → fault.misuse.isNesting = true →
      Stumbles t dir s environment cache name context .noNumber
  /-- A value that the template puts out cannot be shown. -/
  | showing {l : Loaded} {nodes : List Template.Node} {v : Value} :
      ((t.store dir).load s environment cache name).1.result = .ok l →
      s.compile l.resolved l.source = .ok nodes →
      .value v ∈ Template.renderNodes [context] nodes → v.shown = none →
      Stumbles t dir s environment cache name context .badValue

section Render

variable {t : FileTree} {dir : Place} {context : Dict}

/-- From a load out of a directory escapes what it meets in looking for candidates and in reading one. -/
theorem load_store_eq_escaped_iff :
    ((t.store dir).load s environment cache name).1.result = .error (.escaped e) ↔
      ((∀ only, s.candidates name ≠ [only]) ∧ ∃ front path back,
        s.candidates name = front ++ path :: back ∧ (∀ p ∈ front, t.hasBelow dir p = .ok false) ∧
          t.Unaskable dir path e) ∨
      ∃ only, s.candidates name = [only] ∧
        (s.policy.isEnabled environment = true → cache.get? only = none) ∧
          t.Unresolvable (pathBelow dir only) e := by
  rw [load_eq_escaped_iff, resolve_eq_escaped_iff, firstPresent_eq_error_iff]
  refine or_congr ?_ (exists_congr fun only => ⟨?_, ?_⟩)
  · simp only [← FileTree.hasBelow_eq_error_iff]
    rfl
  · rintro ⟨hresolve, hcache, hread, haccess, hbytes⟩
    have hpath := (FileTree.readBelow_eq_error_iff haccess hbytes).mp hread
    refine ⟨?_, hcache, hpath⟩
    rcases probe_of_resolve hresolve with hcandidates | hprobe
    · exact hcandidates
    · -- A candidate that was found is resolvable.
      obtain ⟨p, bytes, hplace, -⟩ := FileTree.hasBelow_eq_true_iff.mp hprobe
      cases hplace.symm.trans (FileTree.placeBelow_eq_error_iff.mpr hpath)
  · rintro ⟨hcandidates, hcache, hpath⟩
    obtain ⟨haccess, hbytes⟩ := hpath.unreported
    refine ⟨?_, hcache, (FileTree.readBelow_eq_error_iff haccess hbytes).mpr hpath, haccess, hbytes⟩
    rw [resolve, hcandidates]

theorem render_eq_escaped_iff :
    ((t.store dir).render s environment cache name context).1.result = .error (.escaped e) ↔
      Stumbles t dir s environment cache name context e := by
  have hrender : ((t.store dir).render s environment cache name context).1.result =
      ((t.store dir).load s environment cache name).1.result >>= fun l =>
        s.process l.resolved l.source context := rfl
  rw [hrender, bind_eq_error_iff, load_store_eq_escaped_iff]
  constructor
  · rintro ((⟨hseveral, front, path, back, hsplit, hfront, h⟩ | ⟨only, honly, hcache, h⟩) | ⟨l, hl, h⟩)
    · exact .looking hseveral hsplit hfront h
    · exact .reading honly hcache h
    · rcases bind_eq_error_iff.mp h with h | ⟨nodes, hnodes, h⟩
      · obtain ⟨rfl, hlimit, fault, hparse, hnesting⟩ := compile_eq_escaped_iff.mp h
        exact .counting hl hlimit hparse hnesting
      · obtain ⟨rfl, v, hv, hshown⟩ := rendered_eq_escaped_iff.mp h
        exact .showing hl hnodes hv hshown
  · rintro (⟨hseveral, hsplit, hfront, h⟩ | ⟨honly, hcache, h⟩ | ⟨hl, hlimit, hparse, hnesting⟩ |
      ⟨hl, hnodes, hv, hshown⟩)
    · exact .inl (.inl ⟨hseveral, _, _, _, hsplit, hfront, h⟩)
    · exact .inl (.inr ⟨_, honly, hcache, h⟩)
    · refine .inr ⟨_, hl, bind_eq_error_iff.mpr (.inl (compile_eq_escaped_iff.mpr ?_))⟩
      exact ⟨rfl, hlimit, _, hparse, hnesting⟩
    · refine .inr ⟨_, hl, bind_eq_error_iff.mpr (.inr ⟨_, hnodes, ?_⟩)⟩
      exact rendered_eq_escaped_iff.mpr ⟨rfl, _, hv, hshown⟩

/-- **What escapes from a rendering out of a directory**, with every other one giving an output or a
report. -/
theorem render_escapes_iff :
    (∀ e, ((t.store dir).render s environment cache name context).1.result = .error (.escaped e) ↔
      Stumbles t dir s environment cache name context e) ∧
    (((∃ output, ((t.store dir).render s environment cache name context).1.result = .ok output) ∨
        ∃ cause, ((t.store dir).render s environment cache name context).1.result =
          .error (.reported cause)) ↔
      ∀ e, ¬ Stumbles t dir s environment cache name context e) := by
  refine ⟨fun e => render_eq_escaped_iff, settles_iff.trans ?_⟩
  exact forall_congr' fun e => not_congr render_eq_escaped_iff

/-! A directory in which a link leads back to itself. -/

/-- A directory `t` with a link in it that stands for itself. -/
def coiledTree : FileTree where
  items := [([['t']], .directory), ([['t'], "p.html".toList], .link "p.html".toList)]
  workingDirectory := []

/-- **The link is not reported**, as the one candidate for its name or as the first of several. -/
theorem coil_escapes :
    ((coiledTree.store [['t']]).render .default none .empty "p.html".toList []).1.result =
      .error (.escaped .unresolvable) ∧
    ((coiledTree.store [['t']]).render .default none .empty ['p'] []).1.result =
      .error (.escaped .unresolvable) := by
  have hcircle : coiledTree.resolve [] [] [['t'], "p.html".toList] =
      .circle [['t'], "p.html".toList] := by cbv
  have hcoil : coiledTree.Unresolvable (pathBelow [['t']] "p.html".toList) .unresolvable :=
    .circle (by decide) hcircle (by cbv)
  constructor
  · exact render_eq_escaped_iff.mpr (.reading (by decide) (fun _ => rfl) hcoil)
  · have hseveral : ∀ only, Settings.default.candidates ['p'] ≠ [only] := by
      intro only honly
      have hthree : (Settings.default.candidates ['p']).length = 3 := by decide
      rw [honly] at hthree
      cases hthree
    have hsplit : Settings.default.candidates ['p'] =
        [] ++ "p.html".toList :: ["p.xml".toList, "p.txt".toList] := by decide
    exact render_eq_escaped_iff.mpr
      (.looking hseveral hsplit (List.forall_mem_nil _) (.unresolvable hcoil))

end Render

end Store

end Stencil
