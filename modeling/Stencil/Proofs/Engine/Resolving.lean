import Stencil.Proofs.Engine.Candidates
import Stencil.Proofs.Failure

/-!
# What a name is resolved to

A name is to be resolved to the first of its candidates that the store has, and where the store has none of
them the error is to name all of them (`FirstOf`). Wherever there is anything to choose from, that is what is
answered, and nothing else ever is (`resolve_eq_iff`).

A single candidate is answered without asking the store. So there is one way for a resolved name not to
exist: it is the only candidate, and the store does not have it. The law keeps this case apart and no other
(`resolve_firstOf_iff`). It is of every store, whatever it has and however it fails to say what it has.
-/

namespace Stencil.Store

variable {store : Store} {s : Settings} {name : Text}

/-! ## Asking for paths in turn -/

/-- Paths are asked for in vain when none of them is there. -/
theorem firstPresent_eq_none_iff {paths : List Text} :
    (store.firstPresent paths).result = .ok none ↔ ∀ c ∈ paths, store.probe c = .ok false := by
  induction paths with
  | nil => exact iff_of_true rfl (List.forall_mem_nil _)
  | cons path rest ih =>
    rw [firstPresent, List.forall_mem_cons, ← ih]
    split
    next hprobe => simp [hprobe]
    next hprobe => simp [hprobe]
    next hprobe => simp [hprobe]

/-- The path that is found is there, and none before it is. -/
theorem firstPresent_eq_some_iff {paths : List Text} {path : Text} :
    (store.firstPresent paths).result = .ok (some path) ↔
      ∃ before after, paths = before ++ path :: after ∧ (∀ c ∈ before, store.probe c = .ok false) ∧
        store.probe path = .ok true := by
  constructor
  · intro h
    induction paths with
    | nil => cases h
    | cons first rest ih =>
      rw [firstPresent] at h
      split at h
      next => cases h
      next hprobe =>
        cases h
        exact ⟨[], rest, rfl, List.forall_mem_nil _, hprobe⟩
      next hprobe =>
        obtain ⟨before, after, rfl, hbefore, hpath⟩ := ih h
        exact ⟨first :: before, after, rfl, List.forall_mem_cons.mpr ⟨hprobe, hbefore⟩, hpath⟩
  · rintro ⟨before, after, hsplit, hbefore, hpath⟩
    rw [firstPresent_of_hit hsplit hbefore hpath]

/-- Looking for paths fails at the first one that cannot be asked for, when none before it is there. -/
theorem firstPresent_eq_error_iff {paths : List Text} {e : Escape} :
    (store.firstPresent paths).result = .error e ↔
      ∃ before path after, paths = before ++ path :: after ∧
        (∀ p ∈ before, store.probe p = .ok false) ∧ store.probe path = .error e := by
  induction paths with
  | nil => exact iff_of_false nofun (by simp)
  | cons path rest ih =>
    rw [firstPresent, exists_first_cons_iff, ← ih]
    split
    next hprobe => simp [hprobe]
    next hprobe => simp [hprobe]
    next hprobe => simp [hprobe]

/-! ## What is to be answered -/

/-- What a name with these candidates is to be resolved to. -/
inductive FirstOf (store : Store) (name : Text) (candidates : List Text) :
    Except TemplateFailure Text → Prop
  /-- The first candidate that the store has. -/
  | first {before after : List Text} {path : Text} : candidates = before ++ path :: after →
      (∀ c ∈ before, store.probe c = .ok false) → store.probe path = .ok true →
      FirstOf store name candidates (.ok path)
  /-- The store has none of them, and all of them are named. -/
  | missing : (∀ c ∈ candidates, store.probe c = .ok false) →
      FirstOf store name candidates (.error (.reported (.notFound name candidates)))
  /-- Before any that the store has, there is one of which it cannot say whether it has it. -/
  | unsaid {before after : List Text} {path : Text} {e : Escape} :
      candidates = before ++ path :: after → (∀ c ∈ before, store.probe c = .ok false) →
      store.probe path = .error e → FirstOf store name candidates (.error (.escaped e))

/-- Where there is anything to choose from, a name is resolved as it is to be. -/
theorem resolve_eq_iff {answer : Except TemplateFailure Text}
    (hseveral : ∀ only, s.candidates name ≠ [only]) :
    (store.resolve s name).result = answer ↔ FirstOf store name (s.candidates name) answer := by
  have hlength : (s.candidates name).length ≠ 1 := fun hlength =>
    let ⟨only, honly⟩ := List.length_eq_one_iff.mp hlength
    hseveral only honly
  rw [resolve_of_several hlength rfl]
  constructor
  · rintro rfl
    dsimp only
    split
    next hfound =>
      obtain ⟨before, after, hsplit, hbefore, hpath⟩ := firstPresent_eq_some_iff.mp hfound
      exact .first hsplit hbefore hpath
    next hfound => exact .missing (firstPresent_eq_none_iff.mp hfound)
    next hfound =>
      obtain ⟨before, path, after, hsplit, hbefore, hpath⟩ := firstPresent_eq_error_iff.mp hfound
      exact .unsaid hsplit hbefore hpath
  · rintro (⟨hsplit, hbefore, hpath⟩ | hmiss | ⟨hsplit, hbefore, hpath⟩)
    · simp only [firstPresent_eq_some_iff.mpr ⟨_, _, hsplit, hbefore, hpath⟩]
    · simp only [firstPresent_eq_none_iff.mpr hmiss]
    · simp only [firstPresent_eq_error_iff.mpr ⟨_, _, _, hsplit, hbefore, hpath⟩]

/-- With a single candidate the answer is to be what the store says of it. -/
theorem firstOf_singleton_iff {only : Text} {answer : Except TemplateFailure Text} :
    FirstOf store name [only] answer ↔ answer = match store.probe only with
      | .ok true => .ok only
      | .ok false => .error (.reported (.notFound name [only]))
      | .error e => .error (.escaped e) := by
  have hsplit {before after : List Text} {path : Text} (h : [only] = before ++ path :: after) :
      path = only :=
    List.mem_singleton.mp (h ▸ List.mem_append_right before List.mem_cons_self)
  constructor
  · rintro (⟨h, -, hprobe⟩ | hmiss | ⟨h, -, hprobe⟩)
    · rw [hsplit h] at hprobe ⊢
      rw [hprobe]
    · rw [hmiss only List.mem_cons_self]
    · rw [hsplit h] at hprobe
      rw [hprobe]
  · rintro rfl
    split
    next hprobe => exact .first (List.nil_append _).symm (List.forall_mem_nil _) hprobe
    next hprobe => exact .missing (List.forall_mem_singleton.mpr hprobe)
    next hprobe => exact .unsaid (List.nil_append _).symm (List.forall_mem_nil _) hprobe

/-- A single candidate is not looked for, and of several one that is found is there. -/
theorem probe_of_resolve {resolved : Text} (h : (store.resolve s name).result = .ok resolved) :
    s.candidates name = [resolved] ∨ store.probe resolved = .ok true := by
  by_cases hsingle : ∃ only, s.candidates name = [only]
  · obtain ⟨only, honly⟩ := hsingle
    rw [resolve_of_single honly] at h
    cases h
    exact .inl honly
  · cases (resolve_eq_iff (not_exists.mp hsingle)).mp h with
    | first _ _ hpath => exact .inr hpath

/-! ## The whole -/

/-- **A name is resolved to the first of its candidates that is there, unless it has a single one that is
not.** A single candidate is what it is resolved to in any case, and no call is made. Every other answer is
there at that moment. -/
theorem resolve_firstOf_iff (store : Store) (s : Settings) (name : Text) :
    ((∀ answer, (store.resolve s name).result = answer ↔
        FirstOf store name (s.candidates name) answer) ↔
      ∀ only, s.candidates name = [only] → store.probe only = .ok true) ∧
    (∀ only, s.candidates name = [only] → store.resolve s name = ⟨[], .ok only⟩) ∧
    ∀ path, (store.resolve s name).result = .ok path →
      s.candidates name ≠ [path] → store.probe path = .ok true := by
  refine ⟨⟨?_, ?_⟩, fun only => resolve_of_single, fun path hpath hother =>
    (probe_of_resolve hpath).resolve_left hother⟩
  · intro h only honly
    have hfirst := (h (.ok only)).mp (by rw [resolve_of_single honly])
    rw [honly, firstOf_singleton_iff] at hfirst
    split at hfirst
    next hprobe => exact hprobe
    next => cases hfirst
    next => cases hfirst
  · intro h answer
    by_cases hsingle : ∃ only, s.candidates name = [only]
    · obtain ⟨only, honly⟩ := hsingle
      rw [resolve_of_single honly, honly, firstOf_singleton_iff, h only honly]
      exact eq_comm
    · exact resolve_eq_iff (not_exists.mp hsingle)

/-- **A store without templates has nothing that a name could be resolved to**, and yet a name with a suffix
is, and where one extension is configured so is a name without one. -/
theorem resolve_not_firstOf :
    (((Templates.store []).resolve .default "p.html".toList).result = .ok "p.html".toList ∧
      ¬ FirstOf (Templates.store []) "p.html".toList (Settings.default.candidates "p.html".toList)
        (.ok "p.html".toList)) ∧
    let s := { Settings.default with extensions := [".html".toList] }
    ((Templates.store []).resolve s ['p']).result = .ok "p.html".toList ∧
      ¬ FirstOf (Templates.store []) ['p'] (s.candidates ['p']) (.ok "p.html".toList) := by
  have hnot (name : Text) :
      ¬ FirstOf (Templates.store []) name ["p.html".toList] (.ok "p.html".toList) := by
    intro h
    cases firstOf_singleton_iff.mp h
  have hsuffix : Settings.default.candidates "p.html".toList = ["p.html".toList] := by decide
  refine ⟨⟨rfl, ?_⟩, rfl, hnot ['p']⟩
  rw [hsuffix]
  exact hnot _

end Stencil.Store
