import Stencil.Engine.Loading

/-!
# How a load ends

A load ends in one of five ways: no candidate was found, the source was in the cache, the store could
not be read, or it was read and its text was kept or not. `Store.Ends` lists them with everything
that each is known by, and `Store.ends_load` says that there are no others. What is asked of loads
elsewhere is answered case by case from there, without opening `Store.load` again.

Looking for a candidate asks a store whether paths are there and never reads one. So a load reads at
most once, last of all.
-/

namespace Stencil.Store

/-- Asking for paths in turn probes them and does nothing else. -/
theorem exists_probe_of_mem_firstPresent {store : Store} {paths : List Text} {call : Call}
    (h : call ∈ (store.firstPresent paths).calls) : ∃ path ∈ paths, call = .probe path := by
  induction paths with
  | nil => cases h
  | cons path rest ih =>
    rw [firstPresent] at h
    split at h
    next =>
      exact ⟨path, List.mem_cons_self, List.mem_singleton.mp h⟩
    next =>
      exact ⟨path, List.mem_cons_self, List.mem_singleton.mp h⟩
    next =>
      rcases List.mem_cons.mp h with rfl | hlater
      · exact ⟨path, List.mem_cons_self, rfl⟩
      · obtain ⟨other, hother, rfl⟩ := ih hlater
        exact ⟨other, List.mem_cons_of_mem path hother, rfl⟩

/-- Looking for a candidate reads nothing. -/
theorem read_notMem_resolve (store : Store) (s : Settings) (name path : Text) :
    Call.read path ∉ (store.resolve s name).calls := by
  unfold resolve
  split
  next => exact List.not_mem_nil
  next candidates _ =>
    intro h
    obtain ⟨other, -, hcall⟩ := exists_probe_of_mem_firstPresent h
    cases hcall

/-! ## Loads -/

section Load

variable {store : Store} {s : Settings} {environment : Option Text} {cache : Cache} {name : Text}

/-- The ways in which a load ends, each with its answer and the cache that it leaves. -/
inductive Ends (store : Store) (s : Settings) (environment : Option Text) (cache : Cache)
    (name : Text) : Traced (Except TemplateFailure Loaded) × Cache → Prop
  /-- No candidate was found. -/
  | unresolved {e : TemplateFailure} : (store.resolve s name).result = .error e →
      Ends store s environment cache name (⟨(store.resolve s name).calls, .error e⟩, cache)
  /-- The source was in the cache. -/
  | kept {resolved source : Text} : (store.resolve s name).result = .ok resolved →
      s.policy.isEnabled environment = true → cache.get? resolved = some source →
      Ends store s environment cache name
        (⟨(store.resolve s name).calls, .ok ⟨resolved, source⟩⟩, cache)
  /-- The store could not be read. -/
  | unread {resolved : Text} {e : Escape} : (store.resolve s name).result = .ok resolved →
      store.read resolved = .error e →
      Ends store s environment cache name
        (⟨(store.resolve s name).calls ++ [.read resolved],
          .error (readFailure s name resolved e)⟩, cache)
  /-- The source was read and is kept. -/
  | readToKeep {resolved source : Text} : (store.resolve s name).result = .ok resolved →
      s.policy.isEnabled environment = true → cache.get? resolved = none →
      store.read resolved = .ok source →
      Ends store s environment cache name
        (⟨(store.resolve s name).calls ++ [.read resolved], .ok ⟨resolved, source⟩⟩,
          cache.put resolved source)
  /-- The source was read and is not kept. -/
  | readOnly {resolved source : Text} : (store.resolve s name).result = .ok resolved →
      s.policy.isEnabled environment = false → store.read resolved = .ok source →
      Ends store s environment cache name
        (⟨(store.resolve s name).calls ++ [.read resolved], .ok ⟨resolved, source⟩⟩, cache)

/-- A load without a candidate is its failure. -/
theorem load_of_unresolved {e : TemplateFailure}
    (hresolve : (store.resolve s name).result = .error e) :
    store.load s environment cache name = (⟨(store.resolve s name).calls, .error e⟩, cache) := by
  simp only [load, hresolve]

/-- A source in the cache is what a load answers, and nothing is read for it. -/
theorem load_of_get? {resolved source : Text}
    (hresolve : (store.resolve s name).result = .ok resolved)
    (hkeep : s.policy.isEnabled environment = true) (hget : cache.get? resolved = some source) :
    store.load s environment cache name =
      (⟨(store.resolve s name).calls, .ok ⟨resolved, source⟩⟩, cache) := by
  simp only [load, hresolve, hkeep, if_true, hget]

/-- A load that finds nothing in the cache reads its candidate. -/
theorem load_of_get?_eq_none {resolved : Text} {keep : Bool}
    (hresolve : (store.resolve s name).result = .ok resolved)
    (hkeep : s.policy.isEnabled environment = keep)
    (hget : (if keep then cache.get? resolved else none) = none) :
    store.load s environment cache name =
      (⟨(store.resolve s name).calls ++ (store.fetch s keep cache name resolved).1.calls,
        (store.fetch s keep cache name resolved).1.result⟩,
        (store.fetch s keep cache name resolved).2) := by
  simp only [load, hresolve, hkeep, hget]

/-- **A load ends in one of these ways.** -/
theorem ends_load (store : Store) (s : Settings) (environment : Option Text) (cache : Cache)
    (name : Text) :
    Ends store s environment cache name (store.load s environment cache name) := by
  cases hresolve : (store.resolve s name).result with
  | error e =>
    rw [load_of_unresolved hresolve]
    exact .unresolved hresolve
  | ok resolved =>
    cases hkeep : s.policy.isEnabled environment with
    | true =>
      cases hget : cache.get? resolved with
      | some source =>
        rw [load_of_get? hresolve hkeep hget]
        exact .kept hresolve hkeep hget
      | none =>
        rw [load_of_get?_eq_none hresolve hkeep hget, fetch]
        cases hread : store.read resolved with
        | error e => exact .unread hresolve hread
        | ok source => exact .readToKeep hresolve hkeep hget hread
    | false =>
      rw [load_of_get?_eq_none hresolve hkeep rfl, fetch]
      cases hread : store.read resolved with
      | error e => exact .unread hresolve hread
      | ok source => exact .readOnly hresolve hkeep hread

/-- A load that fails leaves the cache as it was. -/
theorem load_cache_of_error {e : TemplateFailure}
    (h : (store.load s environment cache name).1.result = .error e) :
    (store.load s environment cache name).2 = cache := by
  have hends := store.ends_load s environment cache name
  generalize store.load s environment cache name = answer at h hends
  cases hends with
  | unresolved _ => rfl
  | kept _ _ _ => rfl
  | unread _ _ => rfl
  | readToKeep _ _ _ _ => cases h
  | readOnly _ _ _ => rfl

/-- A load whose policy keeps nothing leaves the cache as it was. -/
theorem load_cache_of_disabled (h : s.policy.isEnabled environment = false) :
    (store.load s environment cache name).2 = cache := by
  have hends := store.ends_load s environment cache name
  generalize store.load s environment cache name = answer at hends
  cases hends with
  | unresolved _ => rfl
  | kept _ _ _ => rfl
  | unread _ _ => rfl
  | readToKeep _ hkeep _ _ =>
    rw [h] at hkeep
    cases hkeep
  | readOnly _ _ _ => rfl

end Load

end Stencil.Store
