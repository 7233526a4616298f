import Stencil.Proofs.Engine.Steps

/-!
# Caches do not show

Over a store that does not change, a load answers the same whether its engine keeps sources or not, and
so does a rendering. `outcome_eq_uncached` compares each of them with what a new engine would answer
that has the same store and the same settings, except that its policy keeps nothing: the text, or the
failure with everything that it says.

The invariant is `Cache.Mirrors`: what is kept under a name is what the store answers for it now. A
load keeps it, because the only text that it puts into a cache has just been read. Engines that share a
cache may try different extensions under different limits and policies, because a cache knows sources
by the names that they were found by. They may not read different stores.
-/

namespace Stencil

/-- Everything kept is what the store answers for its name. -/
def Cache.Mirrors (c : Cache) (store : Store) : Prop :=
  ∀ name source, c.get? name = some source → store.read name = .ok source

/-! ## Loads -/

namespace Store

section Load

variable {store : Store} {s : Settings} {environment : Option Text} {cache : Cache} {name : Text}

/-- A template as it is found and read where no source is kept. -/
def taken (store : Store) (s : Settings) (name : Text) : Except TemplateFailure Loaded :=
  (store.resolve s name).result.bind fun resolved =>
    match store.read resolved with
    | .ok source => .ok ⟨resolved, source⟩
    | .error e => .error (readFailure s name resolved e)

/-- What is taken does not depend on the policy. -/
theorem taken_policy (store : Store) (s : Settings) (policy : Policy) (name : Text) :
    store.taken { s with policy } name = store.taken s name := rfl

/-- A load takes what the store answers, as long as the cache that it looks into agrees. -/
theorem load_result_of_mirrors (h : s.policy.isEnabled environment = true → cache.Mirrors store) :
    (store.load s environment cache name).1.result = store.taken s name := by
  have hends := store.ends_load s environment cache name
  generalize store.load s environment cache name = answer at hends
  cases hends with
  | unresolved hresolve => rw [taken, hresolve]; rfl
  | @kept resolved source hresolve hkeep hget =>
    have hread : store.read resolved = .ok source := h hkeep resolved source hget
    simp only [taken, hresolve, Except.bind, hread]
  | unread hresolve hread | readToKeep hresolve _ _ hread | readOnly hresolve _ hread =>
    simp only [taken, hresolve, Except.bind, hread]

/-- A load leaves a cache that agrees with the store, if it was given one. -/
theorem mirrors_load (h : cache.Mirrors store) :
    (store.load s environment cache name).2.Mirrors store := by
  have hends := store.ends_load s environment cache name
  generalize store.load s environment cache name = answer at hends
  cases hends with
  | unresolved _ | kept _ _ _ | unread _ _ | readOnly _ _ _ => exact h
  | @readToKeep resolved source _ _ _ hread =>
    intro other kept hget
    by_cases hother : other = resolved
    · subst hother
      rw [Cache.get?_put_self] at hget
      cases hget
      exact hread
    · rw [Cache.get?_put_of_ne cache source hother] at hget
      exact h other kept hget

end Load

end Store

/-! ## Sessions over stores that do not change -/

/-- The engine with another cache and a policy that keeps nothing. -/
def Engine.uncached (e : Engine) (cache : CacheRef) : Engine :=
  ⟨{ e.settings with policy := .disabled }, e.store, cache⟩

namespace Session

/-- Steps during which no store changes its answers, all engines that use one cache read one store, its
home, and no text is written into a cache directly. -/
structure Steady (s : Session) (home : CacheRef → StoreRef) (steps : List Step) : Prop where
  stores : ∀ n, (s.after (steps.take n)).store = s.store
  engines : ∀ n name e, (s.after (steps.take n)).engine? name = some e → e.store = home e.cache
  direct : ∀ step ∈ steps, step.writesCache = false

/-- Every cache agrees with the store that is its home. -/
def Mirrors (s : Session) (home : CacheRef → StoreRef) : Prop :=
  ∀ r, (s.cache r).Mirrors (s.store (home r))

variable {s : Session} {home : CacheRef → StoreRef}

/-- **One step keeps caches in agreement** with stores that it leaves as they are. -/
theorem mirrors_step {step : Step} (h : s.Mirrors home)
    (hengines : ∀ name e, s.engine? name = some e → e.store = home e.cache)
    (hstores : (s.step step).2.store = s.store) (hdirect : step.writesCache = false) :
    (s.step step).2.Mirrors home := by
  intro r
  rw [hstores]
  rcases cache_step hdirect r with hsame | ⟨-, hempty⟩ | ⟨name, e, template, he, rfl, hload⟩
  · rw [hsame]
    exact h r
  · rw [hempty]
    intro name source hget
    cases hget
  · rw [hload, ← hengines name e he]
    refine Store.mirrors_load ?_
    rw [hengines name e he]
    exact h e.cache

namespace Steady

/-- What is steady over steps is steady over all but the first of them. -/
theorem tail {step : Step} {rest : List Step} (h : s.Steady home (step :: rest)) :
    (s.step step).2.Steady home rest := by
  have hstores : (s.step step).2.store = s.store := h.stores 1
  refine ⟨fun n => ?_, fun n => h.engines (n + 1), fun other hother => ?_⟩
  · rw [hstores]
    exact h.stores (n + 1)
  · exact h.direct other (List.mem_cons_of_mem step hother)

/-- **Steady steps keep caches in agreement.** -/
theorem mirrors_after (steps : List Step) :
    ∀ {s : Session}, s.Steady home steps → s.Mirrors home → (s.after steps).Mirrors home := by
  induction steps with
  | nil => exact fun _ h => h
  | cons step rest ih =>
    intro s hsteady h
    have hstep : (s.step step).2.Mirrors home :=
      mirrors_step h (hsteady.engines 0) (hsteady.stores 1)
        (hsteady.direct step List.mem_cons_self)
    exact ih hsteady.tail hstep

end Steady

/-- A load by an engine takes what its store answers, in a session whose caches agree. -/
theorem loading_result_of_mirrors (h : s.Mirrors home) {e : Engine}
    (hhome : e.store = home e.cache) (template : Text) :
    (s.loading e template).1.result = (s.store e.store).taken e.settings template := by
  refine Store.load_result_of_mirrors fun _ => ?_
  rw [hhome]
  exact h e.cache

/-- A load by an engine that keeps nothing takes what its store answers, in any session. -/
theorem loading_uncached_result (s : Session) (e : Engine) (cache : CacheRef) (template : Text) :
    (s.loading (e.uncached cache) template).1.result =
      (s.store e.store).taken e.settings template := by
  rw [loading, Store.load_result_of_mirrors]
  · exact Store.taken_policy _ _ _ _
  · intro hkeep
    cases hkeep

/-- Engines that differ in cache and policy answer alike where their loads do. -/
theorem act_result_of_loading {s : Session} {name fresh : Text} {e : Engine} {cache : CacheRef}
    {action : Action} {template : Text} (hloads : action.loads? = some template)
    (h : (s.loading e template).1.result = (s.loading (e.uncached cache) template).1.result) :
    (s.act name e action).1.result = (s.act fresh (e.uncached cache) action).1.result := by
  cases action with
  | load _ =>
    cases hloads
    rw [act_load, act_load, h]
  | render _ context =>
    cases hloads
    rw [act_render, act_render, h]
    rfl
  | set _ | candidates _ | resolve _ | process _ _ _ | compile _ _ | probe _ | read _ | clear
  | cachePut _ _ | cacheGet _ => cases hloads

/-- **A cache over a store that does not change does not show.** Wherever steady steps lead from a
session whose caches are empty, a load or a rendering has the outcome that it has when it is asked of a
new engine with the same store, the same settings and a policy that keeps nothing, whatever name and
cache the new engine is given. -/
theorem outcome_eq_uncached {steps : List Step} (hfresh : ∀ r, s.cache r = .empty)
    (hsteady : s.Steady home steps) {name : Text} {e : Engine}
    (he : (s.after steps).engine? name = some e) {action : Action} {template : Text}
    (hloads : action.loads? = some template) (fresh : Text) (cache : CacheRef) :
    ((s.after steps).step (.ask name action)).1.result =
      (((s.after steps).setEngine fresh (e.uncached cache)).step (.ask fresh action)).1.result := by
  have hmirrors : (s.after steps).Mirrors home := by
    refine hsteady.mirrors_after steps fun r other source hget => ?_
    rw [hfresh r] at hget
    cases hget
  have hhome : e.store = home e.cache := by
    refine hsteady.engines steps.length name e ?_
    rw [List.take_length]
    exact he
  generalize s.after steps = now at he hmirrors ⊢
  have hnew : (now.setEngine fresh (e.uncached cache)).engine? fresh = some (e.uncached cache) := by
    rw [engine?_setEngine, if_pos rfl]
  rw [step_ask he, step_ask hnew]
  calc (now.act name e action).1.result
      = (now.act fresh (e.uncached cache) action).1.result := by
        refine act_result_of_loading hloads ?_
        rw [loading_result_of_mirrors hmirrors hhome, loading_uncached_result]
    _ = ((now.setEngine fresh (e.uncached cache)).act fresh (e.uncached cache) action).1.result := by
        cases action <;> cases hloads <;> rfl

/-! ## Engines over the templates in memory -/

/-- Engines that are made over the templates in memory stay there. -/
theorem store_eq_memory_of_after (steps : List Step)
    (hmade : ∀ step ∈ steps, ∀ name choices cache store,
      step = .engine name choices cache store → store = .memory) :
    ∀ {s : Session}, (∀ name e, s.engine? name = some e → e.store = .memory) →
      ∀ name e, (s.after steps).engine? name = some e → e.store = .memory := by
  induction steps with
  | nil => exact fun h => h
  | cons step rest ih =>
    intro s h
    obtain ⟨hstep, hrest⟩ := List.forall_mem_cons.mp hmade
    refine ih hrest fun name e he => ?_
    rcases engine?_step he with ⟨choices, cache, store, rfl, hmake⟩ | ⟨before, hbefore, hstore, -⟩
    · rw [hstep name choices cache store rfl] at hmake
      unfold makeEngine at hmake
      split at hmake
      next => cases hmake
      next =>
        cases hmake
        rfl
    · rw [hstore]
      exact h name before hbefore

/-- Steps are steady when they leave the stores and write into no cache, and when every engine reads
the templates in memory. -/
theorem steady_of_memory {steps : List Step} (h : ∀ name e, s.engine? name = some e → e.store = .memory)
    (hmade : ∀ step ∈ steps, ∀ name choices cache store,
      step = .engine name choices cache store → store = .memory)
    (hstores : ∀ step ∈ steps, step.changesStore = false)
    (hdirect : ∀ step ∈ steps, step.writesCache = false) :
    s.Steady (fun _ => .memory) steps where
  stores _ := store_after _ (fun step hstep => hstores step (List.mem_of_mem_take hstep)) s
  engines _ := store_eq_memory_of_after _ (fun step hstep => hmade step (List.mem_of_mem_take hstep)) h
  direct := hdirect

/-- Two engines share a cache under different limits. The second one keeps sources in production only,
and reads behind the first one. -/
def steadySteps : List Step :=
  [.engine ['a'] { policy := some (.text "enabled") } (some ['k']) .memory,
    .engine ['b'] { maxDepth := some (some 1) } (some ['k']) .memory,
    .ask ['a'] (.load ['p', '.', 'h']),
    .environment (some "production"),
    .ask ['a'] (.set (.policy .disabled))]

/-- The second engine. -/
def sharingEngine : Engine := ⟨{ Settings.default with maxDepth := some 1 }, .memory, .shared ['k']⟩

/-- The second engine renders what the first one read, without a read of its own, and a new engine that
reads for itself renders the same. -/
theorem outcome_eq_uncached_steadySteps :
    (∀ r, oneTemplate.cache r = .empty) ∧ oneTemplate.Steady (fun _ => .memory) steadySteps ∧
      (oneTemplate.after steadySteps).engine? ['b'] = some sharingEngine ∧
      ((oneTemplate.after steadySteps).step (.ask ['b'] (.render ['p', '.', 'h'] []))).1.calls = [] ∧
      ((oneTemplate.after steadySteps).step (.ask ['b'] (.render ['p', '.', 'h'] []))).1.result =
        (((oneTemplate.after steadySteps).setEngine ['c'] (sharingEngine.uncached (.own 2))).step
          (.ask ['c'] (.render ['p', '.', 'h'] []))).1.result := by
  have hfresh : ∀ r, oneTemplate.cache r = .empty := fun _ => rfl
  have hsteady : oneTemplate.Steady (fun _ => .memory) steadySteps := by
    refine steady_of_memory (fun _ _ h => nomatch h) ?_ ?_ ?_
    · simp +contextual [steadySteps]
    · simp [steadySteps, Step.changesStore]
    · simp [steadySteps, Step.writesCache]
  have he : (oneTemplate.after steadySteps).engine? ['b'] = some sharingEngine := rfl
  exact ⟨hfresh, hsteady, he, rfl, outcome_eq_uncached hfresh hsteady he rfl ['c'] (.own 2)⟩

end Session

end Stencil
