import Stencil.Proofs.Engine.Steps

/-!
# What a cache outlives

A template that was rendered once is rendered the same ever after, whatever becomes of the store: its
source was put into the cache when it was read, and nothing but an emptying takes it out again
(`render_survives`). The engine has to keep sources, and no step may set anything in it, empty a cache or
write into one. All else may happen in between, other engines that share the cache included.

A cache knows sources by the names that they were found by, and a name without a suffix is looked up in
the store for every rendering, before the cache is asked. So the law holds as long as the name still
means the same candidate (`Templates.meant?`). With one candidate it always does. With several it does
until the store loses the one that was found or is given one that is tried before it, and then it is
another template that is rendered, or none.
-/

namespace Stencil

/-! ## What a name stands for -/

/-- The candidate that is meant: the only one, or the first that the templates have. -/
def Templates.meant? (ts : Templates) : List Text → Option Text
  | [only] => some only
  | candidates => candidates.find? fun c => (ts.get? c).isSome

namespace Store

/-- Of paths that are asked for in turn the first that the templates have is answered. -/
theorem firstPresent_memory (ts : Templates) (paths : List Text) :
    (ts.store.firstPresent paths).result = .ok (paths.find? fun c => (ts.get? c).isSome) := by
  induction paths with
  | nil => rfl
  | cons path rest ih =>
    have hprobe : ts.store.probe path = .ok (ts.get? path).isSome := rfl
    rw [firstPresent, List.find?_cons]
    cases hget : (ts.get? path).isSome with
    | true => simp only [hprobe, hget]
    | false => simpa only [hprobe, hget] using ih

/-- A name is found as the candidate that is meant. -/
theorem resolve_memory_iff {ts : Templates} {s : Settings} {name path : Text} :
    (ts.store.resolve s name).result = .ok path ↔ ts.meant? (s.candidates name) = some path := by
  unfold resolve
  generalize s.candidates name = candidates
  split
  next only => simp only [Templates.meant?, Except.ok.injEq, Option.some.injEq]
  next hseveral =>
    rw [Templates.meant?.eq_2 ts candidates hseveral]
    simp only [firstPresent_memory]
    cases candidates.find? fun c => (ts.get? c).isSome with
    | none => exact iff_of_false (by rintro ⟨⟩) (by rintro ⟨⟩)
    | some found => simp only [Except.ok.injEq, Option.some.injEq]

/-! ## Sources stay in a cache -/

variable {store : Store} {s : Settings} {environment : Option Text} {cache : Cache} {name : Text}

/-- What is loaded under a policy that keeps sources is in the cache afterwards, under the name that it
was found by. -/
theorem get?_of_load {loaded : Loaded} (hkeep : s.policy.isEnabled environment = true)
    (h : (store.load s environment cache name).1.result = .ok loaded) :
    (store.resolve s name).result = .ok loaded.resolved ∧
      (store.load s environment cache name).2.get? loaded.resolved = some loaded.source := by
  have hends := store.ends_load s environment cache name
  generalize store.load s environment cache name = answer at h hends ⊢
  cases hends with
  | unresolved _ | unread _ _ => cases h
  | kept hresolve _ hget =>
    cases h
    exact ⟨hresolve, hget⟩
  | readToKeep hresolve _ _ _ =>
    cases h
    exact ⟨hresolve, Cache.get?_put_self ..⟩
  | readOnly _ hdisabled _ => cases hkeep.symm.trans hdisabled

/-- A load takes nothing out of a cache and replaces nothing in it. -/
theorem get?_load {path source : Text} (h : cache.get? path = some source) :
    (store.load s environment cache name).2.get? path = some source := by
  have hends := store.ends_load s environment cache name
  generalize store.load s environment cache name = answer at hends
  cases hends with
  | unresolved _ | kept _ _ _ | unread _ _ | readOnly _ _ _ => exact h
  | readToKeep _ _ hnone _ =>
    -- What is put in was not there, so it is put in under another name.
    have hother : path ≠ _ := fun heq => by cases (heq ▸ h).symm.trans hnone
    rw [Cache.get?_put_of_ne cache _ hother, h]

end Store

namespace Session

variable {s : Session} {r : CacheRef} {path source : Text}

/-- **A step leaves in a cache what is in it**, unless it empties a cache or writes into one. -/
theorem get?_step {step : Step} (h : (s.cache r).get? path = some source)
    (hclear : step.clears = false) (hdirect : step.writesCache = false) :
    ((s.step step).2.cache r).get? path = some source := by
  rcases cache_step (s := s) hdirect r with hsame | ⟨hclears, _⟩ | ⟨_, e, _, _, hr, hload⟩
  · rw [hsame, h]
  · cases hclear.symm.trans hclears
  · subst hr
    rw [hload]
    exact Store.get?_load h

/-- **Steps leave in a cache what is in it.** -/
theorem get?_after (steps : List Step) (hclear : ∀ step ∈ steps, step.clears = false)
    (hdirect : ∀ step ∈ steps, step.writesCache = false) :
    ∀ {s : Session}, (s.cache r).get? path = some source →
      ((s.after steps).cache r).get? path = some source := by
  induction steps with
  | nil => exact fun h => h
  | cons step rest ih =>
    intro s h
    obtain ⟨hclear, hclearRest⟩ := List.forall_mem_cons.mp hclear
    obtain ⟨hdirect, hdirectRest⟩ := List.forall_mem_cons.mp hdirect
    exact ih hclearRest hdirectRest (get?_step h hclear hdirect)

/-- A rendering goes well when the template is loaded and its source has an output. -/
theorem act_render_iff {name template : Text} {e : Engine} {context : Dict} {output : Symbols} :
    (s.act name e (.render template context)).1.result = .ok (.output output) ↔
      ∃ loaded, (s.loading e template).1.result = .ok loaded ∧
        e.settings.process loaded.resolved loaded.source context = .ok output := by
  rw [act_render]
  cases (s.loading e template).1.result with
  | error f => exact ⟨nofun, fun ⟨_, hload, _⟩ => nomatch hload⟩
  | ok loaded =>
    simp only [Except.bind, Except.ok.injEq, exists_eq_left']
    cases e.settings.process loaded.resolved loaded.source context with
    | error f => exact ⟨nofun, nofun⟩
    | ok other => simp only [outcomeOf, Except.ok.injEq, Reply.output.injEq]

/-- **A template that was rendered is rendered the same again, without a read, whatever became of the
store**, as long as the same candidate is meant. -/
theorem render_survives {name template : Text} {e : Engine} {context : Dict} {output : Symbols}
    {steps : List Step} (he : s.engine? name = some e) (hmemory : e.store = .memory)
    (hpolicy : e.settings.policy = .enabled)
    (hrender : (s.step (.ask name (.render template context))).1.result = .ok (.output output))
    (hset : ∀ step ∈ steps, step.configures name = false)
    (hclear : ∀ step ∈ steps, step.clears = false)
    (hdirect : ∀ step ∈ steps, step.writesCache = false)
    (hmeant : ((s.step (.ask name (.render template context))).2.after steps).templates.meant?
        (e.settings.candidates template) = s.templates.meant? (e.settings.candidates template)) :
    let again := ((s.step (.ask name (.render template context))).2.after steps).step
      (.ask name (.render template context))
    again.1.result = .ok (.output output) ∧ ∀ path, Call.read path ∉ again.1.calls := by
  have hkeep (environment : Option Text) : e.settings.policy.isEnabled environment = true := by
    rw [hpolicy]
    rfl
  have hstore (t : Session) : t.store e.store = t.templates.store := by
    rw [hmemory]
    rfl
  rw [step_ask he] at hrender hmeant ⊢
  obtain ⟨⟨path, source⟩, hload, hprocess⟩ := act_render_iff.mp hrender
  obtain ⟨hresolve, hget⟩ := Store.get?_of_load (hkeep s.environment) hload
  have hcache : ((s.act name e (.render template context)).2.cache e.cache).get? path = some source := by
    rw [(s.act_of_loads name e rfl).2, cache_setCache, if_pos rfl]
    exact hget
  -- The engine and the source are still there behind the steps.
  have hengine : ((s.act name e (.render template context)).2.after steps).engine? name = some e := by
    rw [engine?_after steps hset]
    exact he
  have hkept := get?_after steps hclear hdirect hcache
  generalize (s.act name e (.render template context)).2.after steps = now at hmeant hengine hkept ⊢
  have hagain : ((now.store e.store).resolve e.settings template).result = .ok path := by
    rw [hstore] at hresolve ⊢
    rw [Store.resolve_memory_iff] at hresolve ⊢
    exact hmeant.trans hresolve
  have hloading : now.loading e template =
      (⟨((now.store e.store).resolve e.settings template).calls, .ok ⟨path, source⟩⟩,
        now.cache e.cache) := Store.load_of_get? hagain (hkeep _) hkept
  rw [step_ask hengine]
  refine ⟨act_render_iff.mpr ⟨⟨path, source⟩, ?_, hprocess⟩, ?_⟩
  · rw [hloading]
  · rw [act_render, hloading]
    exact (now.store e.store).read_notMem_resolve e.settings template

/-- A session with a template that is found by the second extension, and an engine that keeps sources. -/
def keepingSession : Session :=
  (start [("p.xml", ['x'])] default none).after
    [.engine ['e'] { policy := some (.text "enabled") } none .memory]

/-- The engine of the session. -/
def keepingEngine : Engine := ⟨{ Settings.default with policy := .enabled }, .memory, .own 1⟩

/-- A rendering of the template. -/
def renderKept : Step := .ask ['e'] (.render ['p'] [])

/-- What is rendered is the one character that was loaded. -/
theorem renderKept_result {s : Session} {path : Text} {c : Char}
    (he : s.engine? ['e'] = some keepingEngine)
    (hload : (s.loading keepingEngine ['p']).1.result = .ok ⟨path, [c]⟩)
    (hprocess : keepingEngine.settings.process path [c] [] = .ok [.char c]) :
    (s.step renderKept).1.result = .ok (.output [.char c]) := by
  rw [renderKept, step_ask he, act_render_iff]
  exact ⟨⟨path, [c]⟩, hload, hprocess⟩

/-- The template is taken away, and comes back with another text beside one that is tried later. -/
def changingSteps : List Step :=
  [.deleteTemplate "p.xml", renderKept, .putTemplate "p.txt" ['z'], .putTemplate "p.xml" ['y']]

/-- The engine renders the text that it read first. -/
theorem render_survives_changingSteps :
    keepingSession.engine? ['e'] = some keepingEngine ∧
      (keepingSession.step renderKept).1.result = .ok (.output [.char 'x']) ∧
      (∀ step ∈ changingSteps,
        step.configures ['e'] = false ∧ step.clears = false ∧ step.writesCache = false) ∧
      let again := ((keepingSession.step renderKept).2.after changingSteps).step renderKept
      again.1.result = .ok (.output [.char 'x']) ∧ ∀ path, Call.read path ∉ again.1.calls := by
  have he : keepingSession.engine? ['e'] = some keepingEngine := rfl
  have hrender : (keepingSession.step renderKept).1.result = .ok (.output [.char 'x']) :=
    renderKept_result he rfl (by cbv)
  have hquiet : ∀ step ∈ changingSteps,
      step.configures ['e'] = false ∧ step.clears = false ∧ step.writesCache = false := by
    simp [changingSteps, renderKept, Step.configures, Step.clears, Step.writesCache]
  refine ⟨he, hrender, hquiet, ?_⟩
  exact render_survives he rfl rfl hrender (fun step h => (hquiet step h).1)
    (fun step h => (hquiet step h).2.1) (fun step h => (hquiet step h).2.2) rfl

/-- **A source that is kept is not rendered once its name means another path**: a candidate that is
tried before it has come to the store, or it has gone from there and no other is left. -/
theorem render_follows_store :
    let rendered := keepingSession.step renderKept
    let preceded := rendered.2.after [.putTemplate "p.html" ['y']]
    let deleted := rendered.2.after [.deleteTemplate "p.xml"]
    rendered.1.result = .ok (.output [.char 'x']) ∧
      preceded.cachedNames ['e'] = [("p.xml" : Text)] ∧
      (preceded.step renderKept).1.result = .ok (.output [.char 'y']) ∧
      deleted.cachedNames ['e'] = [("p.xml" : Text)] ∧
      (deleted.step renderKept).1.result =
        .error (.reported (.template (.notFound ['p'] ["p.html", "p.xml", "p.txt"]))) :=
  ⟨renderKept_result rfl rfl (by cbv), rfl, renderKept_result rfl rfl (by cbv), rfl, rfl⟩

end Session

end Stencil
