import Stencil.Proofs.Engine.Accounting

/-!
# What a step changes

A session has stores, engines and caches, and a step changes few of them. What is asked of an engine
changes no store. An engine keeps the store and the cache that it was made with, whatever is set in it
later. A cache is emptied by one kind of step and filled by loads only, unless a step writes into it.

Each part has its own law: `store_step`, `engine?_step` and `cache_step` say all that one step can do
to it, so that an invariant of sessions is shown case by case from there. Engines are numbered as they
are made, and an engine that is given no label has its number for its cache: `exists_engine_of_after`
finds the step that made it.
-/

namespace Stencil

/-- Whether a step gives a store other contents. -/
def Step.changesStore : Step → Bool
  | .putTemplate .. | .deleteTemplate _ | .putFile .. | .deleteFile _ | .change .. => true
  | .engine .. | .environment _ | .ask .. => false

/-- Whether a step makes an engine under a name, or sets something in the one that has it. -/
def Step.configures (name : Text) : Step → Bool
  | .engine other .. => other = name
  | .ask other (.set _) => other = name
  | _ => false

/-- Whether a step has a cache emptied. -/
def Step.clears : Step → Bool
  | .ask _ .clear => true
  | _ => false

/-- The settings of an engine after an action. -/
def Settings.behind (s : Settings) : Action → Settings
  | .set a => s.assign a
  | _ => s

namespace Session

variable {s : Session} {step : Step} {name : Text} {e : Engine}

/-! ## Stores -/

/-- What is asked of an engine leaves every store. -/
theorem store_act (s : Session) (name : Text) (e : Engine) (action : Action) :
    (s.act name e action).2.store = s.store := by
  funext ref
  cases action <;> cases ref <;> rfl

/-- **Only a step that changes a store changes what a store answers.** -/
theorem store_step (h : step.changesStore = false) : (s.step step).2.store = s.store := by
  cases step with
  | ask name action =>
    cases he : s.engine? name with
    | none => rw [step_ask_of_none he]
    | some e => rw [step_ask he, store_act]
  | engine name choices cache store =>
    funext ref
    rw [Session.step]
    split <;> cases ref <;> rfl
  | environment value =>
    funext ref
    cases ref <;> rfl
  | putTemplate _ _ | deleteTemplate _ | putFile _ _ | deleteFile _ | change _ _ => cases h

/-- Steps that change no store leave every store. -/
theorem store_after (steps : List Step) (h : ∀ step ∈ steps, step.changesStore = false) :
    ∀ s : Session, (s.after steps).store = s.store := by
  induction steps with
  | nil => exact fun _ => rfl
  | cons step rest ih =>
    intro s
    obtain ⟨hstep, hrest⟩ := List.forall_mem_cons.mp h
    rw [after, ih hrest, store_step hstep]

/-! ## Engines -/

theorem step_engine_of_ok {choices : Choices} {cache : Option Text} {store : StoreChoice}
    (h : { s with made := s.made + 1 }.makeEngine choices cache store = .ok e) (name : Text) :
    s.step (.engine name choices cache store) =
      (⟨[], .ok (.settings e.settings)⟩, { s with made := s.made + 1 }.setEngine name e) := by
  simp only [Session.step, h]

theorem step_engine_of_error {choices : Choices} {cache : Option Text} {store : StoreChoice}
    {failure : Failure StepError}
    (h : { s with made := s.made + 1 }.makeEngine choices cache store = .error failure) (name : Text) :
    s.step (.engine name choices cache store) =
      (⟨[], .error failure⟩, { s with made := s.made + 1 }) := by
  simp only [Session.step, h]

/-- What is asked of an engine may change its settings and nothing else that it is. -/
theorem engine?_act (h : s.engine? name = some e) (action : Action) :
    (s.act name e action).2.engine? name = some { e with settings := e.settings.behind action } := by
  cases action with
  | set a => exact (engine?_setEngine s name name _).trans (if_pos rfl)
  | candidates _ | resolve _ | load _ | render _ _ | process _ _ _ | compile _ _ | probe _ | read _
  | clear | cachePut _ _ | cacheGet _ => exact h

/-- **An engine is made, or it was there with the store and the cache that it has.** -/
theorem engine?_step (h : (s.step step).2.engine? name = some e) :
    (∃ choices cache store, step = .engine name choices cache store ∧
        { s with made := s.made + 1 }.makeEngine choices cache store = .ok e) ∨
      ∃ before, s.engine? name = some before ∧ e.store = before.store ∧ e.cache = before.cache := by
  cases step with
  | engine other choices cache store =>
    rw [Session.step] at h
    cases hmake : { s with made := s.made + 1 }.makeEngine choices cache store with
    | error f =>
      rw [hmake] at h
      exact .inr ⟨e, h, rfl, rfl⟩
    | ok made =>
      rw [hmake] at h
      replace h := (engine?_setEngine _ other name made).symm.trans h
      by_cases hname : other = name
      · rw [if_pos hname] at h
        cases h
        exact .inl ⟨choices, cache, store, hname ▸ rfl, hmake⟩
      · rw [if_neg hname] at h
        exact .inr ⟨e, h, rfl, rfl⟩
  | ask other action =>
    refine .inr ?_
    cases hother : s.engine? other with
    | none =>
      rw [step_ask_of_none hother] at h
      exact ⟨e, h, rfl, rfl⟩
    | some f =>
      rw [step_ask hother] at h
      cases action with
      | set a =>
        replace h := (engine?_setEngine s other name _).symm.trans h
        by_cases hname : other = name
        · rw [if_pos hname] at h
          cases h
          exact ⟨f, hname ▸ hother, rfl, rfl⟩
        · rw [if_neg hname] at h
          exact ⟨e, h, rfl, rfl⟩
      | candidates _ | resolve _ | load _ | render _ _ | process _ _ _ | compile _ _ | probe _
      | read _ | clear | cachePut _ _ | cacheGet _ => exact ⟨e, h, rfl, rfl⟩
  | environment _ | putTemplate _ _ | deleteTemplate _ | putFile _ _ | deleteFile _ | change _ _ =>
    exact .inr ⟨e, h, rfl, rfl⟩

/-- An engine that is neither made nor set stays as it is. -/
theorem engine?_step_of_configures (h : step.configures name = false) :
    (s.step step).2.engine? name = s.engine? name := by
  cases step with
  | engine other choices cache store =>
    have hother : other ≠ name := of_decide_eq_false h
    rw [Session.step]
    split
    next => rfl
    next made _ => exact (engine?_setEngine _ other name made).trans (if_neg hother)
  | ask other action =>
    cases he : s.engine? other with
    | none => rw [step_ask_of_none he]
    | some e =>
      rw [step_ask he]
      cases action with
      | set a =>
        have hother : other ≠ name := of_decide_eq_false h
        exact (engine?_setEngine s other name _).trans (if_neg hother)
      | candidates _ | resolve _ | load _ | render _ _ | process _ _ _ | compile _ _ | probe _
      | read _ | clear | cachePut _ _ | cacheGet _ => rfl
  | environment _ | putTemplate _ _ | deleteTemplate _ | putFile _ _ | deleteFile _ | change _ _ => rfl

/-- Steps that neither make nor set an engine leave it as it is. -/
theorem engine?_after (steps : List Step)
    (h : ∀ step ∈ steps, step.configures name = false) :
    ∀ s : Session, (s.after steps).engine? name = s.engine? name := by
  induction steps with
  | nil => exact fun _ => rfl
  | cons step rest ih =>
    intro s
    obtain ⟨hstep, hrest⟩ := List.forall_mem_cons.mp h
    rw [after, ih hrest, engine?_step_of_configures hstep]

/-! ## Caches -/

/-- What is asked of an engine leaves every cache that is not its own. -/
theorem cache_act_of_ne {r : CacheRef} (h : e.cache ≠ r) (action : Action) :
    (s.act name e action).2.cache r = s.cache r := by
  have hset (c : Cache) : (s.setCache e.cache c).cache r = s.cache r := by rw [cache_setCache, if_neg h]
  cases action with
  | load _ | render _ _ | clear | cachePut _ _ => exact hset _
  | set _ | candidates _ | resolve _ | process _ _ _ | compile _ _ | probe _ | read _ | cacheGet _ => rfl

/-- A step leaves every cache that no engine uses which it asks. -/
theorem cache_step_of_ne {r : CacheRef}
    (h : ∀ other action f, step = .ask other action → s.engine? other = some f → f.cache ≠ r) :
    (s.step step).2.cache r = s.cache r := by
  cases step with
  | ask other action =>
    cases he : s.engine? other with
    | none => rw [step_ask_of_none he]
    | some f => rw [step_ask he, cache_act_of_ne (h other action f rfl he)]
  | engine other choices cache store =>
    rw [Session.step]
    split <;> rfl
  | environment _ | putTemplate _ _ | deleteTemplate _ | putFile _ _ | deleteFile _ | change _ _ => rfl

/-- **A cache stays, is emptied, or is what a load by an engine that uses it leaves**, as long as no
step writes into it. -/
theorem cache_step (hdirect : step.writesCache = false) (r : CacheRef) :
    (s.step step).2.cache r = s.cache r ∨
      step.clears = true ∧ (s.step step).2.cache r = .empty ∨
      ∃ name e template, s.engine? name = some e ∧ e.cache = r ∧
        (s.step step).2.cache r = (s.loading e template).2 := by
  cases step with
  | ask name action =>
    cases he : s.engine? name with
    | none => exact .inl (by rw [step_ask_of_none he])
    | some e =>
      rw [step_ask he]
      by_cases hr : e.cache = r
      · cases action with
        | load template | render template _ =>
          refine .inr (.inr ⟨name, e, template, he, hr, ?_⟩)
          rw [(s.act_of_loads name e rfl).2, cache_setCache, if_pos hr]
        | clear =>
          refine .inr (.inl ⟨rfl, ?_⟩)
          have hleft : (s.act name e .clear).2 = s.setCache e.cache .empty := rfl
          rw [hleft, cache_setCache, if_pos hr]
        | cachePut _ _ => cases hdirect
        | set _ | candidates _ | resolve _ | process _ _ _ | compile _ _ | probe _ | read _
        | cacheGet _ => exact .inl rfl
      · exact .inl (cache_act_of_ne hr action)
  | engine name choices cache store =>
    rw [Session.step]
    split <;> exact .inl rfl
  | environment _ | putTemplate _ _ | deleteTemplate _ | putFile _ _ | deleteFile _ | change _ _ =>
    exact .inl rfl

/-! ## Engines and their numbers -/

/-- The cache that a new engine gets: the one of the label that it is given, or one of its own. -/
def cacheFor (number : Nat) : Option Text → CacheRef
  | some label => .shared label
  | none => .own number

theorem cache_of_makeEngine {choices : Choices} {cache : Option Text} {store : StoreChoice}
    (h : s.makeEngine choices cache store = .ok e) : e.cache = cacheFor s.made cache := by
  unfold makeEngine at h
  split at h
  next => cases h
  next =>
    split at h
    next => cases h
    next =>
      cases h
      cases cache <;> rfl

theorem made_engine (s : Session) (name : Text) (choices : Choices) (cache : Option Text)
    (store : StoreChoice) : (s.step (.engine name choices cache store)).2.made = s.made + 1 := by
  rw [Session.step]
  split <;> rfl

theorem made_le_step (s : Session) (step : Step) : s.made ≤ (s.step step).2.made := by
  cases step with
  | engine name choices cache store => exact made_engine s name choices cache store ▸ Nat.le_succ _
  | ask name action =>
    cases he : s.engine? name with
    | none => exact Nat.le_of_eq (by rw [step_ask_of_none he])
    | some e =>
      rw [step_ask he]
      cases action <;> exact Nat.le_refl _
  | environment _ | putTemplate _ _ | deleteTemplate _ | putFile _ _ | deleteFile _ | change _ _ =>
    exact Nat.le_refl _

/-- One more step of a run. -/
theorem after_take_succ (s : Session) {steps : List Step} {n : Nat} {step : Step}
    (h : steps[n]? = some step) :
    s.after (steps.take (n + 1)) = ((s.after (steps.take n)).step step).2 := by
  induction steps generalizing s n with
  | nil => cases h
  | cons first rest ih =>
    cases n with
    | zero =>
      cases h
      rfl
    | succ n => exact ih (s.step first).2 h

/-- Behind the last step a run goes no further. -/
theorem after_take_of_none (s : Session) {steps : List Step} {n : Nat} (h : steps[n]? = none) :
    s.after (steps.take (n + 1)) = s.after (steps.take n) := by
  have hlength : steps.length ≤ n := List.getElem?_eq_none_iff.mp h
  rw [List.take_of_length_le hlength, List.take_of_length_le (Nat.le_succ_of_le hlength)]

theorem made_le_after (s : Session) (steps : List Step) {m n : Nat} (h : m ≤ n) :
    (s.after (steps.take m)).made ≤ (s.after (steps.take n)).made := by
  induction h with
  | refl => exact Nat.le_refl _
  | @step n _ ih =>
    cases hstep : steps[n]? with
    | none => rwa [s.after_take_of_none hstep]
    | some step =>
      rw [s.after_take_succ hstep]
      exact Nat.le_trans ih (made_le_step _ step)

/-- **An engine was made by a step**, and has the cache that it got there. -/
theorem exists_engine_of_after (hnone : ∀ name, s.engine? name = none) {steps : List Step} {n : Nat}
    (h : (s.after (steps.take n)).engine? name = some e) :
    ∃ j choices cache store, steps[j]? = some (.engine name choices cache store) ∧
      e.cache = cacheFor (s.after (steps.take (j + 1))).made cache := by
  induction n generalizing e with
  | zero => cases (hnone name).symm.trans h
  | succ n ih =>
    cases hstep : steps[n]? with
    | none =>
      rw [s.after_take_of_none hstep] at h
      exact ih h
    | some step =>
      rw [s.after_take_succ hstep] at h
      rcases engine?_step h with ⟨choices, cache, store, rfl, hmake⟩ | ⟨before, hbefore, -, hcache⟩
      · refine ⟨n, choices, cache, store, hstep, ?_⟩
        rw [s.after_take_succ hstep, made_engine]
        exact cache_of_makeEngine hmake
      · obtain ⟨j, choices, cache, store, hj, hown⟩ := ih hbefore
        exact ⟨j, choices, cache, store, hj, hcache.trans hown⟩

/-- A number is given out once. -/
theorem made_lt_of_engine {steps : List Step} {i j : Nat} (hij : i < j) {choices : Choices}
    {cache : Option Text} {store : StoreChoice}
    (hj : steps[j]? = some (.engine name choices cache store)) :
    (s.after (steps.take (i + 1))).made < (s.after (steps.take (j + 1))).made := by
  rw [s.after_take_succ hj, made_engine]
  exact Nat.lt_succ_of_le (s.made_le_after steps hij)

end Session

end Stencil
