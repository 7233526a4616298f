import Stencil.Engine.Session

/-!
# Sessions and their caches

Where a step leads, and what it does to a cache. A session holds its caches in a list, of which only
the answers of `Session.cache` matter: `cache_setCache` says what changing one of them does to all of
them. `after` is the session that steps lead to; `run_getElem?` says that these are the sessions that
`run` goes through.
-/

namespace Stencil

/-- The name of the template that an action loads, if it loads one. -/
def Action.loads? : Action → Option Text
  | .load template | .render template _ => some template
  | .set _ | .candidates _ | .resolve _ | .process .. | .compile .. | .probe _ | .read _ | .clear
  | .cachePut .. | .cacheGet _ => none

namespace Session

/-! ## Caches -/

/-- Taking a cache out of a list leaves every other one. -/
theorem findCache_filter_ne {r q : CacheRef} (h : q ≠ r) (caches : List (CacheRef × Cache)) :
    findCache q (caches.filter fun (p, _) => p ≠ r) = findCache q caches := by
  induction caches with
  | nil => rfl
  | cons entry caches ih =>
    obtain ⟨p, c⟩ := entry
    by_cases hp : p = r
    · have hq : p ≠ q := fun hpq => h (hpq ▸ hp)
      rw [List.filter_cons_of_neg (by simp [hp]), findCache, if_neg hq, ih]
    · rw [List.filter_cons_of_pos (by simp [hp]), findCache, findCache, ih]

/-- The cache that was set is there, and every other one is what it was. -/
theorem cache_setCache (s : Session) (r q : CacheRef) (c : Cache) :
    (s.setCache r c).cache q = if r = q then c else s.cache q := by
  rw [cache, setCache, findCache]
  split
  next => rfl
  next h => exact findCache_filter_ne (Ne.symm h) s.caches

/-- Setting a cache to what it is changes none. -/
theorem cache_setCache_self (s : Session) (r q : CacheRef) :
    (s.setCache r (s.cache r)).cache q = s.cache q := by
  rw [cache_setCache]
  split
  next h => rw [h]
  next => rfl

/-! ## Engines -/

/-- Taking an engine out of a list leaves every other one. -/
theorem findEngine_filter_ne {name other : Text} (h : other ≠ name)
    (engines : List (Text × Engine)) :
    findEngine other (engines.filter fun (n, _) => n ≠ name) = findEngine other engines := by
  induction engines with
  | nil => rfl
  | cons entry engines ih =>
    obtain ⟨n, e⟩ := entry
    by_cases hn : n = name
    · have hother : n ≠ other := fun heq => h (heq ▸ hn)
      rw [List.filter_cons_of_neg (by simp [hn]), findEngine, if_neg hother, ih]
    · rw [List.filter_cons_of_pos (by simp [hn]), findEngine, findEngine, ih]

/-- An engine that was taken out is not found any more. -/
theorem findEngine_filter_self (name : Text) (engines : List (Text × Engine)) :
    findEngine name (engines.filter fun (n, _) => n ≠ name) = none := by
  induction engines with
  | nil => rfl
  | cons entry engines ih =>
    obtain ⟨n, e⟩ := entry
    by_cases hn : n = name
    · rw [List.filter_cons_of_neg (by simp [hn]), ih]
    · rw [List.filter_cons_of_pos (by simp [hn]), findEngine, if_neg hn, ih]

/-- Of engines behind one another the first of a name is found. -/
theorem findEngine_append (name : Text) (engines more : List (Text × Engine)) :
    findEngine name (engines ++ more) = (findEngine name engines).or (findEngine name more) := by
  induction engines with
  | nil => rfl
  | cons entry engines ih =>
    obtain ⟨n, e⟩ := entry
    rw [List.cons_append, findEngine, findEngine, ih]
    split <;> rfl

/-- The engine that was set is there, and every other one is what it was. -/
theorem engine?_setEngine (s : Session) (name other : Text) (e : Engine) :
    (s.setEngine name e).engine? other = if name = other then some e else s.engine? other := by
  rw [engine?, setEngine, findEngine_append]
  split
  next h => rw [← h, findEngine_filter_self, findEngine, if_pos rfl, Option.none_or]
  next h =>
    rw [findEngine_filter_ne (Ne.symm h), findEngine, if_neg h, findEngine, Option.or_none, engine?]

/-! ## Steps in order -/

/-- The session that steps lead to. -/
def after (s : Session) : List Step → Session
  | [] => s
  | step :: rest => (s.step step).2.after rest

/-- A run answers each step in the session that the steps before it lead to. -/
theorem run_getElem? (s : Session) (steps : List Step) (n : Nat) :
    (s.run steps)[n]? = steps[n]?.map (s.after (steps.take n)).step := by
  induction steps generalizing s n with
  | nil => rfl
  | cons step rest ih =>
    cases n with
    | zero => rfl
    | succ n => exact ih (s.step step).2 n

/-- What is asked of an engine, it does. -/
theorem step_ask {s : Session} {name : Text} {e : Engine} (h : s.engine? name = some e)
    (action : Action) : s.step (.ask name action) = s.act name e action := by
  simp only [step, h]

/-- What is asked of no engine changes nothing. -/
theorem step_ask_of_none {s : Session} {name : Text} (h : s.engine? name = none)
    (action : Action) : (s.step (.ask name action)).2 = s := by
  simp only [step, h]

/-! ## Loads of an engine -/

/-- What an engine does to load a template now. -/
def loading (s : Session) (e : Engine) (template : Text) :
    Traced (Except TemplateFailure Store.Loaded) × Cache :=
  (s.store e.store).load e.settings s.environment (s.cache e.cache) template

/-- A load answers what it found. -/
theorem act_load (s : Session) (name : Text) (e : Engine) (template : Text) :
    s.act name e (.load template) =
      (⟨(s.loading e template).1.calls,
          outcomeOf .template .loaded (s.loading e template).1.result⟩,
        s.setCache e.cache (s.loading e template).2) := rfl

/-- A rendering answers the output of what its load found. -/
theorem act_render (s : Session) (name : Text) (e : Engine) (template : Text) (context : Dict) :
    s.act name e (.render template context) =
      (⟨(s.loading e template).1.calls,
          outcomeOf .template .output ((s.loading e template).1.result.bind fun l =>
            e.settings.process l.resolved l.source context)⟩,
        s.setCache e.cache (s.loading e template).2) := rfl

/-- An action that loads a template makes the calls of the load and leaves the cache of the load. -/
theorem act_of_loads (s : Session) (name : Text) (e : Engine) {template : Text} {action : Action}
    (h : action.loads? = some template) :
    (s.act name e action).1.calls = (s.loading e template).1.calls ∧
      (s.act name e action).2 = s.setCache e.cache (s.loading e template).2 := by
  cases action <;> cases h <;> exact ⟨rfl, rfl⟩

end Session

end Stencil
