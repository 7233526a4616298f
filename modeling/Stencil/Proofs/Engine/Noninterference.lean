import Stencil.Proofs.Engine.Steps

/-!
# Engines that share no cache

An engine that shares its cache with no other is not touched by what the others do. Take their steps out
of a session, and every step of the engine that is left answers the same, makes the same calls to its
store, and leaves it with the same settings and the same names in its cache (`sights_filter`). Changes of
the environment and of the stores stay, because every engine sees those.

The two sessions are compared by `Alike`. They have the same stores and the same environment, and the
engine shows the same `Face`: its settings, its store and the content of its cache. They may differ in
everything that belongs to other engines, and in the number by which an engine knows a cache of its own,
since that counts all engines that were made. A step of another engine changes nothing that is compared
(`Alike.of_other`), and every other step changes it alike in both sessions (`Alike.step`).

Engines share a cache only by a label that both were made with (`alone_of_labels`).
-/

namespace Stencil

/-- Whether a step makes an engine under a name, or asks something of the one that has it. -/
def Step.isOf (name : Text) : Step → Bool
  | .engine other .. | .ask other _ => other = name
  | _ => false

/-- Whether a step makes an engine under another name, or asks something of one that has another. -/
def Step.isOfOther (name : Text) : Step → Bool
  | .engine other .. | .ask other _ => other ≠ name
  | _ => false

namespace Step

variable {name : Text} {step : Step}

theorem isOf_of_isOfOther (h : step.isOfOther name = true) : step.isOf name = false := by
  cases step with
  | engine other _ _ _ | ask other _ => exact decide_eq_false (of_decide_eq_true h)
  | environment _ | putTemplate _ _ | deleteTemplate _ | putFile _ _ | deleteFile _ | change _ _ => cases h

theorem configures_of_isOfOther (h : step.isOfOther name = true) : step.configures name = false := by
  cases step with
  | engine other _ _ _ => exact decide_eq_false (of_decide_eq_true h)
  | ask other action =>
    cases action with
    | set _ => exact decide_eq_false (of_decide_eq_true h)
    | candidates _ | resolve _ | load _ | render _ _ | process _ _ _ | compile _ _ | probe _ | read _
    | clear | cachePut _ _ | cacheGet _ => rfl
  | environment _ | putTemplate _ _ | deleteTemplate _ | putFile _ _ | deleteFile _ | change _ _ => cases h

end Step

/-- The label of a cache that has one. -/
def CacheRef.label? : CacheRef → Option Text
  | .shared label => some label
  | .own _ => none

/-- What an engine is, up to the number of its cache. -/
structure Face where
  settings : Settings
  store : StoreRef
  cache : Cache
  label : Option Text

/-- What is seen of an engine at one of its steps: the answer, and its settings and the names that its
cache keeps afterwards. -/
structure Sight where
  answer : Traced Outcome
  settings : Option Settings
  cached : List Text

namespace Session

/-- What is seen of an engine in the course of steps. -/
def sights (s : Session) (name : Text) (steps : List Step) : List Sight :=
  (steps.zip (s.run steps)).filterMap fun (step, answer, after) =>
    if step.isOf name then
      some ⟨answer, (after.engine? name).map (·.settings), after.cachedNames name⟩
    else none

/-- No other engine uses a cache that the engine of a name uses, at any time in the course of steps. -/
def Alone (s : Session) (name : Text) (steps : List Step) : Prop :=
  ∀ m n other e f, other ≠ name → (s.after (steps.take m)).engine? name = some e →
    (s.after (steps.take n)).engine? other = some f → e.cache ≠ f.cache

/-- What an engine is in a session. -/
def face (s : Session) (e : Engine) : Face := ⟨e.settings, e.store, s.cache e.cache, e.cache.label?⟩

/-- What the engine of a name is. -/
def face? (s : Session) (name : Text) : Option Face := (s.engine? name).map s.face

/-- The session without its engines and caches. -/
def bare (s : Session) : Session := { s with engines := [], caches := [], made := 0 }

variable {s t : Session} {name : Text} {e f : Engine}

theorem settings_of_face? (s : Session) (name : Text) :
    (s.engine? name).map (·.settings) = (s.face? name).map (·.settings) := by
  rw [face?, Option.map_map]
  rfl

theorem cachedNames_of_face? (s : Session) (name : Text) :
    s.cachedNames name = ((s.face? name).map (·.cache.names)).getD [] := by
  rw [cachedNames, face?]
  cases s.engine? name <;> rfl

/-- The first step is seen in front of the others, if it is one of the engine's. -/
theorem sights_cons (s : Session) (name : Text) (step : Step) (rest : List Step) :
    s.sights name (step :: rest) =
      if step.isOf name then
        ⟨(s.step step).1, ((s.step step).2.face? name).map (·.settings),
            (((s.step step).2.face? name).map (·.cache.names)).getD []⟩ ::
          (s.step step).2.sights name rest
      else (s.step step).2.sights name rest := by
  rw [← settings_of_face?, ← cachedNames_of_face?]
  cases hof : step.isOf name with
  | true => simp only [sights, run, List.zip_cons_cons, List.filterMap_cons, hof, if_true]
  | false =>
    simp only [sights, run, List.zip_cons_cons, List.filterMap_cons, hof, Bool.false_eq_true, if_false]

/-! ## What engines do not change -/

theorem store_of_bare (h : t.bare = s.bare) : t.store = s.store := by
  have hbare (u : Session) : u.store = u.bare.store := by
    funext ref
    cases ref <;> rfl
  rw [hbare t, hbare s, h]

theorem bare_act (s : Session) (name : Text) (e : Engine) (action : Action) :
    (s.act name e action).2.bare = s.bare := by
  cases action <;> rfl

theorem bare_ask (s : Session) (name : Text) (action : Action) :
    (s.step (.ask name action)).2.bare = s.bare := by
  cases he : s.engine? name with
  | none => rw [step_ask_of_none he]
  | some e => rw [step_ask he, bare_act]

theorem bare_engine (s : Session) (name : Text) (choices : Choices) (cache : Option Text)
    (store : StoreChoice) : (s.step (.engine name choices cache store)).2.bare = s.bare := by
  rw [Session.step]
  split <;> rfl

theorem bare_step_of_isOfOther {step : Step} (h : step.isOfOther name = true) :
    (s.step step).2.bare = s.bare := by
  cases step with
  | engine other choices cache store => exact bare_engine ..
  | ask other action => exact bare_ask ..
  | environment _ | putTemplate _ _ | deleteTemplate _ | putFile _ _ | deleteFile _ | change _ _ => cases h

/-- What a step does to the stores and to the environment does not depend on engines and caches. -/
theorem bare_step {step : Step} (h : t.bare = s.bare) : (t.step step).2.bare = (s.step step).2.bare := by
  have hbare (u : Session) : (u.step step).2.bare = (u.bare.step step).2.bare := by
    cases step with
    | engine other choices cache store => rw [bare_engine, bare_engine]; rfl
    | ask other action => rw [bare_ask, bare_ask]; rfl
    | environment _ | putTemplate _ _ | deleteTemplate _ | putFile _ _ | deleteFile _ | change _ _ => rfl
  rw [hbare t, hbare s, h]

/-! ## What an engine depends on -/

/-- **Engines that are the same do the same**, to themselves and in their answers. -/
theorem act_of_face (hbare : t.bare = s.bare) (hface : t.face f = s.face e) (action : Action) :
    (t.act name f action).1 = (s.act name e action).1 ∧
      (t.act name f action).2.cache f.cache = (s.act name e action).2.cache e.cache := by
  have hsettings : f.settings = e.settings := congrArg Face.settings hface
  have hcache : t.cache f.cache = s.cache e.cache := congrArg Face.cache hface
  have hstore : t.store f.store = s.store e.store := by
    rw [store_of_bare hbare, show f.store = e.store from congrArg Face.store hface]
  have hloading (template : Text) : t.loading f template = s.loading e template := by
    have henvironment : t.bare.environment = s.bare.environment := by rw [hbare]
    change t.environment = s.environment at henvironment
    rw [loading, loading, hstore, hsettings, henvironment, hcache]
  have hset {c d : Cache} (h : c = d) :
      (t.setCache f.cache c).cache f.cache = (s.setCache e.cache d).cache e.cache := by
    rw [cache_setCache, cache_setCache, if_pos rfl, if_pos rfl, h]
  cases action with
  | load template =>
    rw [act_load, act_load, hloading]
    exact ⟨rfl, hset rfl⟩
  | render template context =>
    rw [act_render, act_render, hloading, hsettings]
    exact ⟨rfl, hset rfl⟩
  | clear => exact ⟨rfl, hset rfl⟩
  | cachePut entry source => exact ⟨rfl, hset (by rw [hcache])⟩
  | set _ | candidates _ | resolve _ | process _ _ _ | compile _ _ | probe _ | read _ | cacheGet _ =>
    refine ⟨?_, hcache⟩
    simp only [act, hsettings, hstore, hcache]

/-- A new engine depends on stores and the environment, but for the number of its cache. -/
theorem makeEngine_of_bare (h : t.bare = s.bare) (choices : Choices) (cache : Option Text)
    (store : StoreChoice) : t.makeEngine choices cache store =
      (s.makeEngine choices cache store).map fun e : Engine => { e with cache := cacheFor t.made cache } := by
  have hbare (u : Session) : u.openStore = u.bare.openStore := by
    funext settings choice
    cases choice <;> rfl
  have hopen : t.openStore = s.openStore := by rw [hbare t, hbare s, h]
  unfold makeEngine
  cases Settings.ofChoices choices with
  | error _ => rfl
  | ok settings =>
    dsimp only
    rw [hopen]
    cases s.openStore settings store with
    | error _ => rfl
    | ok ref => cases cache <;> rfl

/-! ## Numbers of caches -/

/-- The numbers of caches have been given out, and nothing is kept behind the others. -/
structure Numbered (s : Session) : Prop where
  engines : ∀ name e k, s.engine? name = some e → e.cache = .own k → k ≤ s.made
  caches : ∀ k, s.made < k → s.cache (.own k) = .empty

theorem numbered_start (templates : Templates) (files : FileTree) (environment : Option Text) :
    (start templates files environment).Numbered where
  engines _ _ _ h := nomatch h
  caches _ _ := rfl

theorem Numbered.after_step (h : s.Numbered) (step : Step) : (s.step step).2.Numbered where
  engines name e k he hk := by
    rcases engine?_step he with ⟨choices, cache, store, rfl, hmake⟩ | ⟨before, hbefore, -, hcache⟩
    · rw [made_engine]
      rw [cache_of_makeEngine hmake] at hk
      cases cache <;> cases hk
      exact Nat.le_refl _
    · exact Nat.le_trans (h.engines name before k hbefore (hcache ▸ hk)) (s.made_le_step step)
  caches k hk := by
    have hmade : s.made < k := Nat.lt_of_le_of_lt (s.made_le_step step) hk
    rw [cache_step_of_ne, h.caches k hmade]
    intro other action f _ hf hcache
    exact Nat.not_le.mpr hmade (h.engines other f k hf hcache)

/-! ## Two sessions -/

/-- Sessions in which an engine is the same, and in which it would be if it were made anew: stores and
environment are the same, and so are the caches with labels, the ones left out that are foreign to it. -/
structure Alike (name : Text) (foreign : CacheRef → Prop) (s t : Session) : Prop where
  bare : t.bare = s.bare
  face : t.face? name = s.face? name
  shared : ∀ label, ¬ foreign (.shared label) → t.cache (.shared label) = s.cache (.shared label)

namespace Alike

variable {foreign : CacheRef → Prop}

theorem refl (s : Session) : Alike name foreign s s := ⟨rfl, rfl, fun _ _ => rfl⟩

/-- **A step of another engine can be left out**, if that uses foreign caches and the engine that is
looked at does not. -/
theorem of_other {step : Step} (h : Alike name foreign s t) (hother : step.isOfOther name = true)
    (hforeign : ∀ other f, other ≠ name → s.engine? other = some f → foreign f.cache)
    (hown : ∀ e, s.engine? name = some e → ¬ foreign e.cache) :
    Alike name foreign (s.step step).2 t := by
  have hcache {r : CacheRef} (hr : ¬ foreign r) : (s.step step).2.cache r = s.cache r := by
    refine cache_step_of_ne ?_
    rintro other action f rfl hf rfl
    exact hr (hforeign other f (of_decide_eq_true hother) hf)
  have hface : (s.step step).2.face? name = s.face? name := by
    rw [face?, face?, engine?_step_of_configures (Step.configures_of_isOfOther hother)]
    cases he : s.engine? name with
    | none => rfl
    | some e => simp only [Option.map_some, Session.face, hcache (hown e he)]
  exact
    { bare := h.bare.trans (bare_step_of_isOfOther hother).symm
      face := h.face.trans hface.symm
      shared := fun label hlabel => (h.shared label hlabel).trans (hcache hlabel).symm }

/-- Making the engine in both sessions makes the same engine, or fails for the same reason. -/
theorem step_engine (h : Alike name foreign s t) (hs : s.Numbered) (ht : t.Numbered)
    {choices : Choices} {cache : Option Text} {store : StoreChoice}
    (hown : ∀ e, (s.step (.engine name choices cache store)).2.engine? name = some e →
      ¬ foreign e.cache) :
    Alike name foreign (s.step (.engine name choices cache store)).2
        (t.step (.engine name choices cache store)).2 ∧
      (t.step (.engine name choices cache store)).1 =
        (s.step (.engine name choices cache store)).1 := by
  have hmake : { t with made := t.made + 1 }.makeEngine choices cache store =
      ({ s with made := s.made + 1 }.makeEngine choices cache store).map fun e : Engine =>
        { e with cache := cacheFor (t.made + 1) cache } :=
    makeEngine_of_bare (s := { s with made := s.made + 1 }) (t := { t with made := t.made + 1 })
      h.bare choices cache store
  cases hmakes : { s with made := s.made + 1 }.makeEngine choices cache store with
  | error failure =>
    rw [hmakes] at hmake
    rw [step_engine_of_error hmakes, step_engine_of_error hmake]
    exact ⟨⟨h.bare, h.face, h.shared⟩, rfl⟩
  | ok e =>
    rw [hmakes] at hmake
    rw [step_engine_of_ok hmakes] at hown
    rw [step_engine_of_ok hmakes, step_engine_of_ok hmake]
    replace hown := hown e ((engine?_setEngine ..).trans (if_pos rfl))
    have hcache : e.cache = cacheFor (s.made + 1) cache := cache_of_makeEngine hmakes
    -- A labelled cache is the same in both, and a cache of its own is new, so it is empty in both.
    have hcaches : t.cache (cacheFor (t.made + 1) cache) = s.cache e.cache := by
      rw [hcache] at hown ⊢
      cases cache with
      | some label => exact h.shared label hown
      | none => exact (ht.caches _ (Nat.lt_succ_self _)).trans (hs.caches _ (Nat.lt_succ_self _)).symm
    have hlabel : (cacheFor (t.made + 1) cache).label? = e.cache.label? := by
      rw [hcache]
      cases cache <;> rfl
    have hface : t.face { e with cache := cacheFor (t.made + 1) cache } = s.face e := by
      rw [Session.face, hcaches, hlabel, Session.face]
    refine ⟨⟨h.bare, ?_, h.shared⟩, rfl⟩
    rw [face?, face?, engine?_setEngine, engine?_setEngine, if_pos rfl, if_pos rfl]
    exact congrArg some hface

/-- What is asked of the engine in both sessions is answered alike. -/
theorem step_ask (h : Alike name foreign s t) (action : Action) :
    Alike name foreign (s.step (.ask name action)).2 (t.step (.ask name action)).2 ∧
      (t.step (.ask name action)).1 = (s.step (.ask name action)).1 := by
  have hfaces := h.face
  rw [face?, face?] at hfaces
  cases hs : s.engine? name with
  | none =>
    rw [hs] at hfaces
    have ht : t.engine? name = none := Option.map_eq_none_iff.mp hfaces
    rw [step_ask_of_none hs, step_ask_of_none ht]
    refine ⟨h, ?_⟩
    simp only [Session.step, hs, ht]
  | some e =>
    rw [hs] at hfaces
    obtain ⟨f, ht, hface⟩ := Option.map_eq_some_iff.mp hfaces
    obtain ⟨hanswer, hcache⟩ := act_of_face h.bare hface action
    have hlabels : f.cache.label? = e.cache.label? := congrArg Face.label hface
    have hsettings : f.settings = e.settings := congrArg Face.settings hface
    have hstore : f.store = e.store := congrArg Face.store hface
    rw [Session.step_ask hs, Session.step_ask ht]
    refine ⟨⟨?_, ?_, fun label hlabel => ?_⟩, hanswer⟩
    · rw [bare_act, bare_act, h.bare]
    · rw [face?, face?, engine?_act hs, engine?_act ht]
      simp only [Option.map_some, Session.face, hsettings, hstore, hcache, hlabels]
    · by_cases he : e.cache = .shared label
      · have hf : f.cache = .shared label := by
          rw [he] at hlabels
          cases hfc : f.cache <;> rw [hfc] at hlabels <;> cases hlabels
          rfl
        rw [he, hf] at hcache
        exact hcache
      · have hf : f.cache ≠ .shared label := by
          intro hf
          rw [hf] at hlabels
          cases hec : e.cache <;> rw [hec] at hlabels <;> cases hlabels
          exact he hec
        rw [cache_act_of_ne he, cache_act_of_ne hf, h.shared label hlabel]

/-- **Every other step is taken alike**, and answered alike if it is a step of the engine. -/
theorem step (h : Alike name foreign s t) (hs : s.Numbered) (ht : t.Numbered) {step : Step}
    (hother : step.isOfOther name = false)
    (hown : ∀ e, (s.step step).2.engine? name = some e → ¬ foreign e.cache) :
    Alike name foreign (s.step step).2 (t.step step).2 ∧
      (step.isOf name = true → (t.step step).1 = (s.step step).1) := by
  cases step with
  | engine other choices cache store =>
    obtain rfl : other = name := Decidable.of_not_not (of_decide_eq_false hother)
    obtain ⟨halike, hanswer⟩ := h.step_engine hs ht hown
    exact ⟨halike, fun _ => hanswer⟩
  | ask other action =>
    obtain rfl : other = name := Decidable.of_not_not (of_decide_eq_false hother)
    obtain ⟨halike, hanswer⟩ := h.step_ask action
    exact ⟨halike, fun _ => hanswer⟩
  | environment _ | putTemplate _ _ | deleteTemplate _ | putFile _ _ | deleteFile _ | change _ _ =>
    exact ⟨⟨bare_step h.bare, h.face, h.shared⟩, fun hof => nomatch hof⟩

/-- **Leaving the steps of other engines out leaves what is seen of an engine**, in sessions that are
alike. -/
theorem sights_eq {steps : List Step} (h : Alike name foreign s t) (hs : s.Numbered)
    (ht : t.Numbered)
    (hforeign : ∀ n other f, other ≠ name → (s.after (steps.take n)).engine? other = some f →
      foreign f.cache)
    (hown : ∀ n e, (s.after (steps.take n)).engine? name = some e → ¬ foreign e.cache) :
    t.sights name (steps.filter fun step => !step.isOfOther name) = s.sights name steps := by
  induction steps generalizing s t with
  | nil => rfl
  | cons step rest ih =>
    have hforeignRest := fun n => hforeign (n + 1)
    have hownRest := fun n => hown (n + 1)
    cases hother : step.isOfOther name with
    | true =>
      have hof : step.isOf name = false := Step.isOf_of_isOfOther hother
      have halike := h.of_other hother (hforeign 0) (hown 0)
      rw [List.filter_cons_of_neg (by simp [hother]), sights_cons, hof]
      exact ih halike (hs.after_step step) ht hforeignRest hownRest
    | false =>
      obtain ⟨halike, hanswer⟩ := h.step hs ht hother (hown 1)
      have hrest := ih halike (hs.after_step step) (ht.after_step step) hforeignRest hownRest
      rw [List.filter_cons_of_pos (by simp [hother]), sights_cons, sights_cons, hrest, halike.face]
      split
      next hof => rw [hanswer hof]
      next => rfl

end Alike

/-- **What is seen of an engine that shares its cache with no other does not depend on the others**: all
their steps can be left out. -/
theorem sights_filter (templates : Templates) (files : FileTree) (environment : Option Text)
    (name : Text) (steps : List Step) (halone : (start templates files environment).Alone name steps) :
    (start templates files environment).sights name (steps.filter fun step => !step.isOfOther name) =
      (start templates files environment).sights name steps := by
  have hnumbered := numbered_start templates files environment
  have halike : Alike name
      (fun r => ∃ n other f, other ≠ name ∧
        ((start templates files environment).after (steps.take n)).engine? other = some f ∧ f.cache = r)
      (start templates files environment) (start templates files environment) := .refl _
  refine halike.sights_eq hnumbered hnumbered ?_ ?_
  · intro n other f hother hf
    exact ⟨n, other, f, hother, hf, rfl⟩
  · rintro m e he ⟨n, other, f, hother, hf, hcache⟩
    exact halone m n other e f hother he hf hcache.symm

/-! ## Engines that are alone -/

/-- **An engine is alone if no other is made with its label.** Without a label it always is. -/
theorem alone_of_labels (hnone : ∀ name, s.engine? name = none) {steps : List Step}
    (hlabels : ∀ label other choices choices' store store',
      .engine name choices (some label) store ∈ steps →
      .engine other choices' (some label) store' ∈ steps → other = name) : s.Alone name steps := by
  intro m n other e f hother he hf hcache
  obtain ⟨i, choices, cache, store, hi, hown⟩ := exists_engine_of_after hnone he
  obtain ⟨j, choices', cache', store', hj, hown'⟩ := exists_engine_of_after hnone hf
  rw [hown, hown'] at hcache
  cases cache with
  | some label =>
    cases cache' <;> cases hcache
    exact hother (hlabels label other choices choices' store store' (List.mem_of_getElem? hi)
      (List.mem_of_getElem? hj))
  | none =>
    cases cache' with
    | some _ => cases hcache
    | none =>
      have hmade : (s.after (steps.take (i + 1))).made = (s.after (steps.take (j + 1))).made :=
        CacheRef.own.inj hcache
      rcases Nat.lt_trichotomy i j with hij | rfl | hji
      · exact absurd hmade (Nat.ne_of_lt (made_lt_of_engine hij hj))
      · cases hi.symm.trans hj
        exact hother rfl
      · exact absurd hmade.symm (Nat.ne_of_lt (made_lt_of_engine hji hi))

/-- Two engines of one store, each with a cache of its own. The second one loads, is set and is emptied
while the first one is at work. -/
def interleavedSteps : List Step :=
  [.engine ['b'] { policy := some (.text "enabled") } none .memory,
    .engine ['a'] {} none .memory,
    .ask ['b'] (.load ['p', '.', 'h']),
    .environment (some "production"),
    .ask ['a'] (.load ['p', '.', 'h']),
    .ask ['b'] (.set (.policy .disabled)),
    .putTemplate ['p', '.', 'h'] ['y'],
    .ask ['b'] .clear,
    .ask ['a'] (.load ['p', '.', 'h'])]

/-- The steps that are left of them without the second engine. -/
def solitarySteps : List Step :=
  [.engine ['a'] {} none .memory,
    .environment (some "production"),
    .ask ['a'] (.load ['p', '.', 'h']),
    .putTemplate ['p', '.', 'h'] ['y'],
    .ask ['a'] (.load ['p', '.', 'h'])]

/-- The engine takes its template from its cache in the end, the other one emptied its own. -/
theorem sights_filter_interleavedSteps :
    (start [(['p', '.', 'h'], ['x'])] default none).Alone ['a'] interleavedSteps ∧
      (start [(['p', '.', 'h'], ['x'])] default none).sights ['a'] solitarySteps =
        (start [(['p', '.', 'h'], ['x'])] default none).sights ['a'] interleavedSteps := by
  have halone : (start [(['p', '.', 'h'], ['x'])] default none).Alone ['a'] interleavedSteps := by
    refine alone_of_labels (fun _ => rfl) ?_
    simp [interleavedSteps]
  exact ⟨halone, sights_filter _ _ _ _ _ halone⟩

end Session

end Stencil
