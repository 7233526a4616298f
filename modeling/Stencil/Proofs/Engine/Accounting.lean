import Stencil.Proofs.Engine.Loading
import Stencil.Proofs.Engine.Session

/-!
# What a cache keeps, by its history

A cache keeps what was read for it. The history of a session is the record of those reads: of the
loads and renderings by engines that use the cache, while their policy keeps sources, every read that
the store answered with a text, from the last time that the cache was emptied. `Cache.Accounts` ties
the two: under each name the record has one read, of the text that is kept, or none where none is
kept. So no name is read twice for one cache before it is emptied again.

One step keeps the tie (`accounts_step`), whichever engine does what; steps in order keep it by
induction (`accounts_after`). Stores and the environment may change between any two steps, because a
record holds what a store answered at the time. A step that writes into a cache without reading breaks
the tie and is left out.
-/

namespace Stencil

/-! ## The record of reads -/

/-- The text that a store answers to a call, under the path that was read. -/
def Store.answer? (store : Store) : Call → Option (Text × Text)
  | .probe _ => none
  | .read path => (store.read path).toOption.map fun source => (path, source)

/-- The texts that a store answers to calls. -/
def Store.answered (store : Store) (calls : List Call) : List (Text × Text) :=
  calls.filterMap store.answer?

/-- Whether a step writes into a cache directly. -/
def Step.writesCache : Step → Bool
  | .ask _ (.cachePut ..) => true
  | _ => false

namespace Session

/-- The reads of a step that count for a cache: those of a load or a rendering, by an engine that uses
the cache, under a policy that keeps sources at that moment. -/
def readsFor (s : Session) (r : CacheRef) : Step → List (Text × Text)
  | .ask name action =>
    match s.engine? name with
    | none => []
    | some e =>
      if action.loads?.isSome ∧ e.cache = r ∧ e.settings.policy.isEnabled s.environment then
        (s.store e.store).answered (s.act name e action).1.calls
      else []
  | _ => []

/-- Whether a step empties a cache. -/
def empties (s : Session) (r : CacheRef) : Step → Bool
  | .ask name .clear => (s.engine? name).any fun e => e.cache = r
  | _ => false

/-- The record of a cache behind a step. -/
def recordAfter (s : Session) (r : CacheRef) (record : List (Text × Text)) (step : Step) :
    List (Text × Text) :=
  if s.empties r step then [] else record ++ s.readsFor r step

/-- The record of a cache behind steps, from a record in front of them. -/
def recordFrom (s : Session) (r : CacheRef) (record : List (Text × Text)) :
    List Step → List (Text × Text)
  | [] => record
  | step :: rest => (s.step step).2.recordFrom r (s.recordAfter r record step) rest

/-- The reads that were made for a cache during steps, from the last time that it was emptied. -/
def record (s : Session) (r : CacheRef) (steps : List Step) : List (Text × Text) :=
  s.recordFrom r [] steps

end Session

/-! ## Reads of a load -/

namespace Store

/-- Looking for a candidate gets no text from the store. -/
theorem answered_resolve (store : Store) (s : Settings) (name : Text) :
    store.answered (store.resolve s name).calls = [] := by
  refine List.filterMap_eq_nil_iff.mpr fun call hcall => ?_
  cases call with
  | probe path => rfl
  | read path => exact absurd hcall (store.read_notMem_resolve s name path)

/-- A read behind it gets the text that the store answers, if it answers one. -/
theorem answered_resolve_read (store : Store) (s : Settings) (name resolved : Text) :
    store.answered ((store.resolve s name).calls ++ [.read resolved]) =
      (store.answer? (.read resolved)).toList := by
  have hresolve := store.answered_resolve s name
  rw [answered] at hresolve ⊢
  rw [List.filterMap_append, hresolve, List.nil_append, List.filterMap_cons]
  cases store.answer? (.read resolved) <;> rfl

end Store

/-! ## The tie between a cache and its record -/

/-- Under each name the record has one read, of the text that is kept, or none if none is kept. -/
def Cache.Accounts (c : Cache) (reads : List (Text × Text)) : Prop :=
  ∀ name, reads.filter (fun read => read.1 = name) =
    ((c.get? name).map fun source => (name, source)).toList

namespace Cache.Accounts

variable {c : Cache} {reads : List (Text × Text)} {name source : Text}

/-- The empty cache has the empty record. -/
theorem empty : Cache.empty.Accounts [] := fun _ => rfl

/-- A text is kept when it is the one text that was read under the name. -/
theorem get?_eq_some_iff (h : c.Accounts reads) :
    c.get? name = some source ↔ reads.filter (fun read => read.1 = name) = [(name, source)] := by
  rw [h name]
  cases c.get? name with
  | none => simp
  | some other => simp

/-- No text is kept when none was read under the name. -/
theorem get?_eq_none_iff (h : c.Accounts reads) :
    c.get? name = none ↔ ∀ source, (name, source) ∉ reads := by
  have hfilter : reads.filter (fun read => read.1 = name) = [] ↔
      ∀ source, (name, source) ∉ reads := by
    rw [List.filter_eq_nil_iff]
    constructor
    · intro hall source hmem
      exact hall (name, source) hmem (decide_eq_true rfl)
    · rintro hnone ⟨other, source⟩ hmem hname
      obtain rfl : other = name := of_decide_eq_true hname
      exact hnone source hmem
  rw [← hfilter, h name]
  cases c.get? name with
  | none => simp
  | some other => simp

/-- A read under a name that is not kept yet is put on record as its text is kept. -/
theorem put (h : c.Accounts reads) (hnone : c.get? name = none) :
    (c.put name source).Accounts (reads ++ [(name, source)]) := by
  intro other
  rw [List.filter_append, h other]
  by_cases hother : other = name
  · subst hother
    rw [hnone, Cache.get?_put_self]
    simp
  · rw [Cache.get?_put_of_ne c source hother]
    simp [Ne.symm hother]

/-- A load under a policy that keeps sources puts on record what it makes the cache keep. -/
theorem load_enabled {store : Store} {s : Settings} {environment : Option Text}
    (h : c.Accounts reads) (hkeep : s.policy.isEnabled environment = true) (template : Text) :
    (store.load s environment c template).2.Accounts
      (reads ++ store.answered (store.load s environment c template).1.calls) := by
  have hends := store.ends_load s environment c template
  generalize store.load s environment c template = answer at hends
  cases hends with
  | unresolved _ | kept _ _ _ =>
    rw [store.answered_resolve, List.append_nil]
    exact h
  | unread _ hread =>
    rw [store.answered_resolve_read, Store.answer?, hread]
    simpa [Except.toOption] using h
  | readToKeep _ _ hget hread =>
    rw [store.answered_resolve_read, Store.answer?, hread]
    exact h.put hget
  | readOnly _ hdisabled _ =>
    rw [hkeep] at hdisabled
    cases hdisabled

end Cache.Accounts

namespace Session

/-! ## Steps -/

variable {s : Session} {r : CacheRef} {record : List (Text × Text)}

/-- A step that neither empties a cache nor reads for it leaves its record. -/
theorem recordAfter_of_idle {step : Step} (hempties : s.empties r step = false)
    (hreads : s.readsFor r step = []) : s.recordAfter r record step = record := by
  rw [recordAfter, hempties, hreads, List.append_nil]
  rfl

/-- Loading a template by an engine keeps the tie. -/
theorem accounts_of_loads (h : (s.cache r).Accounts record) {name template : Text} {e : Engine}
    {action : Action} (he : s.engine? name = some e) (hloads : action.loads? = some template) :
    ((s.step (.ask name action)).2.cache r).Accounts (s.recordAfter r record (.ask name action)) := by
  obtain ⟨hcalls, hleft⟩ := s.act_of_loads name e hloads
  have hempties : s.empties r (.ask name action) = false := by
    cases action <;> cases hloads <;> rfl
  have hreads : s.readsFor r (.ask name action) =
      if e.cache = r ∧ e.settings.policy.isEnabled s.environment = true then
        (s.store e.store).answered (s.loading e template).1.calls
      else [] := by
    simp only [readsFor, he, hloads, hcalls, Option.isSome_some, true_and]
  rw [step_ask he, hleft, cache_setCache, recordAfter, hempties, hreads]
  by_cases hr : e.cache = r
  · subst hr
    cases hkeep : e.settings.policy.isEnabled s.environment with
    | true => simpa [loading] using h.load_enabled hkeep template
    | false =>
      have hsame : (s.loading e template).2 = s.cache e.cache :=
        Store.load_cache_of_disabled hkeep
      simpa [hsame] using h
  · simpa [hr] using h

/-- **One step keeps the tie** between a cache and its record, unless it writes into a cache. -/
theorem accounts_step (h : (s.cache r).Accounts record) {step : Step}
    (hdirect : step.writesCache = false) :
    ((s.step step).2.cache r).Accounts (s.recordAfter r record step) := by
  cases step with
  | ask name action =>
    cases he : s.engine? name with
    | none =>
      have hempties : s.empties r (.ask name action) = false := by
        cases action <;> simp [empties, he]
      have hreads : s.readsFor r (.ask name action) = [] := by simp only [readsFor, he]
      rw [step_ask_of_none he, recordAfter_of_idle hempties hreads]
      exact h
    | some e =>
      cases hloads : action.loads? with
      | some template => exact accounts_of_loads h he hloads
      | none =>
        have hreads : s.readsFor r (.ask name action) = [] := by
          simp [readsFor, he, hloads]
        -- Of what is left only an emptying touches a cache, and it empties the record too.
        cases action with
        | load _ | render _ _ => cases hloads
        | cachePut _ _ => cases hdirect
        | clear =>
          have hleft : (s.act name e .clear).2 = s.setCache e.cache .empty := rfl
          rw [step_ask he, hleft, cache_setCache, recordAfter, hreads, List.append_nil]
          by_cases hr : e.cache = r
          · simpa [empties, he, hr] using Cache.Accounts.empty
          · simpa [empties, he, hr] using h
        | set _ | candidates _ | resolve _ | process _ _ _ | compile _ _ | probe _ | read _
        | cacheGet _ =>
          rw [step_ask he, recordAfter_of_idle rfl hreads]
          exact h
  | engine name choices cache store =>
    rw [recordAfter_of_idle rfl rfl, step]
    split <;> exact h
  | environment _ | putTemplate _ _ | deleteTemplate _ | putFile _ _ | deleteFile _ | change _ _ =>
    rw [recordAfter_of_idle rfl rfl]
    exact h

/-- **Steps keep the tie.** -/
theorem accounts_after (steps : List Step) (hdirect : ∀ step ∈ steps, step.writesCache = false) :
    ∀ {s : Session} {record : List (Text × Text)}, (s.cache r).Accounts record →
      ((s.after steps).cache r).Accounts (s.recordFrom r record steps) := by
  induction steps with
  | nil =>
    intro s record h
    exact h
  | cons step rest ih =>
    intro s record h
    obtain ⟨hstep, hrest⟩ := List.forall_mem_cons.mp hdirect
    exact ih hrest (accounts_step h hstep)

/-! ## Loads in a session -/

/-- A load that fails fails in its step. -/
theorem loading_of_step_error {name template : Text} {e : Engine} {f : Failure StepError}
    (he : s.engine? name = some e)
    (h : (s.step (.ask name (.load template))).1.result = .error f) :
    ∃ failure, (s.loading e template).1.result = .error failure := by
  rw [step_ask he, act_load] at h
  cases hload : (s.loading e template).1.result with
  | error failure => exact ⟨failure, rfl⟩
  | ok loaded =>
    rw [hload] at h
    cases h

/-- A load or a rendering that leaves the cache of its engine leaves every cache. -/
theorem cache_step_of_loading {name template : Text} {e : Engine} {action : Action}
    (he : s.engine? name = some e) (hloads : action.loads? = some template)
    (h : (s.loading e template).2 = s.cache e.cache) (r : CacheRef) :
    (s.step (.ask name action)).2.cache r = s.cache r := by
  rw [step_ask he, (s.act_of_loads name e hloads).2, h, cache_setCache_self]

/-- **What the caches keep is what was read for them since they were emptied, and it is read once.**
Wherever steps lead from a session whose caches are empty, a name is kept with a text when the record
of the cache has that text as its one read of the name, and is not kept when the record has no read of
it. A source that is kept is what loads and renderings take, without a read. Loads that keep nothing,
by their policy or because they fail, change no cache, and neither do renderings that load so. -/
theorem caches_account (s : Session) (hfresh : ∀ r, s.cache r = .empty) (steps : List Step)
    (hdirect : ∀ step ∈ steps, step.writesCache = false) :
    (∀ r name source, ((s.after steps).cache r).get? name = some source ↔
        (s.record r steps).filter (fun read => read.1 = name) = [(name, source)]) ∧
      (∀ r name, ((s.after steps).cache r).get? name = none ↔
        ∀ source, (name, source) ∉ s.record r steps) ∧
      (∀ name e template resolved source, (s.after steps).engine? name = some e →
        e.settings.policy.isEnabled (s.after steps).environment = true →
        (((s.after steps).store e.store).resolve e.settings template).result = .ok resolved →
        ((s.after steps).cache e.cache).get? resolved = some source →
        ∃ calls, (∀ path, Call.read path ∉ calls) ∧
          ((s.after steps).step (.ask name (.load template))).1 =
            ⟨calls, .ok (.loaded ⟨resolved, source⟩)⟩ ∧
          ∀ context, ((s.after steps).step (.ask name (.render template context))).1 =
            ⟨calls, outcomeOf .template .output (e.settings.process resolved source context)⟩) ∧
      (∀ name e template action, (s.after steps).engine? name = some e →
        action.loads? = some template →
        (e.settings.policy.isEnabled (s.after steps).environment = false ∨
          ∃ f, ((s.after steps).step (.ask name (.load template))).1.result = .error f) →
        ∀ r, ((s.after steps).step (.ask name action)).2.cache r = (s.after steps).cache r) := by
  have haccounts : ∀ r, ((s.after steps).cache r).Accounts (s.record r steps) := fun r =>
    accounts_after steps hdirect (by rw [hfresh r]; exact Cache.Accounts.empty)
  -- From here on only the tie matters, and not which steps led to it.
  generalize s.after steps = now at haccounts ⊢
  refine ⟨fun r name source => (haccounts r).get?_eq_some_iff,
    fun r name => (haccounts r).get?_eq_none_iff, ?_, ?_⟩
  · intro name e template resolved source he hkeep hresolve hget
    have hload : now.loading e template =
        (⟨((now.store e.store).resolve e.settings template).calls, .ok ⟨resolved, source⟩⟩,
          now.cache e.cache) := Store.load_of_get? hresolve hkeep hget
    refine ⟨((now.store e.store).resolve e.settings template).calls,
      (now.store e.store).read_notMem_resolve e.settings template, ?_, fun context => ?_⟩
    · rw [step_ask he, act_load, hload]
      rfl
    · rw [step_ask he, act_render, hload]
      rfl
  · intro name e template action he hloads hidle
    refine cache_step_of_loading he hloads ?_
    rcases hidle with hdisabled | ⟨f, hf⟩
    · exact Store.load_cache_of_disabled hdisabled
    · obtain ⟨failure, hfailure⟩ := loading_of_step_error he hf
      exact Store.load_cache_of_error hfailure

/-- A session with one template in memory. -/
def oneTemplate : Session := start [(['p', '.', 'h'], ['x'])] default none

/-- Two engines share a cache. The template changes between the load of the one and that of the
other. -/
def sharedSteps : List Step :=
  [.engine ['a'] { policy := some (.text "enabled") } (some ['k']) .memory,
    .engine ['b'] { policy := some (.text "enabled") } (some ['k']) .memory,
    .ask ['a'] (.load ['p', '.', 'h']),
    .putTemplate ['p', '.', 'h'] ['y'],
    .ask ['b'] (.load ['p', '.', 'h'])]

/-- The shared cache keeps what the first engine read, and the second one did not read again. -/
theorem caches_account_sharedSteps :
    (∀ r, oneTemplate.cache r = .empty) ∧ (∀ step ∈ sharedSteps, step.writesCache = false) ∧
      oneTemplate.record (.shared ['k']) sharedSteps = [(['p', '.', 'h'], ['x'])] ∧
      ((oneTemplate.after sharedSteps).cache (.shared ['k'])).get? ['p', '.', 'h'] = some ['x'] := by
  have hfresh : ∀ r, oneTemplate.cache r = .empty := fun _ => rfl
  have hdirect : ∀ step ∈ sharedSteps, step.writesCache = false := by
    simp [sharedSteps, Step.writesCache]
  have hrecord : oneTemplate.record (.shared ['k']) sharedSteps = [(['p', '.', 'h'], ['x'])] := rfl
  refine ⟨hfresh, hdirect, hrecord, ?_⟩
  refine ((caches_account oneTemplate hfresh sharedSteps hdirect).1 _ _ _).mpr ?_
  rw [hrecord]
  rfl

end Session

end Stencil
