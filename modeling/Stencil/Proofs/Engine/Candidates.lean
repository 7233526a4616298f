import Stencil.Proofs.Engine.Loading

/-!
# Which candidate is loaded

A template in memory is loaded from the first of its candidates that is there, and where none is there the
error names all of them (`load_first_candidate`). Two ways lead there. Several candidates are asked for one
after the other, up to the first that is there. A single candidate is never asked for: it is read, and that
it is missing shows only then. Both end in the same error, and no error comes without the names that were
tried: where there were none, the name itself stands for them.

How candidates are looked for, and with which calls, holds of every store (`resolve_of_hit`,
`resolve_of_miss`). What is asked of the store in memory is only that it reads what it says is there, and
that it misses what it says is not.
-/

namespace Stencil.Store

variable {store : Store} {s : Settings} {name : Text}

/-! ## Asking for candidates -/

/-- The calls with which the first `tried` of some candidates are looked for. A single candidate is not
looked for. -/
def asking (candidates tried : List Text) : List Call :=
  if candidates.length = 1 then [] else tried.map .probe

/-- Asking goes on as long as nothing is there. -/
theorem firstPresent_append {before : List Text} (hbefore : ∀ c ∈ before, store.probe c = .ok false)
    (paths : List Text) :
    store.firstPresent (before ++ paths) =
      ⟨before.map .probe ++ (store.firstPresent paths).calls, (store.firstPresent paths).result⟩ := by
  induction before with
  | nil => rfl
  | cons c before ih =>
    obtain ⟨hc, hbefore⟩ := List.forall_mem_cons.mp hbefore
    rw [List.cons_append, firstPresent, hc]
    simp only [ih hbefore, List.map_cons, List.cons_append]

/-- Asking ends at the first path that is there. -/
theorem firstPresent_of_hit {paths before after : List Text} {path : Text}
    (hsplit : paths = before ++ path :: after) (hbefore : ∀ c ∈ before, store.probe c = .ok false)
    (hpath : store.probe path = .ok true) :
    store.firstPresent paths = ⟨(before ++ [path]).map .probe, .ok (some path)⟩ := by
  rw [hsplit, firstPresent_append hbefore, firstPresent, hpath, List.map_append]
  rfl

/-- Where no path is there, all of them are asked for. -/
theorem firstPresent_of_miss {paths : List Text} (hpaths : ∀ c ∈ paths, store.probe c = .ok false) :
    store.firstPresent paths = ⟨paths.map .probe, .ok none⟩ := by
  have hall := firstPresent_append hpaths []
  rw [List.append_nil] at hall
  rw [hall, firstPresent, List.append_nil]

/-! ## Finding a candidate -/

/-- A single candidate is taken as it is. -/
theorem resolve_of_single {only : Text} (h : s.candidates name = [only]) :
    store.resolve s name = ⟨[], .ok only⟩ := by
  simp only [resolve, h]

/-- Where there is anything to choose from, the candidates are asked for. -/
theorem resolve_of_several {found : Traced (Except Escape (Option Text))}
    (hlength : (s.candidates name).length ≠ 1) (hfound : store.firstPresent (s.candidates name) = found) :
    store.resolve s name = ⟨found.calls, match found.result with
      | .ok (some path) => .ok path
      | .ok none => .error (.reported (.notFound name (s.candidates name)))
      | .error e => .error (.escaped e)⟩ := by
  unfold resolve
  split
  next only hcandidates => exact absurd (congrArg List.length hcandidates) hlength
  next =>
    subst hfound
    rfl

/-- The first candidate that is there is found, and no candidate behind it is asked for. -/
theorem resolve_of_hit {before after : List Text} {path : Text}
    (hcandidates : s.candidates name = before ++ path :: after)
    (hbefore : ∀ c ∈ before, store.probe c = .ok false) (hpath : store.probe path = .ok true) :
    store.resolve s name = ⟨asking (s.candidates name) (before ++ [path]), .ok path⟩ := by
  by_cases hlength : (s.candidates name).length = 1
  · obtain ⟨only, honly⟩ := List.length_eq_one_iff.mp hlength
    have hpath : only = path := by
      have hmem : path ∈ s.candidates name := hcandidates ▸ List.mem_append_right _ List.mem_cons_self
      rw [honly] at hmem
      exact (List.mem_singleton.mp hmem).symm
    rw [resolve_of_single honly, asking, if_pos hlength, hpath]
  · have hfound := firstPresent_of_hit hcandidates hbefore hpath
    rw [resolve_of_several hlength hfound, asking, if_neg hlength]

/-- Where no candidate is there and they are not just one, none is found, and all of them were asked for. -/
theorem resolve_of_miss (hlength : (s.candidates name).length ≠ 1)
    (hmiss : ∀ c ∈ s.candidates name, store.probe c = .ok false) :
    store.resolve s name =
      ⟨(s.candidates name).map .probe, .error (.reported (.notFound name (s.candidates name)))⟩ :=
  resolve_of_several hlength (firstPresent_of_miss hmiss)

/-! ## Loading a candidate -/

/-- A load that keeps nothing reads the candidate that was found. -/
theorem load_of_resolved {environment : Option Text} {cache : Cache} {resolved : Text} {calls : List Call}
    (hpolicy : s.policy.isEnabled environment = false)
    (hresolve : store.resolve s name = ⟨calls, .ok resolved⟩) :
    store.load s environment cache name =
      (⟨calls ++ [.read resolved], match store.read resolved with
        | .ok source => .ok ⟨resolved, source⟩
        | .error e => .error (readFailure s name resolved e)⟩, cache) := by
  have hfound : (store.resolve s name).result = .ok resolved := by rw [hresolve]
  rw [load_of_get?_eq_none hfound hpolicy rfl, hresolve, fetch]
  split
  next hread => simp only [hread]
  next hread => simp only [hread, if_false, Bool.false_eq_true]

end Stencil.Store

namespace Stencil.Templates

variable {ts : Templates} {path : Text}

theorem probe_of_get?_eq_some {source : Text} (h : ts.get? path = some source) :
    ts.store.probe path = .ok true := by
  show Except.ok (ts.get? path).isSome = _
  rw [h]
  rfl

theorem probe_of_get?_eq_none (h : ts.get? path = none) : ts.store.probe path = .ok false := by
  show Except.ok (ts.get? path).isSome = _
  rw [h]
  rfl

theorem read_of_get?_eq_some {source : Text} (h : ts.get? path = some source) :
    ts.store.read path = .ok source := by
  simp only [store, h]

theorem read_of_get?_eq_none (h : ts.get? path = none) : ts.store.read path = .error .missingFile := by
  simp only [store, h]

/-- **A template is loaded from the first of its candidates that is there, and where none is there all of
them are named.** The candidates are the name itself where its last component has a suffix, and otherwise the
name with each extension in turn; there may be none of them, and the same one may come again. They are
asked for unless there is just one, up to the first that is there. That one is read, or the only one. -/
theorem load_first_candidate {s : Settings} {environment : Option Text} {name : Text}
    {candidates : List Text}
    (hcandidates : candidates =
      if (Path.ofText name).suffix ≠ [] then [name] else s.extensions.map (name ++ ·))
    (hpolicy : s.policy.isEnabled environment = false) (ts : Templates) (cache : Cache) :
    (∀ before path after source, candidates = before ++ path :: after →
      (∀ c ∈ before, ts.get? c = none) → ts.get? path = some source →
        ts.store.load s environment cache name =
          (⟨Store.asking candidates (before ++ [path]) ++ [.read path], .ok ⟨path, source⟩⟩, cache)) ∧
    ((∀ c ∈ candidates, ts.get? c = none) →
      ∃ e : TemplateError, e.report = .notFound name (if candidates = [] then [name] else candidates) ∧
        ts.store.load s environment cache name =
          (⟨if candidates.length = 1 then candidates.map .read else candidates.map .probe,
            .error (.reported e)⟩, cache)) := by
  replace hcandidates : s.candidates name = candidates := hcandidates.symm
  constructor
  · intro before path after source hsplit hbefore hpath
    have hresolve := Store.resolve_of_hit (hcandidates.trans hsplit)
      (fun c hc => probe_of_get?_eq_none (hbefore c hc)) (probe_of_get?_eq_some hpath)
    rw [hcandidates] at hresolve
    rw [Store.load_of_resolved hpolicy hresolve, read_of_get?_eq_some hpath]
  · intro hmiss
    refine ⟨.notFound name candidates, rfl, ?_⟩
    by_cases hlength : candidates.length = 1
    · -- The only candidate is read without being asked for.
      obtain ⟨only, rfl⟩ := List.length_eq_one_iff.mp hlength
      have hread := read_of_get?_eq_none (hmiss only List.mem_cons_self)
      rw [Store.load_of_resolved hpolicy (Store.resolve_of_single hcandidates), hread, if_pos hlength]
      simp only [Store.readFailure, hcandidates]
      rfl
    · subst hcandidates
      have hresolve := Store.resolve_of_miss hlength fun c hc => probe_of_get?_eq_none (hmiss c hc)
      have herror : (ts.store.resolve s name).result =
          .error (.reported (.notFound name (s.candidates name))) := by rw [hresolve]
      rw [Store.load_of_unresolved herror, hresolve, if_neg hlength]

/-- The templates with nothing but a text file. -/
def onlyText : Templates := [(['p', '.', 't', 'x', 't'], ['s'])]

/-- Two candidates are asked for in vain before the third is found and read. Of a name with a suffix nothing
is asked, not even when it is missing. -/
theorem load_first_candidate_onlyText :
    (onlyText.store.load .default none .empty ['p'] =
      (⟨[.probe ['p', '.', 'h', 't', 'm', 'l'], .probe ['p', '.', 'x', 'm', 'l'],
          .probe ['p', '.', 't', 'x', 't'], .read ['p', '.', 't', 'x', 't']],
        .ok ⟨['p', '.', 't', 'x', 't'], ['s']⟩⟩, .empty)) ∧
    ∃ e : TemplateError, e.report = .notFound ['p', '.', 'q'] [['p', '.', 'q']] ∧
      onlyText.store.load .default none .empty ['p', '.', 'q'] =
        (⟨[.read ['p', '.', 'q']], .error (.reported e)⟩, .empty) := by
  have hpolicy : Settings.default.policy.isEnabled none = false := by decide
  have hseveral : Settings.default.candidates ['p'] =
      [['p', '.', 'h', 't', 'm', 'l'], ['p', '.', 'x', 'm', 'l']] ++ ['p', '.', 't', 'x', 't'] :: [] := by decide
  have hsingle : Settings.default.candidates ['p', '.', 'q'] = [['p', '.', 'q']] := by decide
  exact ⟨(load_first_candidate hseveral.symm hpolicy onlyText .empty).1 _ _ _ _ rfl (by decide) (by decide),
    (load_first_candidate hsingle.symm hpolicy onlyText .empty).2 (by decide)⟩

end Stencil.Templates
