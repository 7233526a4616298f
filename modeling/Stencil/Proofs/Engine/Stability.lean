import Stencil.Proofs.Config.Layering
import Stencil.Proofs.Engine.Resolving
import Stencil.Proofs.Engine.Survival
import Stencil.Proofs.Files.Suffixes

/-!
# Resolved names are stable

What a name is resolved to is resolved to itself, and no store is asked for it: it has a suffix, so it is its
own only candidate. A template may therefore be rendered by either name. The output is the same, and so is
what is left in the cache; each finds there what the other has put there (`resolve_stable`).

That the resolved name has a suffix is a law of paths (`Path.suffix_append`). It asks three things of an
extension: that it begins with a dot, which every configured one does (`Settings.dotted_of_ofChoices`), that
it does not end in one, and that it holds no slash.

Where the store cannot read the candidate, the template is reported as missing under the name that was asked
for, with the candidates for that name. This is all in which the two renderings can differ (`asked`).
-/

namespace Stencil

/-! ## Extensions -/

namespace Settings

/-- An extension that was given a dot where it lacked one begins with it. -/
theorem head?_dotted (ext : Symbols) : (dotted ext).head? = some (.char '.') := by
  unfold dotted
  split <;> rfl

/-- **Every configured extension begins with a dot.** -/
theorem dotted_of_ofChoices {choices : Choices} {s : Settings} (h : ofChoices choices = .ok s) :
    ∀ ext ∈ s.extensions, ext.head? = some '.' := by
  obtain ⟨c, hc, h⟩ := bind_eq_ok_iff.mp h
  obtain ⟨-, htexts, -, -⟩ := Config.settings_of_configured_iff.mp (mapError_eq_ok_iff.mp h)
  have hdots : ∀ x ∈ c.extensions, x.head? = some (.char '.') := by
    obtain ⟨_, -, hc⟩ := bind_eq_ok_iff.mp hc
    obtain ⟨_, -, hc⟩ := bind_eq_ok_iff.mp hc
    obtain ⟨exts, hexts, hc⟩ := bind_eq_ok_iff.mp hc
    cases hc
    cases hchoice : choices.extensions with
    | none =>
      rw [hchoice] at hexts
      cases hexts
      show ∀ x ∈ default.extensions.map Symbols.ofText, x.head? = some (.char '.')
      decide
    | some v =>
      rw [hchoice, chosen, readExtensions] at hexts
      split at hexts
      next =>
        cases hexts
        intro x hx
        obtain ⟨ext, -, rfl⟩ := List.mem_map.mp hx
        exact head?_dotted ext
      next => cases hexts
  intro ext hext
  have hhead := hdots _ (Symbols.mem_of_mapM_text? htexts ext hext)
  rw [Symbols.ofText, List.head?_map] at hhead
  obtain ⟨c, hc, hdot⟩ := Option.map_eq_some_iff.mp hhead
  cases hdot
  exact hc

/-- A candidate is its own only candidate. -/
theorem candidates_of_mem {s : Settings} {name path : Text}
    (hexts : ∀ ext ∈ s.extensions, ext.head? = some '.' ∧ '/' ∉ ext ∧ ext.getLast? ≠ some '.')
    (hname : name ≠ []) (hslash : name.getLast? ≠ some '/') (h : path ∈ s.candidates name) :
    s.candidates path = [path] := by
  refine if_pos ?_
  unfold candidates at h
  split at h
  next hsuffix =>
    rw [List.mem_singleton.mp h]
    exact hsuffix
  next =>
    obtain ⟨ext, hext, rfl⟩ := List.mem_map.mp h
    obtain ⟨hhead, hfree, hlast⟩ := hexts ext hext
    exact Path.suffix_append hname hslash hhead hfree hlast

end Settings

namespace Store

variable {store : Store} {s : Settings} {environment : Option Text} {cache : Cache}
  {name other resolved : Text}

/-- What a name is resolved to is one of its candidates. -/
theorem mem_candidates_of_resolve (h : (store.resolve s name).result = .ok resolved) :
    resolved ∈ s.candidates name := by
  by_cases hsingle : ∃ only, s.candidates name = [only]
  · obtain ⟨only, honly⟩ := hsingle
    rw [resolve_of_single honly] at h
    cases h
    rw [honly]
    exact List.mem_cons_self
  · cases (resolve_eq_iff (not_exists.mp hsingle)).mp h with
    | first hsplit _ _ =>
      rw [hsplit]
      exact List.mem_append_right _ List.mem_cons_self

/-! ## Two names for one candidate -/

/-- A failure as it is for a template that was asked for by this name, which has these candidates. -/
def asked (name : Text) (candidates : List Text) : TemplateFailure → TemplateFailure
  | .reported (.notFound _ _) => .reported (.notFound name candidates)
  | f => f

/-- A failure to read the candidate of two names is told of each by its own name. -/
theorem asked_readFailure (s : Settings) (name other resolved : Text) (e : Escape) :
    asked other (s.candidates other) (readFailure s name resolved e) =
      readFailure s other resolved e := by
  unfold readFailure
  split
  next => rfl
  next => split <;> rfl

/-- What fails behind the load of a template does not depend on how it was asked for. -/
theorem asked_process (name : Text) (candidates : List Text) (sourceName source : Text)
    (context : Dict) : (s.process sourceName source context).mapError (asked name candidates) =
      s.process sourceName source context := by
  have hrendered (nodes : List Template.Node) :
      (Template.rendered context nodes : Except TemplateFailure Symbols).mapError
        (asked name candidates) = Template.rendered context nodes := by
    unfold Template.rendered
    split <;> rfl
  unfold Settings.process Settings.compile
  cases Template.parse (s.maxDepth.getD 0) source with
  | ok nodes => exact hrendered nodes
  | error e => dsimp only; split <;> rfl

/-- Names with one candidate are loaded alike, out of any cache. -/
theorem load_of_resolve_eq (hname : (store.resolve s name).result = .ok resolved)
    (hother : (store.resolve s other).result = .ok resolved) (environment : Option Text)
    (cache : Cache) :
    (store.load s environment cache other).1.result =
      (store.load s environment cache name).1.result.mapError (asked other (s.candidates other)) ∧
    (store.load s environment cache other).2 = (store.load s environment cache name).2 := by
  cases hkept : if s.policy.isEnabled environment then cache.get? resolved else none with
  | some source =>
    simp only [load, hname, hother, hkept, and_true]
    rfl
  | none =>
    rw [load_of_get?_eq_none hname rfl hkept, load_of_get?_eq_none hother rfl hkept, fetch, fetch]
    cases store.read resolved with
    | ok source => exact ⟨rfl, rfl⟩
    | error e => exact ⟨congrArg Except.error (asked_readFailure s name other resolved e).symm, rfl⟩

/-- A template is rendered from what it is loaded to. -/
theorem render_of_load {answer : Traced (Except TemplateFailure Loaded) × Cache} {context : Dict}
    (h : store.load s environment cache name = answer) :
    store.render s environment cache name context =
      (⟨answer.1.calls, answer.1.result.bind fun l => s.process l.resolved l.source context⟩,
        answer.2) := by
  subst h
  rfl

/-- Names with one candidate are rendered alike, out of any cache. -/
theorem render_of_resolve_eq (hname : (store.resolve s name).result = .ok resolved)
    (hother : (store.resolve s other).result = .ok resolved) (environment : Option Text)
    (cache : Cache) (context : Dict) :
    (store.render s environment cache other context).1.result =
      (store.render s environment cache name context).1.result.mapError
        (asked other (s.candidates other)) ∧
    (store.render s environment cache other context).2 =
      (store.render s environment cache name context).2 := by
  obtain ⟨hresult, hcache⟩ := load_of_resolve_eq hname hother environment cache
  rw [render_of_load rfl, render_of_load rfl]
  refine ⟨?_, hcache⟩
  dsimp only
  rw [hresult]
  cases (store.load s environment cache name).1.result with
  | error f => rfl
  | ok l => exact (asked_process _ _ l.resolved l.source context).symm

/-- What one name has put into the cache, another name for the same candidate finds there. -/
theorem render_again {output : Symbols} {context : Dict}
    (hname : (store.resolve s name).result = .ok resolved)
    (hother : (store.resolve s other).result = .ok resolved)
    (hkeep : s.policy.isEnabled environment = true)
    (h : (store.render s environment cache name context).1.result = .ok output) :
    (store.render s environment (store.render s environment cache name context).2 other context).1 =
      ⟨(store.resolve s other).calls, .ok output⟩ := by
  obtain ⟨l, hl, hprocess⟩ := bind_eq_ok_iff.mp h
  obtain ⟨hresolved, hget⟩ := get?_of_load hkeep hl
  cases hname.symm.trans hresolved
  have hload := load_of_get? hother hkeep hget
  show (store.render s environment (store.load s environment cache name).2 other context).1 = _
  rw [render_of_load hload]
  exact congrArg (Traced.mk _) hprocess

/-! ## The whole -/

/-- **A resolved name stands for itself.** It is its own only candidate and is resolved without a call. It is
rendered as the name that was resolved to it: with the same output or the same syntax error, and with every
other failure alike but for the name under which a template is reported as missing. The cache is the same
behind both, and once one of them is rendered under a policy that keeps sources, neither is read again. -/
theorem resolve_stable {choices : Choices} (hmade : Settings.ofChoices choices = .ok s)
    (hexts : ∀ ext ∈ s.extensions, '/' ∉ ext ∧ ext.getLast? ≠ some '.') (hname : name ≠ [])
    (hslash : name.getLast? ≠ some '/') (h : (store.resolve s name).result = .ok resolved) :
    s.candidates resolved = [resolved] ∧ store.resolve s resolved = ⟨[], .ok resolved⟩ ∧
    ∀ environment cache context,
      let rendered (name : Text) := store.render s environment cache name context
      (∀ output, (rendered resolved).1.result = .ok output ↔ (rendered name).1.result = .ok output) ∧
      (∀ source e, (rendered resolved).1.result = .error (.reported (.malformed source e)) ↔
        (rendered name).1.result = .error (.reported (.malformed source e))) ∧
      (rendered resolved).1.result = (rendered name).1.result.mapError (asked resolved [resolved]) ∧
      (rendered resolved).2 = (rendered name).2 ∧
      (s.policy.isEnabled environment = true → ∀ first ∈ [name, resolved], ∀ second ∈ [name, resolved],
        ∀ output, (rendered first).1.result = .ok output →
          ∃ calls, (store.render s environment (rendered first).2 second context).1 =
            ⟨calls, .ok output⟩ ∧ ∀ path, .read path ∉ calls) := by
  have hsingle : s.candidates resolved = [resolved] := by
    refine Settings.candidates_of_mem (fun ext hext => ⟨?_, hexts ext hext⟩) hname hslash
      (mem_candidates_of_resolve h)
    exact Settings.dotted_of_ofChoices hmade ext hext
  have hresolve : store.resolve s resolved = ⟨[], .ok resolved⟩ := resolve_of_single hsingle
  have hself : (store.resolve s resolved).result = .ok resolved := by rw [hresolve]
  refine ⟨hsingle, hresolve, fun environment cache context => ?_⟩
  obtain ⟨hresult, hcache⟩ := render_of_resolve_eq h hself environment cache context
  rw [hsingle] at hresult
  refine ⟨fun output => ?_, fun source e => ?_, hresult, hcache, ?_⟩
  · rw [hresult, mapError_eq_ok_iff]
  · rw [hresult, mapError_eq_error_iff]
    constructor
    · rintro ⟨f, hf, hasked⟩
      rw [hf]
      unfold asked at hasked
      split at hasked
      next => cases hasked
      next => rw [hasked]
    · exact fun hf => ⟨_, hf, rfl⟩
  · have hboth : ∀ x ∈ [name, resolved], (store.resolve s x).result = .ok resolved :=
      List.forall_mem_cons.mpr ⟨h, List.forall_mem_singleton.mpr hself⟩
    intro hkeep first hfirst second hsecond output houtput
    exact ⟨_, render_again (hboth first hfirst) (hboth second hsecond) hkeep houtput,
      read_notMem_resolve store s second⟩

/-- The templates with nothing but one whose name begins with a dot, in a directory whose name has one. -/
def hiddenText : Templates := [("v.1/.p.xml".toList, ['s'])]

/-- The suffix of the name is neither that of its directory nor what follows its leading dot. -/
theorem resolve_stable_hiddenText :
    (hiddenText.store.resolve .default "v.1/.p".toList).result = .ok "v.1/.p.xml".toList ∧
    Settings.default.candidates "v.1/.p.xml".toList = ["v.1/.p.xml".toList] ∧
    ∀ output, (hiddenText.store.render .default none .empty "v.1/.p.xml".toList []).1.result = .ok output ↔
      (hiddenText.store.render .default none .empty "v.1/.p".toList []).1.result = .ok output := by
  have hresolve : (hiddenText.store.resolve .default "v.1/.p".toList).result =
      .ok "v.1/.p.xml".toList := by rfl
  have hmade : Settings.ofChoices {} = .ok .default := by rfl
  obtain ⟨hcandidates, -, hrender⟩ :=
    resolve_stable hmade (by decide) (by decide) (by decide) hresolve
  exact ⟨hresolve, hcandidates, (hrender none .empty []).1⟩

end Store

end Stencil
