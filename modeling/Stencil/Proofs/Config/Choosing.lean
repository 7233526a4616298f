import Stencil.Proofs.Config.Escapes
import Stencil.Proofs.Config.Merging

/-!
# What is chosen for a setting

A setting may be chosen by an option, by the profile that is asked for and by the table, and the first of
them that chooses it counts (`selected`). A configuration is refused when the profile is not there, when
there is no setting for an option, or when a setting cannot have what is selected for it (`Faulty`); a value
that is not selected does no harm. Otherwise every setting holds what is selected (`configure_selected`).

One thing is in the way. A value is refused in words that quote it, and an integer may have too many digits
to be written. Then the refusal itself fails (`Untold`).

The proof reads the layers first (`layers_eq_ok_iff`). Behind that there is one layer, which is read to a
configuration that holds what it chooses (`holds_of_configured`), or else chooses something unfit
(`unfit_of_configured`).
-/

namespace Stencil

/-- No value of a dictionary is left empty. -/
def Dict.NullFree (d : Dict) : Prop := ∀ e ∈ d, e.2 ≠ .null

/-- What is configured where nothing is chosen. -/
def Configured.default : Configured where
  templateDir := Symbols.ofText Settings.default.templateDir
  extensions := Settings.default.extensions.map Symbols.ofText
  policy := Settings.default.policy
  maxDepth := Settings.default.maxDepth

/-- Configurations that agree in a setting. -/
def Configured.Agrees (a : Configured) (x : Setting) (b : Configured) : Prop :=
  match x with
  | .templateDir => a.templateDir = b.templateDir
  | .extensions => a.extensions = b.extensions
  | .policy => a.policy = b.policy
  | .maxDepth => a.maxDepth = b.maxDepth

/-- A name is that of the setting that it is found to be. -/
theorem Setting.ofName?_eq_some_iff {name : Text} {x : Setting} :
    Setting.ofName? name = some x ↔ name = x.name := by
  constructor
  · intro h
    unfold Setting.ofName? at h
    have hfound := List.find?_some h
    exact (of_decide_eq_true hfound).symm
  · rintro rfl
    cases x <;> decide

theorem Setting.name_inj {x y : Setting} : x.name = y.name ↔ x = y := by
  rw [← ofName?_eq_some_iff, ofName?_eq_some_iff.mpr rfl, Option.some.injEq]

/-- A word names the policy whose name it is in lower case. -/
theorem Policy.ofName?_eq_some_iff {word : Text} {p : Policy} :
    Policy.ofName? word = some p ↔ p.name = word.lowered := by
  unfold Policy.ofName?
  constructor
  · intro h
    have hfound := List.find?_some h
    exact of_decide_eq_true hfound
  · intro h
    rw [← h]
    cases p <;> decide

namespace Config

variable {table profiles : Dict} {profile : Option Text} {options : List (Text × Value)}
variable {layer : Layer} {c : Configured}

/-! ## What is selected -/

/-- What a table has for a setting. The depth limit may stand under two keys, the stronger one first. -/
def tableFor (table : Dict) : Setting → Option Value
  | .maxDepth => (Dict.get? depthKey table).or (Dict.get? Setting.maxDepth.name table)
  | x => Dict.get? x.name table

/-- The table of the profile that is asked for. An empty name asks for none. -/
def profileTable? (table : Dict) : Option Text → Option Dict
  | none | some [] => none
  | some name =>
    match Dict.get? name (profilesOf table) with
    | some (.dict entries) => some entries
    | _ => none

/-- What an option chooses for a setting: nothing when it is for another one, or left open. -/
def valueFor? (x : Setting) (o : Text × Value) : Option Value :=
  match o.2 with
  | .null => none
  | v => if o.1 = x.name then some v else none

/-- What the options choose for a setting. The last one counts. -/
def optionFor (options : List (Text × Value)) (x : Setting) : Option Value :=
  (options.filterMap (valueFor? x)).getLast?

/-- What is selected for a setting: by the options, or else by the profile, or else by the table. -/
def selected (table : Dict) (profile : Option Text) (options : List (Text × Value)) : Layer := fun x =>
  (optionFor options x).or
    (((profileTable? table profile).bind fun entries => tableFor entries x).or (tableFor table x))

/-- A value that a setting can have. -/
inductive Fits : Setting → Value → Prop
  | templateDir {v : Value} : (Settings.symbols? v).isSome → Fits .templateDir v
  | extensions {v : Value} {xs : List Value} : v.elements? = some xs →
      (∀ w ∈ xs, (Settings.symbols? w).isSome) → Fits .extensions v
  | policy {word : Text} {p : Policy} : p.name = word.lowered → Fits .policy (.text word)
  | maxDepth {n : Int} : 1 ≤ n → Fits .maxDepth (.int n)

/-- The profile that is asked for is there. -/
def Found (table : Dict) (profile : Option Text) : Prop :=
  ∀ name, profile = some name → name ≠ [] → profileTable? table profile ≠ none

/-- There is a setting for every option. -/
def Known (options : List (Text × Value)) : Prop := ∀ o ∈ options, ∃ x : Setting, o.1 = x.name

/-- A configuration cannot be as it is asked for. -/
inductive Faulty (table : Dict) (profile : Option Text) (options : List (Text × Value)) : Prop
  | profile : ¬ Found table profile → Faulty table profile options
  | option : ¬ Known options → Faulty table profile options
  /-- A setting cannot have what is selected for it. -/
  | value {x : Setting} {v : Value} : selected table profile options x = some v → ¬ Fits x v →
      Faulty table profile options

/-- An extension as it is configured: the text of a value, behind a dot where it begins with none. -/
def Dotted (v : Value) (ext : Symbols) : Prop :=
  ∃ s, Settings.symbols? v = some s ∧
    ext = if s.head? = some (.char '.') then s else .char '.' :: s

/-- A configuration holds for a setting what a value means, or the default where there is none. -/
inductive Holds (c : Configured) : Setting → Option Value → Prop
  | default {x : Setting} : c.Agrees x .default → Holds c x none
  | templateDir {s : Text} : c.templateDir = Symbols.ofText (Path.ofText s).toText →
      Holds c .templateDir (some (.text s))
  | brokenDir {s : Symbols} : c.templateDir = Settings.normalSymbols s →
      Holds c .templateDir (some (.broken s))
  | extensions {v : Value} {xs : List Value} : v.elements? = some xs →
      List.Forall₂ Dotted xs c.extensions → Holds c .extensions (some v)
  | policy {word : Text} : c.policy.name = word.lowered → Holds c .policy (some (.text word))
  | maxDepth {n : Int} : 1 ≤ n → c.maxDepth = some n → Holds c .maxDepth (some (.int n))

/-- A text that is chosen for the policy names one. -/
def Worded (layer : Layer) : Prop :=
  ∀ v, layer .policy = some v → (Settings.symbols? v).isSome → Fits .policy v

/-- A value is to be refused that cannot be written. All that is looked at before is in order. -/
structure Untold (table : Dict) (profile : Option Text) (options : List (Text × Value)) : Prop where
  found : Found table profile
  known : Known options
  worded : Worded (selected table profile options)
  unwritten : ∃ v, RefusedFirst (selected table profile options) v ∧ v.written = none

/-! ## Layers -/

theorem ofTable_eq_tableFor (table : Dict) : Layer.ofTable table = tableFor table := by
  funext x
  cases x with
  | maxDepth => exact ofTable_maxDepth table
  | _ => exact ofTable_of_keys rfl table

/-- What an option that is not left open chooses. -/
theorem valueFor?_of_ne_null {v : Value} (hv : v ≠ .null) (x s : Setting) :
    valueFor? x (s.name, v) = if x = s then some v else none := by
  unfold valueFor?
  split
  next hnull => exact absurd hnull hv
  next => simp only [Setting.name_inj, eq_comm]

theorem optionFor_cons (o : Text × Value) (rest : List (Text × Value)) (x : Setting) :
    optionFor (o :: rest) x = (optionFor rest x).or (valueFor? x o) := by
  rw [optionFor, optionFor, List.filterMap_cons]
  split
  next hnone => rw [hnone, Option.or_none]
  next v hsome =>
    rw [hsome, List.getLast?_cons]
    cases (rest.filterMap (valueFor? x)).getLast? <;> rfl

/-- Options are read when there is a setting for each of them. -/
theorem optionLayer_eq_ok_iff : optionLayer options = .ok layer ↔
    Known options ∧ layer = optionFor options := by
  induction options generalizing layer with
  | nil =>
    have hempty : optionFor [] = Layer.empty := rfl
    rw [optionLayer, hempty, Except.ok.injEq, eq_comm]
    exact (and_iff_right (List.forall_mem_nil _)).symm
  | cons o rest ih =>
    obtain ⟨name, v⟩ := o
    have hcons : optionFor ((name, v) :: rest) =
        fun x => (optionFor rest x).or (valueFor? x (name, v)) :=
      funext (optionFor_cons (name, v) rest)
    rw [optionLayer, Known, List.forall_mem_cons, hcons]
    split
    next hnone =>
      refine iff_of_false (by rintro ⟨⟩) ?_
      rintro ⟨⟨⟨x, hname⟩, -⟩, -⟩
      rw [Setting.ofName?_eq_some_iff.mpr hname] at hnone
      cases hnone
    next s hsome =>
      obtain rfl : name = s.name := Setting.ofName?_eq_some_iff.mp hsome
      have hexists : ∃ x : Setting, s.name = x.name := ⟨s, rfl⟩
      rw [and_iff_right hexists, bind_eq_ok_iff]
      simp only [ih, and_assoc, exists_and_left, exists_eq_left]
      refine and_congr_right fun _ => ?_
      split
      next =>
        have hopen : optionFor rest = fun x => (optionFor rest x).or (valueFor? x (s.name, .null)) :=
          funext fun x => Option.or_none.symm
        rw [← hopen, eq_comm (a := layer)]
        exact ⟨Except.ok.inj, congrArg Except.ok⟩
      next hv =>
        have hset : (fun x => if x = s then (optionFor rest x).or (some v) else optionFor rest x) =
            fun x => (optionFor rest x).or (valueFor? x (s.name, v)) := by
          funext x
          rw [valueFor?_of_ne_null hv]
          split
          next => rfl
          next => exact Option.or_none.symm
        rw [← hset, eq_comm (a := layer)]
        exact ⟨Except.ok.inj, congrArg Except.ok⟩

/-- The profile that is asked for is there when a table stands under its name. -/
theorem profileTable?_eq_some_iff {entries : Dict} : profileTable? table profile = some entries ↔
    ∃ name, profile = some name ∧ name ≠ [] ∧
      Dict.get? name (profilesOf table) = some (.dict entries) := by
  unfold profileTable?
  split
  next => exact iff_of_false nofun (by simp)
  next => exact iff_of_false nofun (by simp)
  next name hname =>
    have hname : name ≠ [] := hname
    simp only [Option.some.injEq, exists_eq_left', ne_eq, hname, not_false_eq_true, true_and]
    split
    next hget => rw [hget, Option.some.injEq, Option.some.injEq, Value.dict.injEq]
    next hnot => exact iff_of_false nofun (hnot entries)

/-- A profile is read when it is there. -/
theorem profileLayer_eq_ok_iff (hprofiles : tableAt? profilesKey table = some profiles) :
    profileLayer table profile = .ok layer ↔ Found table profile ∧
      layer = fun x => (profileTable? table profile).bind fun entries => tableFor entries x := by
  have hget : (Dict.get? profilesKey table).getD (.dict []) = .dict (profilesOf table) := by
    rw [profilesOf, hprofiles, getD_of_tableAt? hprofiles, Option.getD_some]
  unfold profileLayer
  split
  next =>
    have hfound : Found table none := by
      rintro name ⟨⟩
    rw [and_iff_right hfound, eq_comm (a := layer)]
    exact ⟨Except.ok.inj, congrArg Except.ok⟩
  next =>
    have hfound : Found table (some []) := by
      rintro name ⟨⟩ hne
      exact absurd rfl hne
    rw [and_iff_right hfound, eq_comm (a := layer)]
    exact ⟨Except.ok.inj, congrArg Except.ok⟩
  next name hname =>
    have hname : name ≠ [] := hname
    rw [hget]
    dsimp only
    split
    next entries hentries =>
      have htable : profileTable? table (some name) = some entries :=
        profileTable?_eq_some_iff.mpr ⟨name, rfl, hname, hentries⟩
      have hfound : Found table (some name) := fun _ _ _ => htable ▸ Option.some_ne_none entries
      rw [and_iff_right hfound, htable, ofTable_eq_tableFor, eq_comm (a := layer)]
      exact ⟨Except.ok.inj, congrArg Except.ok⟩
    next hnot =>
      refine iff_of_false (by rintro ⟨⟩) ?_
      rintro ⟨hfound, -⟩
      obtain ⟨entries, hentries⟩ := Option.ne_none_iff_exists'.mp (hfound name rfl hname)
      obtain ⟨_, ⟨⟩, -, hget⟩ := profileTable?_eq_some_iff.mp hentries
      exact hnot entries hget

/-- The layers are read when the profile is there, and a setting for every option. -/
theorem layers_eq_ok_iff (hprofiles : tableAt? profilesKey table = some profiles) :
    layers table profile options = .ok layer ↔
      Found table profile ∧ Known options ∧ layer = selected table profile options := by
  simp only [layers, bind_eq_ok_iff, profileLayer_eq_ok_iff hprofiles, optionLayer_eq_ok_iff,
    and_assoc, exists_and_left, exists_eq_left, ofTable_eq_tableFor]
  refine and_congr_right fun _ => and_congr_right fun _ => ?_
  rw [eq_comm (a := layer)]
  exact ⟨Except.ok.inj, congrArg Except.ok⟩

/-! ## Values -/

/-- A value that is refused is not fit. -/
theorem Refused.not_fits {x : Setting} {v : Value} (h : Refused x v) : ¬ Fits x v := by
  intro hfits
  cases hfits with
  | templateDir hsome =>
    have hnone : Settings.symbols? v = none := h
    rw [hnone] at hsome
    cases hsome
  | @extensions _ xs helements hsome =>
    have hnone : v.elements?.bind (List.mapM Settings.symbols?) = none := h
    rw [helements, Option.bind_some] at hnone
    exact mapM_ne_none hsome hnone
  | policy => cases h
  | @maxDepth n hn => exact absurd (h.2 n rfl) (Int.not_lt.mpr hn)

/-- The word for a policy is passed where it names one, or where something else than a text is chosen. -/
theorem checkPolicy_eq_ok_iff {choice : Option Value} : checkPolicy choice = .ok () ↔
    ∀ v, choice = some v → (Settings.symbols? v).isSome → Fits .policy v := by
  unfold checkPolicy
  split
  next word =>
    have hworded : (∀ v, some (Value.text word) = some v → (Settings.symbols? v).isSome →
        Fits .policy v) ↔ ∃ p, Policy.ofName? word = some p := by
      constructor
      · intro h
        cases h _ rfl rfl with
        | policy hname => exact ⟨_, Policy.ofName?_eq_some_iff.mpr hname⟩
      · rintro ⟨p, hp⟩ _ ⟨⟩ -
        exact .policy (Policy.ofName?_eq_some_iff.mp hp)
    rw [hworded]
    cases Policy.ofName? word <;> simp
  next s =>
    refine iff_of_false nofun fun h => ?_
    cases h _ rfl rfl
  next hnot hbroken =>
    refine iff_of_true rfl fun v hv hsome => ?_
    cases v with
    | text word => exact absurd hv (hnot word)
    | broken s => exact absurd hv (hbroken s)
    | _ => cases hsome

/-- What holds for a setting is fit for it. -/
theorem Holds.fits {x : Setting} {v : Value} (h : Holds c x (some v)) : Fits x v := by
  cases h with
  | templateDir => exact .templateDir rfl
  | brokenDir => exact .templateDir rfl
  | extensions helements hdots =>
    have htexts := hdots.imp fun w ext (⟨s, hs, hext⟩ : Dotted w ext) =>
      (⟨hs ▸ rfl, s, hs, hext⟩ : (Settings.symbols? w).isSome ∧ Dotted w ext)
    exact .extensions helements ((List.forall₂_and_left _ _).mp htexts).1
  | policy hname => exact .policy hname
  | maxDepth hn => exact .maxDepth hn

/-- A dot is put in front of what begins with none. -/
theorem dotted_eq (s : Symbols) :
    Settings.dotted s = if s.head? = some (.char '.') then s else .char '.' :: s := by
  unfold Settings.dotted
  split
  next => exact (if_pos rfl).symm
  next hnot =>
    refine (if_neg fun h => ?_).symm
    obtain ⟨rest, hrest⟩ := List.head?_eq_some_iff.mp h
    exact hnot rest hrest

theorem holds_templateDir {choice : Option Value}
    (h : Settings.chosen Settings.readTemplateDir choice
      (Symbols.ofText Settings.default.templateDir) = .ok c.templateDir) :
    Holds c .templateDir choice := by
  cases choice with
  | none => exact .default (Except.ok.inj h).symm
  | some v =>
    cases v with
    | text s => exact .templateDir (Except.ok.inj h).symm
    | broken s => exact .brokenDir (Except.ok.inj h).symm
    | _ => cases h

theorem holds_extensions {choice : Option Value}
    (h : Settings.chosen Settings.readExtensions choice
      (Settings.default.extensions.map Symbols.ofText) = .ok c.extensions) :
    Holds c .extensions choice := by
  cases choice with
  | none => exact .default (Except.ok.inj h).symm
  | some v =>
    change Settings.readExtensions v = .ok c.extensions at h
    unfold Settings.readExtensions at h
    split at h
    next exts hexts =>
      obtain ⟨xs, helements, hxs⟩ := Option.bind_eq_some_iff.mp hexts
      refine .extensions helements ?_
      rw [← Except.ok.inj h, List.forall₂_map_right_iff]
      exact (forall₂_of_mapM hxs).imp fun w s hs => ⟨s, hs, dotted_eq s⟩
    next => cases h

theorem holds_policy {choice : Option Value} (hword : checkPolicy choice = .ok ())
    (h : Settings.chosen Settings.readPolicy choice Settings.default.policy = .ok c.policy) :
    Holds c .policy choice := by
  cases choice with
  | none => exact .default (Except.ok.inj h).symm
  | some v =>
    cases v with
    | text word =>
      cases checkPolicy_eq_ok_iff.mp hword _ rfl rfl with
      | policy hname =>
        have hread : .ok ((Policy.ofName? word).getD Settings.default.policy) = Except.ok c.policy := h
        rw [Policy.ofName?_eq_some_iff.mpr hname, Except.ok.injEq] at hread
        exact .policy (hread ▸ hname)
    | broken s => cases hword
    | _ => cases h

theorem holds_maxDepth {choice : Option Value} (hnull : choice ≠ some .null) {depth : Option (Option Int)}
    (h : readDepth choice = .ok depth) (hdepth : depth.getD Settings.default.maxDepth = c.maxDepth) :
    Holds c .maxDepth choice := by
  unfold readDepth at h
  split at h
  next =>
    cases h
    exact .default hdepth.symm
  next => exact absurd rfl hnull
  next n =>
    split at h
    next => cases h
    next hn =>
      cases h
      exact .maxDepth (Int.not_lt.mp hn) hdepth.symm
  next => cases h

/-- A layer that leaves no value empty is read to a configuration that holds what it chooses. -/
theorem holds_of_configured (hlayer : Filled layer) (h : configured layer = .ok c) (x : Setting) :
    Holds c x (layer x) := by
  obtain ⟨⟨⟩, hpolicy, h⟩ := bind_eq_ok_iff.mp h
  obtain ⟨depth, hdepth, h⟩ := bind_eq_ok_iff.mp h
  obtain ⟨dir, hdir, h⟩ := bind_eq_ok_iff.mp h
  obtain ⟨policy, hread, h⟩ := bind_eq_ok_iff.mp h
  obtain ⟨extensions, hextensions, h⟩ := bind_eq_ok_iff.mp h
  cases h
  cases x with
  | templateDir => exact holds_templateDir hdir
  | extensions => exact holds_extensions hextensions
  | policy => exact holds_policy hpolicy hread
  | maxDepth => exact holds_maxDepth (hlayer .maxDepth) hdepth rfl

/-- A layer that is not read chooses something unfit. -/
theorem unfit_of_configured {f : ConfigFailure} (h : configured layer = .error f) :
    ∃ x v, layer x = some v ∧ ¬ Fits x v := by
  rcases configured_eq_error_iff.mp h with h | ⟨-, h⟩
  · have hword : ¬ Worded layer := by
      intro hword
      rw [checkPolicy_eq_ok_iff.mpr hword] at h
      cases h
    simp only [Worded, not_forall] at hword
    obtain ⟨v, hv, -, hunfit⟩ := hword
    exact ⟨.policy, v, hv, hunfit⟩
  · obtain ⟨-, x, -, -, -, hx⟩ := mapM_eq_error_iff.mp h
    obtain ⟨v, hv, hrefused, -⟩ := inspect_eq_error_iff.mp hx
    exact ⟨x, v, hv, hrefused.not_fits⟩

/-! ## The whole -/

/-- What the options choose is a value. -/
theorem filled_optionFor : Filled (optionFor options) := by
  intro x h
  obtain ⟨o, -, ho⟩ := List.mem_filterMap.mp (List.mem_of_getLast? h)
  unfold valueFor? at ho
  split at ho
  next => cases ho
  next hv =>
    split at ho
    next => exact hv (Option.some.inj ho)
    next => cases ho

/-- What a table has for a setting is a value. -/
theorem filled_tableFor (h : table.NullFree) : Filled (tableFor table) :=
  ofTable_eq_tableFor table ▸ filled_of_get? fun _ hget => h _ (Dict.mem_of_get? hget) rfl

/-- What is selected is a value. -/
theorem filled_selected (hprofiles : tableAt? profilesKey table = some profiles) (htable : table.NullFree)
    (hinner : ∀ e ∈ profiles, ∀ entries, e.2 = .dict entries → Dict.NullFree entries) :
    Filled (selected table profile options) := by
  refine filled_optionFor.atop (.atop ?_ (filled_tableFor htable))
  intro x h
  obtain ⟨entries, hentries, h⟩ := Option.bind_eq_some_iff.mp h
  obtain ⟨name, -, -, hget⟩ := profileTable?_eq_some_iff.mp hentries
  rw [profilesOf, hprofiles] at hget
  exact filled_tableFor (hinner _ (Dict.mem_of_get? hget) entries rfl) x h

/-- A configuration is made where nothing is at fault, and it holds what is selected. -/
theorem configure_eq_ok_of_not_faulty (hprofiles : tableAt? profilesKey table = some profiles)
    (hfilled : Filled (selected table profile options)) (h : ¬ Faulty table profile options) :
    ∃ c, configure table profile options = .ok c ∧
      ∀ x, Holds c x (selected table profile options x) := by
  have hfound : Found table profile := of_not_not fun hfound => h (.profile hfound)
  have hknown : Known options := of_not_not fun hknown => h (.option hknown)
  have hlayers := (layers_eq_ok_iff hprofiles).mpr ⟨hfound, hknown, rfl⟩
  cases hc : configured (selected table profile options) with
  | ok c => exact ⟨c, bind_eq_ok_iff.mpr ⟨_, hlayers, hc⟩, holds_of_configured hfilled hc⟩
  | error f =>
    obtain ⟨x, v, hv, hunfit⟩ := unfit_of_configured hc
    exact absurd (.value hv hunfit) h

/-- Nothing is at fault where a configuration is made. -/
theorem not_faulty_of_configure (hprofiles : tableAt? profilesKey table = some profiles)
    (hfilled : Filled (selected table profile options)) (h : configure table profile options = .ok c) :
    ¬ Faulty table profile options := by
  obtain ⟨layer, hlayer, hc⟩ := bind_eq_ok_iff.mp h
  obtain ⟨hfound, hknown, rfl⟩ := (layers_eq_ok_iff hprofiles).mp hlayer
  rintro (hnot | hnot | ⟨hv, hunfit⟩)
  · exact hnot hfound
  · exact hnot hknown
  · exact hunfit (hv ▸ holds_of_configured hfilled hc _).fits

/-- What escapes from a configuration whose profiles are a table: a refusal that cannot be written. -/
theorem configure_escapes_iff_untold (hprofiles : tableAt? profilesKey table = some profiles)
    {e : Escape} : configure table profile options = .error (.escaped e) ↔
      Untold table profile options ∧ e = .badValue := by
  have hsettles : profileLayer table profile ≠ .error (.escaped e) := by
    intro h
    obtain ⟨-, -, v, hv, hnot⟩ := profileLayer_escapes_iff.mp h
    rcases get?_of_tableAt? hprofiles with ⟨hnone, -⟩ | hsome
    · rw [hnone] at hv
      cases hv
    · rw [hsome] at hv
      exact hnot profiles (Option.some.inj hv).symm
  rw [configure_escapes_iff, or_iff_right hsettles]
  constructor
  · rintro ⟨layer, hlayer, hc⟩
    obtain ⟨hfound, hknown, rfl⟩ := (layers_eq_ok_iff hprofiles).mp hlayer
    obtain ⟨hword, v, hv, hwritten, rfl⟩ := configured_escapes_iff.mp hc
    exact ⟨⟨hfound, hknown, checkPolicy_eq_ok_iff.mp hword, v, hv, hwritten⟩, rfl⟩
  · rintro ⟨⟨hfound, hknown, hworded, v, hv, hwritten⟩, rfl⟩
    refine ⟨_, (layers_eq_ok_iff hprofiles).mpr ⟨hfound, hknown, rfl⟩, ?_⟩
    exact configured_escapes_iff.mpr ⟨checkPolicy_eq_ok_iff.mpr hworded, v, hv, hwritten, rfl⟩

/-- **Every setting holds what is selected for it, or the configuration is refused.** It is refused where
the profile, an option or a selected value is at fault, and only there; but where the value that is to be
refused cannot be written, the refusal fails. -/
theorem configure_selected (hprofiles : tableAt? profilesKey table = some profiles)
    (htable : table.NullFree)
    (hinner : ∀ e ∈ profiles, ∀ entries, e.2 = .dict entries → Dict.NullFree entries) :
    ((∃ cause, configure table profile options = .error (.reported cause)) ↔
      Faulty table profile options ∧ ¬ Untold table profile options) ∧
    (∀ e, configure table profile options = .error (.escaped e) ↔
      Untold table profile options ∧ e = .badValue) ∧
    (¬ Faulty table profile options → ∃ c, configure table profile options = .ok c ∧
      ∀ x, Holds c x (selected table profile options x)) := by
  have hfilled : Filled (selected table profile options) := filled_selected hprofiles htable hinner
  refine ⟨?_, fun e => configure_escapes_iff_untold hprofiles,
    configure_eq_ok_of_not_faulty hprofiles hfilled⟩
  constructor
  · rintro ⟨cause, h⟩
    constructor
    · by_contra hnot
      obtain ⟨c, hc, -⟩ := configure_eq_ok_of_not_faulty hprofiles hfilled hnot
      rw [hc] at h
      cases h
    · intro huntold
      rw [(configure_escapes_iff_untold hprofiles).mpr ⟨huntold, rfl⟩] at h
      cases h
  · rintro ⟨hfaulty, htold⟩
    cases h : configure table profile options with
    | ok c => exact absurd hfaulty (not_faulty_of_configure hprofiles hfilled h)
    | error f =>
      cases f with
      | reported cause => exact ⟨cause, rfl⟩
      | escaped e => exact absurd ((configure_escapes_iff_untold hprofiles).mp h).1 htold

/-! A profile over a table, and options over both. What is wrong below does no harm. -/

/-- A table with an unknown policy and a depth limit that is no number, and a profile that says better. -/
def siteTable : Dict :=
  [(.text Setting.templateDir.name, .text "site//templates".toList),
    (.text Setting.policy.name, .text "sometimes".toList), (.text depthKey, .bool true),
    (.text profilesKey, .dict [(.text "feeds".toList,
      .dict [(.text Setting.extensions.name, .list [.text "xml".toList, .text ".rss".toList]),
        (.text Setting.policy.name, .text "Enabled".toList)])])]

/-- An option that is given a value, and one that is left open. -/
def siteOptions : List (Text × Value) :=
  [(Setting.maxDepth.name, .int 20), (Setting.templateDir.name, .null)]

/-- What is selected from them fits. -/
theorem fits_selected_siteTable {x : Setting} {v : Value}
    (h : selected siteTable (some "feeds".toList) siteOptions x = some v) : Fits x v := by
  cases x with
  | templateDir =>
    cases h
    exact .templateDir rfl
  | extensions =>
    cases h
    exact .extensions rfl (List.forall_mem_cons.mpr ⟨rfl, List.forall_mem_singleton.mpr rfl⟩)
  | policy =>
    cases h
    exact .policy (p := .enabled) (by decide)
  | maxDepth =>
    cases h
    exact .maxDepth (by decide)

/-- **Every layer has its part in the configuration.** -/
theorem configure_siteTable :
    ∃ c, configure siteTable (some "feeds".toList) siteOptions = .ok c ∧
      c.templateDir = Symbols.ofText "site/templates".toList ∧
      c.extensions = [Symbols.ofText ".xml".toList, Symbols.ofText ".rss".toList] ∧
      c.policy = .enabled ∧ c.maxDepth = some 20 := by
  have hsound : ¬ Faulty siteTable (some "feeds".toList) siteOptions := by
    rintro (h | h | ⟨hv, hunfit⟩)
    · exact h fun _ _ _ => nofun
    · exact h (List.forall_mem_cons.mpr
        ⟨⟨.maxDepth, rfl⟩, List.forall_mem_singleton.mpr ⟨.templateDir, rfl⟩⟩)
    · exact hunfit (fits_selected_siteTable hv)
  have hfree : siteTable.NullFree := by simp [Dict.NullFree, siteTable]
  have hinner : ∀ e ∈ profilesOf siteTable, ∀ entries, e.2 = .dict entries →
      Dict.NullFree entries := by
    refine List.forall_mem_singleton.mpr fun entries h => ?_
    cases h
    exact List.forall_mem_cons.mpr ⟨nofun, List.forall_mem_singleton.mpr nofun⟩
  obtain ⟨-, -, hmade⟩ := configure_selected rfl hfree hinner
  obtain ⟨c, hc, hholds⟩ := hmade hsound
  refine ⟨c, hc, ?_, ?_, ?_, ?_⟩
  · have hdir : Holds c .templateDir (some (.text "site//templates".toList)) := hholds .templateDir
    cases hdir with
    | templateDir h => exact h.trans (by decide)
  · have hexts : Holds c .extensions (some (.list [.text "xml".toList, .text ".rss".toList])) :=
      hholds .extensions
    cases hexts with
    | extensions helements hdots =>
      cases helements
      obtain ⟨_, _, ⟨_, ⟨⟩, rfl⟩, hrest, hexts⟩ := List.forall₂_cons_left_iff.mp hdots
      obtain ⟨_, _, ⟨_, ⟨⟩, rfl⟩, hnil, rfl⟩ := List.forall₂_cons_left_iff.mp hrest
      rw [hexts, List.forall₂_nil_left_iff.mp hnil]
      decide
  · have hpolicy : Holds c .policy (some (.text "Enabled".toList)) := hholds .policy
    cases hpolicy with
    | policy h => exact Option.some.inj ((Policy.ofName?_eq_some_iff.mpr h).symm.trans (by decide))
  · have hdepth : Holds c .maxDepth (some (.int 20)) := hholds .maxDepth
    cases hdepth with
    | maxDepth _ h => exact h

/-! A value that is refused and cannot be written. -/

/-- A table that has a number for the directory. -/
def numberTable (n : Nat) : Dict := [(.text Setting.templateDir.name, .int n)]

/-- A number is at fault for the directory. -/
theorem faulty_numberTable (n : Nat) : Faulty (numberTable n) none [] := by
  have hunfit : ¬ Fits .templateDir (.int n) := by rintro ⟨⟨⟩⟩
  exact .value rfl hunfit

/-- The refusal of a number that is too long to be written fails. -/
theorem configure_numberTable {n : Nat} (hn : Nat.pow 10 Decimal.longestInteger ≤ n) :
    configure (numberTable n) none [] = .error (.escaped .badValue) := by
  have hwritten : (Value.int n).written = none := by
    rw [Value.written, Value.writtenWithin, writtenInt_eq_none hn]
  exact congrArg Except.error (refused_eq_escaped_iff.mpr ⟨hwritten, rfl⟩)

theorem nullFree_numberTable (n : Nat) : (numberTable n).NullFree :=
  List.forall_mem_singleton.mpr nofun

/-- The least number that is too long to be written, for the directory. -/
def longTable : Dict := numberTable (Nat.pow 10 Decimal.longestInteger)

/-- **Nothing is reported**, though the number is at fault. -/
theorem fault_of_longTable_escapes :
    tableAt? profilesKey longTable = some [] ∧ longTable.NullFree ∧ Faulty longTable none [] ∧
      ∀ cause, configure longTable none [] ≠ .error (.reported cause) := by
  have hescapes : configure longTable none [] = .error (.escaped .badValue) :=
    configure_numberTable (Nat.le_refl _)
  refine ⟨rfl, nullFree_numberTable _, faulty_numberTable _, fun cause h => ?_⟩
  rw [hescapes] at h
  cases h

end Config

end Stencil
