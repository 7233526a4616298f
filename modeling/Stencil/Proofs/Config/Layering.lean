import Mathlib
import Stencil.Config.Files
import Stencil.Proofs.Formats.Tables

/-!
# The project's configuration on the user's

A setting has the value that the project's table gives it, or else the one of the user's table, or else
its default (`load_layered`). There is one exception. The tables are laid over each other key by key, and
the depth limit has two keys: where the user chooses it under the stronger one and the project under the
weaker one alone, both keys are in the merged table and the user's limit prevails (`Overruled`).

The proof has two halves that meet in `Layer`: what a merged table has under the keys of a setting
(`ofTable_merged`), and that settings are built from a layer one by one (`settings_eq_ok_iff`).
-/

namespace Stencil

open Value (Keyed)

/-! ## Settings, one by one -/

/-- Settings that agree in one of them. -/
def Settings.Agrees (a : Settings) (x : Setting) (b : Settings) : Prop :=
  match x with
  | .templateDir => a.templateDir = b.templateDir
  | .extensions => a.extensions = b.extensions
  | .policy => a.policy = b.policy
  | .maxDepth => a.maxDepth = b.maxDepth

/-- Settings each of which is taken from settings of its own. -/
def Settings.picked (source : Setting → Settings) : Settings where
  templateDir := (source .templateDir).templateDir
  extensions := (source .extensions).extensions
  policy := (source .policy).policy
  maxDepth := (source .maxDepth).maxDepth

theorem Settings.picked_agrees (source : Setting → Settings) (x : Setting) :
    (Settings.picked source).Agrees x (source x) := by
  cases x <;> rfl

namespace Config

/-- Settings of which one is what a choice for it means; the default, where nothing is chosen. -/
def Takes (x : Setting) (choice : Option Value) (s : Settings) : Prop :=
  match x with
  | .templateDir =>
    ∃ dir, Settings.chosen Settings.readTemplateDir choice
      (Symbols.ofText Settings.default.templateDir) = .ok dir ∧ dir.text? = some s.templateDir
  | .extensions =>
    ∃ exts, Settings.chosen Settings.readExtensions choice
      (Settings.default.extensions.map Symbols.ofText) = .ok exts ∧
        exts.mapM Symbols.text? = some s.extensions
  | .policy =>
    checkPolicy choice = .ok () ∧
      Settings.chosen Settings.readPolicy choice Settings.default.policy = .ok s.policy
  | .maxDepth =>
    ∃ depth, readDepth choice = .ok depth ∧ depth.getD Settings.default.maxDepth = s.maxDepth

/-- What is configured makes settings when its directory and its extensions are texts. -/
theorem settings_of_configured_iff {c : Configured} {s : Settings} :
    c.settings = .ok s ↔ c.templateDir.text? = some s.templateDir ∧
      c.extensions.mapM Symbols.text? = some s.extensions ∧ c.policy = s.policy ∧
      c.maxDepth = s.maxDepth := by
  obtain ⟨dir, exts, policy, depth⟩ := s
  rw [Configured.settings]
  split
  next hdir hexts => simp only [hdir, hexts, Except.ok.injEq, Settings.mk.injEq, Option.some.injEq]
  next hnone => exact iff_of_false nofun fun ⟨hdir, hexts, _⟩ => hnone dir exts hdir hexts

/-- A layer is read to settings when each of them is what the layer has for it. -/
theorem settings_eq_ok_iff {layer : Layer} {s : Settings} :
    settings layer = .ok s ↔ ∀ x, Takes x (layer x) s := by
  constructor
  · intro h
    obtain ⟨c, hc, h⟩ := bind_eq_ok_iff.mp h
    obtain ⟨hdirText, hextsText, hpolicyText, hdepthText⟩ :=
      settings_of_configured_iff.mp (mapError_eq_ok_iff.mp h)
    obtain ⟨⟨⟩, hpolicy, hc⟩ := bind_eq_ok_iff.mp hc
    obtain ⟨depth, hdepth, hc⟩ := bind_eq_ok_iff.mp hc
    obtain ⟨dir, hdir, hc⟩ := bind_eq_ok_iff.mp hc
    obtain ⟨policy, hread, hc⟩ := bind_eq_ok_iff.mp hc
    obtain ⟨extensions, hextensions, hc⟩ := bind_eq_ok_iff.mp hc
    cases hc
    intro x
    cases x with
    | templateDir => exact ⟨dir, hdir, hdirText⟩
    | extensions => exact ⟨extensions, hextensions, hextsText⟩
    | policy => exact ⟨hpolicy, hread.trans (congrArg Except.ok hpolicyText)⟩
    | maxDepth => exact ⟨depth, hdepth, hdepthText⟩
  · intro h
    obtain ⟨dir, hdir, hdirText⟩ := h .templateDir
    obtain ⟨extensions, hextensions, hextsText⟩ := h .extensions
    obtain ⟨hpolicy, hread⟩ := h .policy
    obtain ⟨depth, hdepth, hlimit⟩ := h .maxDepth
    refine bind_eq_ok_iff.mpr ⟨⟨dir, extensions, s.policy, s.maxDepth⟩, ?_, ?_⟩
    · refine bind_eq_ok_iff.mpr ⟨(), hpolicy, bind_eq_ok_iff.mpr ⟨depth, hdepth, ?_⟩⟩
      refine bind_eq_ok_iff.mpr ⟨dir, hdir, ?_⟩
      refine bind_eq_ok_iff.mpr ⟨s.policy, hread, ?_⟩
      refine bind_eq_ok_iff.mpr ⟨extensions, hextensions, ?_⟩
      rw [hlimit]
      rfl
    · exact mapError_eq_ok_iff.mpr
        (settings_of_configured_iff.mpr ⟨hdirText, hextsText, rfl, rfl⟩)

/-- Settings that agree in what is chosen are what the choice means together. -/
theorem Takes.congr {x : Setting} {choice : Option Value} {a b : Settings} (h : Takes x choice a)
    (hagrees : b.Agrees x a) : Takes x choice b := by
  cases x with
  | templateDir =>
    obtain ⟨dir, hdir, htext⟩ := h
    exact ⟨dir, hdir, htext.trans (congrArg some (Eq.symm hagrees))⟩
  | extensions =>
    obtain ⟨exts, hexts, htext⟩ := h
    exact ⟨exts, hexts, htext.trans (congrArg some (Eq.symm hagrees))⟩
  | policy => exact ⟨h.1, h.2.trans (congrArg Except.ok (Eq.symm hagrees))⟩
  | maxDepth =>
    obtain ⟨depth, hdepth, hlimit⟩ := h
    exact ⟨depth, hdepth, hlimit.trans (Eq.symm hagrees)⟩

/-- Where nothing is chosen, a setting is the default. -/
theorem takes_none (x : Setting) : Takes x none .default := by
  cases x with
  | templateDir => exact ⟨_, rfl, rfl⟩
  | extensions => exact ⟨_, rfl, rfl⟩
  | policy => exact ⟨rfl, rfl⟩
  | maxDepth => exact ⟨none, rfl, rfl⟩

/-- Without a profile and without options, settings are read from the table alone. -/
theorem build_table (table : Dict) : build table none [] = settings (.ofTable table) := by
  have hlayer : Layer.empty.atop (Layer.empty.atop (.ofTable table)) = .ofTable table := rfl
  exact congrArg settings hlayer

/-! ## Two tables -/

/-- Whether a table sets a setting, under any of its keys. -/
def Sets (table : Dict) (x : Setting) : Prop := ∃ key ∈ x.keys, (Dict.get? key table).isSome

instance (table : Dict) (x : Setting) : Decidable (Sets table x) :=
  inferInstanceAs (Decidable (∃ key ∈ x.keys, (Dict.get? key table).isSome))

/-- The stronger key of the depth limit. -/
def depthKey : Text := "max_depth"

/-- The user sets the depth limit under its stronger key, and the project under the weaker one alone. -/
def Overruled (user project : Dict) (x : Setting) : Prop :=
  x = .maxDepth ∧ (Dict.get? depthKey user).isSome ∧ (Dict.get? depthKey project).isNone ∧
    (Dict.get? Setting.maxDepth.name project).isSome

instance (user project : Dict) (x : Setting) : Decidable (Overruled user project x) :=
  inferInstanceAs (Decidable (_ ∧ _ ∧ _ ∧ _))

/-- A table chooses nothing for a setting that it does not set. -/
theorem ofTable_eq_none {table : Dict} {x : Setting} (h : ¬ Sets table x) :
    Layer.ofTable table x = none := by
  refine List.findSome?_eq_none_iff.mpr fun key hkey => ?_
  exact Option.not_isSome_iff_eq_none.mp fun hsome => h ⟨key, hkey, hsome⟩

/-- Under a key other than that of the profiles, the merged table has what the project has, or else
what the user has. -/
theorem get?_merged {user project : Dict} (h : project.Distinct) {key : Text}
    (hkey : key ≠ profilesKey) :
    Dict.get? key (merged user project) = (Dict.get? key project).or (Dict.get? key user) := by
  unfold merged
  rw [Dict.get?_update (h.erase profilesKey), Dict.get?_erase hkey]
  split
  next => rw [Dict.get?_insert_text, if_neg hkey]
  next => rfl

/-- No setting is chosen under the key of the profiles. -/
theorem keys_ne_profilesKey {x : Setting} {key : Text} (h : key ∈ x.keys) : key ≠ profilesKey := by
  rintro rfl
  revert h
  cases x <;> decide

/-- What a table chooses for a setting that has one key. -/
theorem ofTable_of_keys {x : Setting} {key : Text} (h : x.keys = [key]) (table : Dict) :
    Layer.ofTable table x = Dict.get? key table := by
  simp only [Layer.ofTable, h, List.findSome?_cons, List.findSome?_nil]
  cases Dict.get? key table <;> rfl

/-- What a table chooses for the depth limit. -/
theorem ofTable_maxDepth (table : Dict) : Layer.ofTable table .maxDepth =
    (Dict.get? depthKey table).or (Dict.get? Setting.maxDepth.name table) := by
  show List.findSome? _ [depthKey, Setting.maxDepth.name] = _
  simp only [List.findSome?_cons, List.findSome?_nil]
  cases Dict.get? depthKey table <;> cases Dict.get? Setting.maxDepth.name table <;> rfl

/-- Whether a table sets the depth limit. -/
theorem sets_maxDepth_iff {table : Dict} : Sets table .maxDepth ↔
    (Dict.get? depthKey table).isSome ∨ (Dict.get? Setting.maxDepth.name table).isSome := by
  show (∃ key ∈ [depthKey, Setting.maxDepth.name], _) ↔ _
  simp only [List.mem_cons, List.not_mem_nil, or_false, exists_eq_or_imp, exists_eq_left]

/-- What the merged table chooses for a setting that has one key. -/
theorem ofTable_merged_of_keys {user project : Dict} (h : project.Distinct) {x : Setting} {key : Text}
    (hkeys : x.keys = [key]) : Layer.ofTable (merged user project) x =
      if Sets project x then Layer.ofTable project x else Layer.ofTable user x := by
  have hkey : key ≠ profilesKey := keys_ne_profilesKey (hkeys ▸ List.mem_singleton_self key)
  have hsets : Sets project x ↔ (Dict.get? key project).isSome := by
    simp only [Sets, hkeys, List.mem_singleton, exists_eq_left]
  rw [ofTable_of_keys hkeys, ofTable_of_keys hkeys, ofTable_of_keys hkeys, get?_merged h hkey]
  cases hproject : Dict.get? key project with
  | none =>
    rw [Option.none_or, if_neg]
    rw [hsets, hproject]
    exact Bool.false_ne_true
  | some v =>
    rw [Option.some_or, if_pos]
    rw [hsets, hproject]
    rfl

/-- What the merged table chooses for the depth limit. The project's two keys and the stronger one of
the user decide it. -/
theorem ofTable_merged_maxDepth {user project : Dict} (h : project.Distinct) :
    Layer.ofTable (merged user project) .maxDepth =
      if Sets project .maxDepth ∧ ¬ Overruled user project .maxDepth then
        Layer.ofTable project .maxDepth
      else Layer.ofTable user .maxDepth := by
  have hstrong : depthKey ≠ profilesKey := by decide
  have hweak : Setting.maxDepth.name ≠ profilesKey := by decide
  rw [ofTable_maxDepth, ofTable_maxDepth, ofTable_maxDepth, get?_merged h hstrong,
    get?_merged h hweak]
  simp only [sets_maxDepth_iff, Overruled, true_and]
  cases Dict.get? depthKey project <;> cases Dict.get? Setting.maxDepth.name project <;>
    cases Dict.get? depthKey user <;> simp

/-- **What the merged table chooses for a setting**: what the project's table does, if it sets the
setting and is not overruled, and otherwise what the user's does. -/
theorem ofTable_merged {user project : Dict} (h : project.Distinct) (x : Setting) :
    Layer.ofTable (merged user project) x =
      if Sets project x ∧ ¬ Overruled user project x then Layer.ofTable project x
      else Layer.ofTable user x := by
  by_cases hx : x = .maxDepth
  · rw [hx]
    exact ofTable_merged_maxDepth h
  · have hkeys : x.keys = [x.name] := by
      cases x with
      | maxDepth => exact absurd rfl hx
      | _ => rfl
    have hover : ¬ Overruled user project x := fun hover => hx hover.1
    rw [ofTable_merged_of_keys h hkeys]
    simp only [hover, not_false_eq_true, and_true]

/-! ## Tables from files -/

/-- A table within a table repeats no key either. -/
theorem keyed_lookInside (names : List Text) {v : Value} (hv : Keyed v) :
    Yields Keyed (lookInside names v) := by
  induction names generalizing v with
  | nil => exact .ok hv
  | cons name rest ih =>
    cases v with
    | dict entries => exact ih (hv.getD name)
    | _ => exact .error _

/-- The configuration in a file repeats no key. -/
theorem keyed_ofFile (t : FileTree) (path : Path) : Yields Keyed (ofFile t path) := by
  unfold ofFile
  refine .andThen fun _ => .ite (.andThen fun s => ?_) (.pure .empty)
  refine .bind (.mapError (Toml.keyed_read s)) fun v hv => .ite ?_ (.pure hv)
  exact .mapError (keyed_lookInside sharedTables hv)

/-- The table of a project repeats no key, nor do the tables within it. -/
theorem keyed_firstTable (t : FileTree) (dir : Path) (names : List Text) :
    Yields (fun found => ∀ d, found = some d → Keyed (.dict d)) (firstTable t dir names) := by
  induction names with
  | nil => exact .ok nofun
  | cons name rest ih =>
    rw [firstTable]
    refine .bind (keyed_ofFile t _) fun v hv => .ite (.map (.mapError ?_)) ih
    cases v with
    | dict entries => exact .ok fun d hd => Option.some.inj hd ▸ hv
    | _ => exact .error _

/-- The table of a project repeats no key. -/
theorem distinct_firstTable (t : FileTree) (dir : Path) (names : List Text) :
    Yields (fun found => ∀ d, found = some d → d.Distinct) (firstTable t dir names) :=
  fun found h d hd => (keyed_firstTable t dir names found h d hd).distinct

/-- The configuration of a user and a project is that of the user with that of the project on top. -/
theorem load_eq_merged {t : FileTree} {userFile dir : Path} {user project : Dict}
    (huser : ofFile t userFile = .ok (.dict user))
    (hproject : firstTable t dir projectFiles = .ok (some project)) :
    load t userFile dir = .ok (merged user project) := by
  unfold load
  rw [huser, hproject]
  rfl

/-- A file that is not there configures nothing. -/
theorem ofFile_of_absent {t : FileTree} {path : Path} (h : t.isFile path.toText = .ok false) :
    ofFile t path = .ok (.dict []) := by
  unfold ofFile
  rw [h]
  rfl

/-- A file of its own configures what it is read to. -/
theorem ofFile_of_text {t : FileTree} {path : Path} {s : Text} {v : Value}
    (hfile : t.isFile path.toText = .ok true) (htext : t.readText path.toText = .ok s)
    (hread : Toml.read s = .ok v) (hname : path.name ≠ sharedFile) : ofFile t path = .ok v := by
  refine bind_eq_ok_iff.mpr ⟨true, mapError_eq_ok_iff.mpr hfile, ?_⟩
  rw [if_pos rfl]
  refine bind_eq_ok_iff.mpr ⟨s, mapError_eq_ok_iff.mpr htext, ?_⟩
  refine bind_eq_ok_iff.mpr ⟨v, mapError_eq_ok_iff.mpr hread, ?_⟩
  exact if_neg hname

/-- A project file that configures nothing is passed over. -/
theorem firstTable_of_empty {t : FileTree} {dir : Path} {name : Text} {rest : List Text}
    (h : ofFile t (dir.within (.ofText name)) = .ok (.dict [])) :
    firstTable t dir (name :: rest) = firstTable t dir rest := by
  rw [firstTable, h]
  rfl

/-- A project file that configures something is the one that counts. -/
theorem firstTable_of_entries {t : FileTree} {dir : Path} {name : Text} {rest : List Text}
    {e : Value × Value} {d : Dict} (h : ofFile t (dir.within (.ofText name)) = .ok (.dict (e :: d))) :
    firstTable t dir (name :: rest) = .ok (some (e :: d)) := by
  rw [firstTable, h]
  rfl

/-- A project that has none of the files configures nothing. -/
theorem firstTable_of_absent {t : FileTree} {dir : Path} {names : List Text}
    (h : ∀ name ∈ names, t.isFile (dir.within (.ofText name)).toText = .ok false) :
    firstTable t dir names = .ok none := by
  induction names with
  | nil => rfl
  | cons name rest ih =>
    obtain ⟨hname, hrest⟩ := List.forall_mem_cons.mp h
    rw [firstTable_of_empty (ofFile_of_absent hname), ih hrest]

/-- Where there are no files, nothing is configured. -/
theorem load_of_absent {t : FileTree} {userFile dir : Path} (huser : t.isFile userFile.toText = .ok false)
    (hproject : ∀ name ∈ projectFiles, t.isFile (dir.within (.ofText name)).toText = .ok false) :
    load t userFile dir = .ok [] := by
  unfold load
  rw [ofFile_of_absent huser, firstTable_of_absent hproject]
  rfl

/-! ## The whole -/

/-- **A project's configuration prevails over a user's, setting by setting.** Of two configurations that
are valid by themselves, the merged one is valid, and each setting is as the project has it, if the
project sets it; or else as the user has it, if the user does; or else the default. Where the user's
depth limit overrules the project's, it is as the user has it. -/
theorem load_layered {t : FileTree} {userFile dir : Path} {user project : Dict} {u p : Settings}
    (huser : ofFile t userFile = .ok (.dict user))
    (hproject : firstTable t dir projectFiles = .ok (some project))
    (hu : build user none [] = .ok u) (hp : build project none [] = .ok p) :
    ∃ table s, load t userFile dir = .ok table ∧ build table none [] = .ok s ∧
      ∀ x, s.Agrees x (if Overruled user project x then u else if Sets project x then p
        else if Sets user x then u else .default) := by
  -- Of a key that stood twice the first value would be looked up, and the last one laid on top.
  have hdistinct : project.Distinct := distinct_firstTable t dir projectFiles _ hproject _ rfl
  have hus : ∀ x, Takes x (Layer.ofTable user x) u := settings_eq_ok_iff.mp (build_table user ▸ hu)
  have hps : ∀ x, Takes x (Layer.ofTable project x) p :=
    settings_eq_ok_iff.mp (build_table project ▸ hp)
  -- Each setting is taken from the settings of the layer that has it.
  let source (x : Setting) : Settings :=
    if Overruled user project x then u else if Sets project x then p
      else if Sets user x then u else .default
  refine ⟨_, .picked source, load_eq_merged huser hproject, ?_, Settings.picked_agrees source⟩
  rw [build_table, settings_eq_ok_iff]
  intro x
  rw [ofTable_merged hdistinct]
  have hpicked : (Settings.picked source).Agrees x (source x) := Settings.picked_agrees source x
  by_cases hover : Overruled user project x
  · rw [show source x = u from if_pos hover] at hpicked
    rw [if_neg fun h => h.2 hover]
    exact (hus x).congr hpicked
  by_cases hset : Sets project x
  · rw [show source x = p from (if_neg hover).trans (if_pos hset)] at hpicked
    rw [if_pos ⟨hset, hover⟩]
    exact (hps x).congr hpicked
  rw [if_neg fun h => hset h.1]
  have hsource : source x = if Sets user x then u else .default :=
    (if_neg hover).trans (if_neg hset)
  rw [hsource] at hpicked
  split at hpicked
  next => exact (hus x).congr hpicked
  next huser =>
    rw [ofTable_eq_none huser]
    exact (takes_none x).congr hpicked

/-! Two projects with a limit of their own, and a user with another. -/

/-- A user, `u`, whose limit is 5, and two projects, `a` and `b`, whose limit is 9. The limit of `b` is
written under the weaker key. -/
def limitsTree : FileTree where
  items := [([['u']], .file (Text.encoded "max_depth = 5".toList)), ([['a']], .directory),
    ([['a'], "lightbars.toml".toList], .file (Text.encoded "max_depth = 9".toList)),
    ([['b']], .directory),
    ([['b'], "lightbars.toml".toList], .file (Text.encoded "max_nesting_depth = 9".toList))]
  workingDirectory := []

/-- The limit in a table that holds nothing else. -/
def limit? : Except DocumentError Value → Option (Text × Int)
  | .ok (.dict [(.text key, .int n)]) => some (key, n)
  | _ => none

theorem eq_of_limit? {x : Except DocumentError Value} {key : Text} {n : Int}
    (h : limit? x = some (key, n)) : x = .ok (.dict [(.text key, .int n)]) := by
  unfold limit? at h
  split at h
  next =>
    cases h
    rfl
  next => cases h

/-- The user's table. -/
theorem ofFile_limitsTree_user :
    ofFile limitsTree (.ofText "/u".toList) = .ok (.dict [(.text depthKey, .int 5)]) :=
  ofFile_of_text (s := "max_depth = 5".toList) (by cbv) (by cbv) (eq_of_limit? (by decide +kernel))
    (by decide)

/-- **The project's limit counts where both tables have it under one key.** -/
theorem load_layered_limitsTree :
    ∃ table s, load limitsTree (.ofText "/u".toList) (.ofText "/a".toList) = .ok table ∧
      build table none [] = .ok s ∧ s.maxDepth = some 9 := by
  have hproject : firstTable limitsTree (.ofText "/a".toList) projectFiles =
      .ok (some [(.text depthKey, .int 9)]) := by
    refine (firstTable_of_empty (ofFile_of_absent (by cbv))).trans (firstTable_of_entries ?_)
    exact ofFile_of_text (s := "max_depth = 9".toList) (by cbv) (by cbv)
      (eq_of_limit? (by decide +kernel)) (by decide)
  obtain ⟨table, s, hload, hbuild, hagrees⟩ :=
    load_layered ofFile_limitsTree_user hproject (u := { Settings.default with maxDepth := some 5 })
      (p := { Settings.default with maxDepth := some 9 }) (by rfl) (by rfl)
  have hlimit := hagrees .maxDepth
  rw [if_neg (by decide), if_pos (by decide)] at hlimit
  exact ⟨table, s, hload, hbuild, hlimit⟩

/-- **A limit under the weaker key does not count** against a user's under the stronger one: the limit of
`b` is 9, and 5 is what its settings have. -/
theorem limit_overruled :
    ∃ user project table u p s,
      ofFile limitsTree (.ofText "/u".toList) = .ok (.dict user) ∧
      firstTable limitsTree (.ofText "/b".toList) projectFiles = .ok (some project) ∧
      build user none [] = .ok u ∧ build project none [] = .ok p ∧ Sets project .maxDepth ∧
      load limitsTree (.ofText "/u".toList) (.ofText "/b".toList) = .ok table ∧
      build table none [] = .ok s ∧ p.maxDepth = some 9 ∧ s.maxDepth = some 5 := by
  have hproject : firstTable limitsTree (.ofText "/b".toList) projectFiles =
      .ok (some [(.text Setting.maxDepth.name, .int 9)]) := by
    refine (firstTable_of_empty (ofFile_of_absent (by cbv))).trans (firstTable_of_entries ?_)
    exact ofFile_of_text (s := "max_nesting_depth = 9".toList) (by cbv) (by cbv)
      (eq_of_limit? (by decide +kernel)) (by decide)
  let limited (n : Int) : Settings := { Settings.default with maxDepth := some n }
  exact ⟨_, _, _, limited 5, limited 9, limited 5, ofFile_limitsTree_user, hproject, by rfl, by rfl,
    by decide, load_eq_merged ofFile_limitsTree_user hproject, by rfl, rfl, rfl⟩

end Config

end Stencil
