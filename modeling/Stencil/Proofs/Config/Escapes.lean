import Stencil.Proofs.Config.Layering
import Stencil.Proofs.Files.Reading

/-!
# What a configuration leaves unreported

Settings are configured from files, a profile and options, and what is wrong with any of these is to be
reported. `Stumbles` lists what is not: a file whose path is too long or whose bytes are no text, a
document at which the reader fails in a way of its own, something else where a table is looked into, and
a refused value that cannot be written. Each escapes where it is met first, and nothing else ever does
(`configuration_escapes_iff`).

The stages of a configuration are taken one by one, each with an equivalence of its own, and put together
along the sequence. So a stage that comes to report what escapes from it now loses its clause, and no
other stage is concerned.
-/

namespace Stencil.Config

variable {t : FileTree} {userFile dir : Path} {e : Escape}

/-! ## One file -/

/-- A configuration file with something wrong that is not reported. -/
inductive Unfit (t : FileTree) (path : Path) : Escape → Prop
  /-- The system does not take the path, so it cannot be said whether the file is there. -/
  | tooLong : t.stat path.toText = .error .nameTooLong → Unfit t path .nameTooLong
  /-- The file is no text. -/
  | undecodable : t.Undecodable path.toText → Unfit t path .undecodable
  /-- The reader fails, and not because the text is written wrongly. -/
  | unread {s : Text} {fault : DocumentError} {e : Escape} : t.readText path.toText = .ok s →
      Toml.read s = .error fault → fault.escape? = some e → Unfit t path e
  /-- Something else stands in the place of a table that leads to this program's. -/
  | untabled {s : Text} {v : Value} : t.readText path.toText = .ok s → Toml.read s = .ok v →
      path.name = sharedFile → lookInside sharedTables v = .error .notTable → Unfit t path .notTable

/-- Looking inside fails where a table is looked for in something else. -/
theorem eq_notTable_of_lookInside {names : List Text} {v : Value}
    (h : lookInside names v = .error e) : e = .notTable := by
  fun_induction lookInside names v with
  | case1 => cases h
  | case2 _ _ _ ih => exact ih h
  | case3 =>
    cases h
    rfl

/-- The bytes of a file are not read to a text. -/
theorem read_escapes_iff {path : Path} :
    (t.readText path.toText).mapError (readFailure path) = .error (.escaped e) ↔
      (Text.nul ∈ path.toText ∧ e = .badValue) ∨ t.Undecodable path.toText ∧ e = .undecodable :=
  FileTree.readText_escapes_iff fun _ => ite_eq_escaped_iff

/-- The text of a file is not read to a value. -/
theorem document_escapes_iff {path : Path} {x : Except DocumentError Value} :
    x.mapError (documentFailure path) = .error (.escaped e) ↔
      ∃ fault, x = .error fault ∧ fault.escape? = some e :=
  mapError_eq_error_iff.trans (exists_congr fun _ => and_congr_right fun _ => match_eq_escaped_iff)

/-- It is not told whether there is a file. -/
theorem present_escapes_iff {path : Path} :
    (t.isFile path.toText).mapError Failure.escaped = (.error (.escaped e) : Except ConfigFailure Bool) ↔
      t.stat path.toText = .error .nameTooLong ∧ e = .nameTooLong := by
  rw [← FileTree.isFile_eq_error_iff, mapError_eq_error_iff]
  simp

/-- A file that is there has no NUL character in its path. -/
theorem nul_notMem_of_isFile {path : Text} (h : t.isFile path = .ok true) : Text.nul ∉ path := by
  intro hnul
  obtain ⟨bytes, hstat⟩ := FileTree.isFile_eq_true_iff.mp h
  rw [FileTree.stat_of_nul hnul] at hstat
  cases hstat

/-- **What escapes from a configuration file.** -/
theorem ofFile_escapes_iff {path : Path} :
    ofFile t path = .error (.escaped e) ↔ Unfit t path e := by
  rw [ofFile, bind_eq_error_iff, present_escapes_iff]
  constructor
  · rintro (⟨hstat, rfl⟩ | ⟨isFile, hfile, h⟩)
    · exact .tooLong hstat
    · cases isFile with
      | false => cases h
      | true =>
        rw [if_pos rfl] at h
        rcases bind_eq_error_iff.mp h with h | ⟨s, hs, h⟩
        · rcases read_escapes_iff.mp h with ⟨hnul, -⟩ | ⟨hbytes, rfl⟩
          · exact absurd hnul (nul_notMem_of_isFile (mapError_eq_ok_iff.mp hfile))
          · exact .undecodable hbytes
        · have hs : t.readText path.toText = .ok s := mapError_eq_ok_iff.mp hs
          rcases bind_eq_error_iff.mp h with h | ⟨v, hv, h⟩
          · obtain ⟨fault, hfault, hescape⟩ := document_escapes_iff.mp h
            exact .unread hs hfault hescape
          · split at h
            next hname =>
              obtain ⟨d, hd, heq⟩ := mapError_eq_error_iff.mp h
              cases heq
              cases eq_notTable_of_lookInside hd
              exact .untabled hs (mapError_eq_ok_iff.mp hv) hname hd
            next => cases h
  · -- What is wrong is met behind all that goes well, so the sequence is followed up to it.
    have hpresent (h : t.isFile path.toText = .ok true) :
        (t.isFile path.toText).mapError Failure.escaped = (.ok true : Except ConfigFailure Bool) :=
      mapError_eq_ok_iff.mpr h
    rintro (hstat | ⟨bytes, hstat, hdecode⟩ | ⟨hs, hread, hescape⟩ | ⟨hs, hread, hname, hlook⟩)
    · exact .inl ⟨hstat, rfl⟩
    · refine .inr ⟨true, hpresent (FileTree.isFile_eq_true_iff.mpr ⟨bytes, hstat⟩), ?_⟩
      rw [if_pos rfl]
      refine bind_eq_error_iff.mpr (.inl (read_escapes_iff.mpr (.inr ⟨?_, rfl⟩)))
      exact ⟨bytes, hstat, hdecode⟩
    · refine .inr ⟨true, hpresent (FileTree.isFile_of_readText hs), ?_⟩
      rw [if_pos rfl]
      refine bind_eq_error_iff.mpr (.inr ⟨_, mapError_eq_ok_iff.mpr hs, ?_⟩)
      exact bind_eq_error_iff.mpr (.inl (document_escapes_iff.mpr ⟨_, hread, hescape⟩))
    · refine .inr ⟨true, hpresent (FileTree.isFile_of_readText hs), ?_⟩
      rw [if_pos rfl]
      refine bind_eq_error_iff.mpr (.inr ⟨_, mapError_eq_ok_iff.mpr hs, ?_⟩)
      refine bind_eq_error_iff.mpr (.inr ⟨_, mapError_eq_ok_iff.mpr hread, ?_⟩)
      rw [if_pos hname]
      exact mapError_eq_error_iff.mpr ⟨_, hlook, rfl⟩

/-! ## The files together -/

/-- A file of a project that configures nothing, so that the one after it is looked at. -/
def PassedOver (t : FileTree) (dir : Path) (name : Text) : Prop :=
  ∃ v, ofFile t (dir.within (.ofText name)) = .ok v ∧ v.truthy = false

/-- A file of a project with something wrong that is not reported, when it is looked at. -/
inductive UnfitProject (t : FileTree) (path : Path) : Escape → Prop
  | file {e : Escape} : Unfit t path e → UnfitProject t path e
  /-- What it configures is something, and no table. -/
  | untabled {v : Value} {e : Escape} : ofFile t path = .ok v → v.truthy = true →
      projectTable v = .error e → UnfitProject t path e

/-- The first file of a project that configures something, or is unfit, decides. -/
theorem firstTable_escapes_iff {names : List Text} :
    firstTable t dir names = .error (.escaped e) ↔
      ∃ front name back, names = front ++ name :: back ∧ (∀ n ∈ front, PassedOver t dir n) ∧
        UnfitProject t (dir.within (.ofText name)) e := by
  induction names with
  | nil => exact iff_of_false nofun (by simp)
  | cons name rest ih =>
    rw [firstTable, bind_eq_error_iff, exists_first_cons_iff, ← ih, ofFile_escapes_iff]
    constructor
    · rintro (h | ⟨v, hv, h⟩)
      · exact .inl (.file h)
      · split at h
        next htrue =>
          obtain ⟨d, hd, heq⟩ := mapError_eq_error_iff.mp (map_eq_error_iff.mp h)
          cases heq
          exact .inl (.untabled hv htrue hd)
        next hfalse => exact .inr ⟨⟨v, hv, eq_false_of_ne_true hfalse⟩, h⟩
    · rintro (hname | ⟨⟨v, hv, hfalse⟩, hrest⟩)
      · cases hname with
        | file h => exact .inl h
        | untabled hv htrue htable =>
          refine .inr ⟨_, hv, ?_⟩
          rw [if_pos htrue]
          exact map_eq_error_iff.mpr (mapError_eq_error_iff.mpr ⟨_, htable, rfl⟩)
      · refine .inr ⟨v, hv, ?_⟩
        rw [if_neg (ne_true_of_eq_false hfalse)]
        exact hrest

/-- What escapes from the files: from the user's, or behind it from one of the project's. -/
theorem load_escapes_iff : load t userFile dir = .error (.escaped e) ↔
    Unfit t userFile e ∨ (∃ v, ofFile t userFile = .ok v) ∧
      ∃ front name back, projectFiles = front ++ name :: back ∧
        (∀ n ∈ front, PassedOver t dir n) ∧ UnfitProject t (dir.within (.ofText name)) e := by
  rw [load, bind_eq_error_iff, ofFile_escapes_iff, ← firstTable_escapes_iff]
  refine or_congr_right ⟨?_, ?_⟩
  · rintro ⟨v, hv, h⟩
    refine ⟨⟨v, hv⟩, ?_⟩
    rcases bind_eq_error_iff.mp h with h | ⟨found, -, h⟩
    · exact h
    · cases found <;> cases h
  · rintro ⟨⟨v, hv⟩, h⟩
    exact ⟨v, hv, bind_eq_error_iff.mpr (.inl h)⟩

/-- Something else than a table stands for the profiles of a merged table when it does in the user's. -/
theorem get?_profiles_merged {user project : Dict} (h : project.Distinct) {v : Value}
    (hnot : ∀ d, v ≠ .dict d) :
    Dict.get? profilesKey (merged user project) = some v ↔ Dict.get? profilesKey user = some v := by
  unfold merged
  rw [Dict.get?_update (h.erase profilesKey), Dict.get?_erase_self, Option.none_or]
  split
  next ours p ps hours _ =>
    rw [Dict.get?_insert_text, if_pos rfl]
    refine iff_of_false (fun heq => hnot _ (Option.some.inj heq).symm) fun hget => ?_
    rw [hget] at hours
    exact hnot ours hours
  next => rfl

/-- Something else than a table stands for the profiles that are loaded when it does in the user's file.
What a project has there in its place is left out. -/
theorem get?_profiles_load {table : Dict} {u v : Value} (hu : ofFile t userFile = .ok u)
    (hload : load t userFile dir = .ok table) (hnot : ∀ d, v ≠ .dict d) :
    Dict.get? profilesKey table = some v ↔ Dict.get? profilesKey (u.entries?.getD []) = some v := by
  obtain ⟨u', hu', hload⟩ := bind_eq_ok_iff.mp hload
  cases hu.symm.trans hu'
  obtain ⟨found, hfound, hload⟩ := bind_eq_ok_iff.mp hload
  cases found with
  | none =>
    cases hload
    rfl
  | some project =>
    cases hload
    exact get?_profiles_merged (distinct_firstTable t dir projectFiles _ hfound _ rfl) hnot

/-! ## Layers -/

/-- Options are reported on, whatever they are. -/
theorem optionLayer_settles (options : List (Text × Value)) :
    optionLayer options ≠ .error (.escaped e) := by
  induction options with
  | nil => nofun
  | cons option rest ih =>
    obtain ⟨name, v⟩ := option
    rw [optionLayer]
    split
    next => nofun
    next =>
      intro h
      rcases bind_eq_error_iff.mp h with h | ⟨layer, -, h⟩
      · exact ih h
      · split at h <;> cases h

/-- A profile is looked for in what the table has for profiles, which is to be a table. -/
theorem profileLayer_escapes_iff {table : Dict} {profile : Option Text} :
    profileLayer table profile = .error (.escaped e) ↔
      e = .notTable ∧ (∃ name, profile = some name ∧ name ≠ []) ∧
        ∃ v, Dict.get? profilesKey table = some v ∧ ∀ d, v ≠ .dict d := by
  unfold profileLayer
  split
  next => exact iff_of_false nofun (by simp)
  next => exact iff_of_false nofun (by simp)
  next name hname =>
    split
    next profiles hprofiles =>
      refine iff_of_false (by split <;> nofun) ?_
      rintro ⟨-, -, v, hv, hnot⟩
      rw [hv] at hprofiles
      exact hnot profiles hprofiles
    next hnot =>
      constructor
      · rintro ⟨⟩
        refine ⟨rfl, ⟨name, rfl, hname⟩, ?_⟩
        cases hget : Dict.get? profilesKey table with
        | none =>
          rw [hget] at hnot
          exact absurd rfl (hnot [])
        | some v =>
          rw [hget] at hnot
          exact ⟨v, rfl, hnot⟩
      · rintro ⟨rfl, -⟩
        rfl

/-! ## Values -/

/-- A value that a setting cannot have. -/
def Refused : Setting → Value → Prop
  | .templateDir, v | .policy, v => Settings.symbols? v = none
  | .extensions, v => v.elements?.bind (List.mapM Settings.symbols?) = none
  | .maxDepth, v => v ≠ .null ∧ ∀ n, v = .int n → n < 1

/-- The words for a refused value of a setting. -/
def refusal : Setting → Text → ConfigError
  | .templateDir => .badTemplateDir
  | .extensions => .badExtensions
  | .policy => .badPolicy
  | .maxDepth => .badDepth

/-- The settings in the order in which their values are looked at. -/
def inspected : List Setting := [.maxDepth, .templateDir, .policy, .extensions]

/-- Looks at what a layer chooses for a setting. -/
def inspect (layer : Layer) : Setting → Except ConfigFailure Unit
  | .templateDir => (Settings.chosen Settings.readTemplateDir (layer .templateDir)
      (Symbols.ofText Settings.default.templateDir)).map fun _ => ()
  | .extensions => (Settings.chosen Settings.readExtensions (layer .extensions)
      (Settings.default.extensions.map Symbols.ofText)).map fun _ => ()
  | .policy => (Settings.chosen Settings.readPolicy (layer .policy)
      Settings.default.policy).map fun _ => ()
  | .maxDepth => (readDepth (layer .maxDepth)).map fun _ => ()

/-- Looking at a setting finds what the layer chooses for it, when the setting cannot have that. -/
theorem inspect_eq_error_iff {layer : Layer} {x : Setting} {f : ConfigFailure} :
    inspect layer x = .error f ↔
      ∃ v, layer x = some v ∧ Refused x v ∧ v.refused (refusal x) = f := by
  cases x with
  | templateDir =>
    rw [inspect, map_eq_error_iff]
    cases layer .templateDir with
    | none => exact iff_of_false nofun nofun
    | some v => cases v <;> simp [Settings.chosen, Settings.readTemplateDir, Refused, refusal,
        Settings.symbols?]
  | extensions =>
    rw [inspect, map_eq_error_iff]
    cases layer .extensions with
    | none => exact iff_of_false nofun nofun
    | some v =>
      simp only [Settings.chosen, Settings.readExtensions, Refused, refusal, Option.some.injEq,
        exists_eq_left']
      split
      next exts hexts => simp [hexts]
      next hnone => simp [hnone]
  | policy =>
    rw [inspect, map_eq_error_iff]
    cases layer .policy with
    | none => exact iff_of_false nofun nofun
    | some v => cases v <;> simp [Settings.chosen, Settings.readPolicy, Refused, refusal,
        Settings.symbols?]
  | maxDepth =>
    rw [inspect, map_eq_error_iff]
    cases layer .maxDepth with
    | none => exact iff_of_false nofun nofun
    | some v =>
      cases v with
      | int n =>
        by_cases hn : n < 1
        · simp [readDepth, Refused, refusal, hn]
        · simp [readDepth, Refused, hn]
      | _ => simp [readDepth, Refused, refusal]

/-- Looking at a setting is content with what the setting can have. -/
theorem inspect_eq_ok_iff {layer : Layer} {x : Setting} :
    (∃ u, inspect layer x = .ok u) ↔ ∀ v, layer x = some v → ¬ Refused x v := by
  constructor
  · rintro ⟨u, hu⟩ v hv hrefused
    rw [inspect_eq_error_iff.mpr ⟨v, hv, hrefused, rfl⟩] at hu
    cases hu
  · intro h
    cases hinspect : inspect layer x with
    | ok u => exact ⟨u, rfl⟩
    | error f =>
      obtain ⟨v, hv, hrefused, -⟩ := inspect_eq_error_iff.mp hinspect
      exact absurd hrefused (h v hv)

/-- A layer is read by checking the word for the policy and looking at one setting after the other. -/
theorem configured_eq_error_iff {layer : Layer} {f : ConfigFailure} :
    configured layer = .error f ↔ checkPolicy (layer .policy) = .error f ∨
      checkPolicy (layer .policy) = .ok () ∧ inspected.mapM (inspect layer) = .error f := by
  rw [configured, bind_eq_error_iff]
  refine or_congr_right ?_
  simp only [Settings.configured, inspected, inspect, List.mapM_cons, List.mapM_nil]
  generalize readDepth (layer .maxDepth) = depth
  generalize Settings.chosen Settings.readTemplateDir _ _ = dir
  generalize Settings.chosen Settings.readPolicy _ _ = policy
  generalize Settings.chosen Settings.readExtensions _ _ = extensions
  rw [Unique.exists_iff]
  refine and_congr_right fun _ => ?_
  -- Both sequences stop at the same one of the four, or at none.
  cases depth with
  | error => exact error_eq_error_iff
  | ok =>
    cases dir with
    | error => exact error_eq_error_iff
    | ok =>
      cases policy with
      | error => exact error_eq_error_iff
      | ok =>
        cases extensions with
        | error => exact error_eq_error_iff
        | ok => exact iff_of_false nofun nofun

/-- A layer chooses something that a setting cannot have, and nothing like it for a setting that is
looked at before. -/
def RefusedFirst (layer : Layer) (v : Value) : Prop :=
  ∃ front x back, inspected = front ++ x :: back ∧
    (∀ y ∈ front, ∀ w, layer y = some w → ¬ Refused y w) ∧ layer x = some v ∧ Refused x v

/-- The word for a policy is reported on, whatever it is. -/
theorem checkPolicy_settles (choice : Option Value) : checkPolicy choice ≠ .error (.escaped e) := by
  unfold checkPolicy
  split
  next => split <;> nofun
  next => nofun
  next => nofun

/-- The refusal of a value is reported, when the value can be written. -/
theorem refused_eq_escaped_iff {cause : Text → ConfigError} {v : Value} :
    v.refused cause = .escaped e ↔ v.written = none ∧ e = .badValue := by
  unfold Value.refused
  split
  next h => simp [h]
  next h => simp [h, eq_comm]

/-- Settings are read from what a layer chooses, or the first value that is refused is reported. A value
that cannot be written escapes. -/
theorem configured_escapes_iff {layer : Layer} : configured layer = .error (.escaped e) ↔
    checkPolicy (layer .policy) = .ok () ∧
      ∃ v, RefusedFirst layer v ∧ v.written = none ∧ e = .badValue := by
  rw [configured_eq_error_iff, or_iff_right (checkPolicy_settles _)]
  refine and_congr_right fun _ => ?_
  simp only [mapM_eq_error_iff, inspect_eq_error_iff, inspect_eq_ok_iff, refused_eq_escaped_iff]
  constructor
  · rintro ⟨front, x, back, hsplit, hfront, v, hv, hrefused, hwritten⟩
    exact ⟨v, ⟨front, x, back, hsplit, hfront, hv, hrefused⟩, hwritten⟩
  · rintro ⟨v, ⟨front, x, back, hsplit, hfront, hv, hrefused⟩, hwritten⟩
    exact ⟨front, x, back, hsplit, hfront, v, hv, hrefused, hwritten⟩

/-! ## The whole -/

/-- What is configured by the files of a user and a project, a profile and options. -/
def configuration (t : FileTree) (userFile dir : Path) (profile : Option Text)
    (options : List (Text × Value)) : Except ConfigFailure Configured := do
  configure (← load t userFile dir) profile options

/-- What a configuration meets that is not reported. -/
inductive Stumbles (t : FileTree) (userFile dir : Path) (profile : Option Text)
    (options : List (Text × Value)) : Escape → Prop
  /-- The user's file is unfit. -/
  | user {e : Escape} : Unfit t userFile e → Stumbles t userFile dir profile options e
  /-- The user's file is fine, and of the project's the first that counts is unfit. -/
  | project {u : Value} {front : List Text} {name : Text} {back : List Text} {e : Escape} :
      ofFile t userFile = .ok u → projectFiles = front ++ name :: back →
      (∀ n ∈ front, PassedOver t dir n) → UnfitProject t (dir.within (.ofText name)) e →
      Stumbles t userFile dir profile options e
  /-- A profile is asked for, and in the user's file something else stands in the place of the table of
  profiles. -/
  | profiles {u v : Value} {table : Dict} {name : Text} :
      ofFile t userFile = .ok u → load t userFile dir = .ok table → profile = some name → name ≠ [] →
      Dict.get? profilesKey (u.entries?.getD []) = some v → (∀ d, v ≠ .dict d) →
      Stumbles t userFile dir profile options .notTable
  /-- The first value that is refused cannot be written. -/
  | unwritable {table : Dict} {layer : Layer} {v : Value} : load t userFile dir = .ok table →
      layers table profile options = .ok layer → checkPolicy (layer .policy) = .ok () →
      RefusedFirst layer v → v.written = none → Stumbles t userFile dir profile options .badValue

/-- From a table, a profile and options escapes what is wrong with the table's profiles, or a refused
value that cannot be written. -/
theorem configure_escapes_iff {table : Dict} {profile : Option Text}
    {options : List (Text × Value)} :
    configure table profile options = .error (.escaped e) ↔
      profileLayer table profile = .error (.escaped e) ∨
        ∃ layer, layers table profile options = .ok layer ∧
          configured layer = .error (.escaped e) := by
  rw [configure, bind_eq_error_iff]
  refine or_congr_left ⟨fun h => ?_, fun h => bind_eq_error_iff.mpr (.inl h)⟩
  rcases bind_eq_error_iff.mp h with h | ⟨chosen, -, h⟩
  · exact h
  · rcases bind_eq_error_iff.mp h with h | ⟨given, -, h⟩
    · exact absurd h (optionLayer_settles options)
    · cases h

theorem configuration_eq_escaped_iff {profile : Option Text} {options : List (Text × Value)} :
    configuration t userFile dir profile options = .error (.escaped e) ↔
      Stumbles t userFile dir profile options e := by
  rw [configuration, bind_eq_error_iff, load_escapes_iff]
  constructor
  · rintro ((h | ⟨⟨u, hu⟩, front, name, back, hsplit, hfront, h⟩) | ⟨table, hload, h⟩)
    · exact .user h
    · exact .project hu hsplit hfront h
    · rcases configure_escapes_iff.mp h with h | ⟨layer, hlayer, h⟩
      · obtain ⟨rfl, ⟨name, hprofile, hname⟩, v, hv, hnot⟩ := profileLayer_escapes_iff.mp h
        obtain ⟨u, hu, -⟩ := bind_eq_ok_iff.mp hload
        exact .profiles hu hload hprofile hname ((get?_profiles_load hu hload hnot).mp hv) hnot
      · obtain ⟨hpolicy, v, hv, hwritten, rfl⟩ := configured_escapes_iff.mp h
        exact .unwritable hload hlayer hpolicy hv hwritten
  · rintro (h | ⟨hu, hsplit, hfront, h⟩ | ⟨hu, hload, hprofile, hname, hv, hnot⟩ |
      ⟨hload, hlayer, hpolicy, hv, hwritten⟩)
    · exact .inl (.inl h)
    · exact .inl (.inr ⟨⟨_, hu⟩, _, _, _, hsplit, hfront, h⟩)
    · refine .inr ⟨_, hload, configure_escapes_iff.mpr (.inl (profileLayer_escapes_iff.mpr ?_))⟩
      exact ⟨rfl, ⟨_, hprofile, hname⟩, _, (get?_profiles_load hu hload hnot).mpr hv, hnot⟩
    · refine .inr ⟨_, hload, configure_escapes_iff.mpr (.inr ⟨_, hlayer, ?_⟩)⟩
      exact configured_escapes_iff.mpr ⟨hpolicy, _, hv, hwritten, rfl⟩

/-- **What escapes from a configuration**, with every other one giving settings or a report. -/
theorem configuration_escapes_iff {profile : Option Text} {options : List (Text × Value)} :
    (∀ e, configuration t userFile dir profile options = .error (.escaped e) ↔
      Stumbles t userFile dir profile options e) ∧
    (((∃ c, configuration t userFile dir profile options = .ok c) ∨
        ∃ cause, configuration t userFile dir profile options = .error (.reported cause)) ↔
      ∀ e, ¬ Stumbles t userFile dir profile options e) := by
  refine ⟨fun e => configuration_eq_escaped_iff, settles_iff.trans ?_⟩
  exact forall_congr' fun e => not_congr configuration_eq_escaped_iff

/-! A user whose profiles are no table, and a project whose file is no text. -/

/-- A user, `u`, with a number in the place of the profiles, and two projects: `a` has a file of one byte
that begins no character, `b` has none. -/
def misfitTree : FileTree where
  items := [([['u']], .file (Text.encoded "profiles = 1".toList)), ([['a']], .directory),
    ([['a'], "lightbars.toml".toList], .file ⟨#[0xFF]⟩), ([['b']], .directory)]
  workingDirectory := []

/-- **Neither is reported**: for a profile the number is looked into, and the file is read as text. -/
theorem misfits_escape :
    configuration misfitTree (.ofText "/u".toList) (.ofText "/b".toList) (some "p".toList) [] =
      .error (.escaped .notTable) ∧
    configuration misfitTree (.ofText "/u".toList) (.ofText "/a".toList) none [] =
      .error (.escaped .undecodable) := by
  have huser : ofFile misfitTree (.ofText "/u".toList) =
      .ok (.dict [(.text profilesKey, .int 1)]) :=
    ofFile_of_text (s := "profiles = 1".toList) (by cbv) (by cbv) (eq_of_limit? (by decide +kernel))
      (by decide)
  constructor
  · have hnone : firstTable misfitTree (.ofText "/b".toList) projectFiles = .ok none :=
      firstTable_of_absent (by
        simp only [projectFiles, List.forall_mem_cons]
        exact ⟨by cbv, by cbv, by cbv, List.forall_mem_nil _⟩)
    have hload : load misfitTree (.ofText "/u".toList) (.ofText "/b".toList) =
        .ok [(.text profilesKey, .int 1)] :=
      bind_eq_ok_iff.mpr ⟨_, huser, bind_eq_ok_iff.mpr ⟨none, hnone, rfl⟩⟩
    have hnot : ∀ d, Value.int 1 ≠ .dict d := by
      intro d h
      cases h
    exact configuration_eq_escaped_iff.mpr (.profiles huser hload rfl (by decide) rfl hnot)
  · have hpassed : ∀ name ∈ [".lightbars.toml".toList],
        PassedOver misfitTree (.ofText "/a".toList) name :=
      List.forall_mem_singleton.mpr ⟨_, ofFile_of_absent (by cbv), rfl⟩
    refine configuration_eq_escaped_iff.mpr (.project huser rfl hpassed (.file (.undecodable ?_)))
    exact ⟨⟨#[0xFF]⟩, by cbv, by decide +kernel⟩

end Stencil.Config
