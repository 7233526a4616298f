import Stencil.Proofs.Config.Limits
import Stencil.Proofs.Files.Reading

/-!
# Two configuration files as one

The configuration of a user and that of a project make up one table (`load_merges`). Under each key it has
what the project has, or else what the user has. Only the profiles are put together one by one: a profile
that both have is the project's, and as a whole.

The project's table is that of the first of its files that says anything (`Project`). What the files after it
hold, and whether they can be read at all, makes no difference: the same table is loaded from any files that
read the same up to that one.

The law is of files that can be read and have tables where tables belong (`Says`). What becomes of others is
not asked here.
-/

namespace Stencil

open Value (Keyed)

namespace Dict

/-- The keys behind an update are the keys before and those of the update. -/
theorem key_of_mem_update {entries d : Dict} {e : Value × Value} (h : e ∈ update d entries) :
    (∃ f ∈ d, e.1 = f.1) ∨ ∃ f ∈ entries, e.1 = f.1 := by
  induction entries generalizing d with
  | nil => exact .inl ⟨e, h, rfl⟩
  | cons entry rest ih =>
    rcases ih h with ⟨f, hf, hkey⟩ | ⟨f, hf, hkey⟩
    · rcases key_of_mem_insert hf with hnew | ⟨g, hg, hold⟩
      · exact .inr ⟨entry, List.mem_cons_self, hkey.trans hnew⟩
      · exact .inl ⟨g, hg, hkey.trans hold⟩
    · exact .inr ⟨f, List.mem_cons_of_mem _ hf, hkey⟩

end Dict

namespace Config

variable {t : FileTree} {userFile dir path : Path}

/-! ## What files say -/

/-- The table that stands under a key, which is empty where the key is not there. -/
def tableAt? (key : Text) (table : Dict) : Option Dict :=
  match Dict.get? key table with
  | none => some []
  | some (.dict entries) => some entries
  | some _ => none

/-- The profiles of a table. -/
def profilesOf (table : Dict) : Dict := (tableAt? profilesKey table).getD []

/-- What a configuration file says: nothing when it is not there, the table that it is read to when it is of
its own, and of a shared file the table `lightbars` in the table `tool`. -/
inductive Says (t : FileTree) (path : Path) : Dict → Prop
  | nothing : t.isFile path.toText = .ok false → Says t path []
  | own {s : Text} {table : Dict} : t.readText path.toText = .ok s → Toml.read s = .ok (.dict table) →
      path.name ≠ sharedFile → Says t path table
  | shared {s : Text} {table tools own : Dict} : t.readText path.toText = .ok s →
      Toml.read s = .ok (.dict table) → path.name = sharedFile →
      tableAt? "tool" table = some tools → tableAt? "lightbars" tools = some own →
      Says t path own

/-- What a project says: the table of the first of its files that says anything, which is the last one to be
looked at. -/
inductive Project (t : FileTree) (dir : Path) : (looked : List Text) → Dict → Prop
  | silent : (∀ name ∈ projectFiles, Says t (dir.within (.ofText name)) []) →
      Project t dir projectFiles []
  | speaking {front back : List Text} {name : Text} {table : Dict} :
      projectFiles = front ++ name :: back → (∀ n ∈ front, Says t (dir.within (.ofText n)) []) →
      Says t (dir.within (.ofText name)) table → table ≠ [] → Project t dir (front ++ [name]) table

/-- A table stands under a key, or the key is not there. -/
theorem get?_of_tableAt? {key : Text} {table inner : Dict} (h : tableAt? key table = some inner) :
    (Dict.get? key table = none ∧ inner = []) ∨ Dict.get? key table = some (.dict inner) := by
  unfold tableAt? at h
  split at h
  next hget =>
    cases h
    exact .inl ⟨hget, rfl⟩
  next hget =>
    cases h
    exact .inr hget
  next => cases h

theorem getD_of_tableAt? {key : Text} {table inner : Dict} (h : tableAt? key table = some inner) :
    (Dict.get? key table).getD (.dict []) = .dict inner := by
  rcases get?_of_tableAt? h with ⟨hnone, rfl⟩ | hsome
  · rw [hnone, Option.getD_none]
  · rw [hsome, Option.getD_some]

/-- A table that stands in another repeats no key either. -/
theorem keyed_of_tableAt? {key : Text} {table inner : Dict} (htable : Keyed (.dict table))
    (h : tableAt? key table = some inner) : Keyed (.dict inner) :=
  getD_of_tableAt? h ▸ htable.getD key

/-- What a file says is what it configures. -/
theorem Says.ofFile {table : Dict} (h : Says t path table) : ofFile t path = .ok (.dict table) := by
  cases h with
  | nothing hfile => exact ofFile_of_absent hfile
  | own htext hread hname => exact ofFile_of_text (FileTree.isFile_of_readText htext) htext hread hname
  | shared htext hread hname htools hsection =>
    unfold Config.ofFile
    refine bind_eq_ok_iff.mpr ⟨true, mapError_eq_ok_iff.mpr (FileTree.isFile_of_readText htext), ?_⟩
    rw [if_pos rfl]
    refine bind_eq_ok_iff.mpr ⟨_, mapError_eq_ok_iff.mpr htext, ?_⟩
    refine bind_eq_ok_iff.mpr ⟨_, mapError_eq_ok_iff.mpr hread, ?_⟩
    rw [if_pos hname, sharedTables]
    refine mapError_eq_ok_iff.mpr ?_
    rw [lookInside, getD_of_tableAt? htools, lookInside, getD_of_tableAt? hsection, lookInside]

/-- Files that say nothing are passed over. -/
theorem firstTable_append {front : List Text}
    (hfront : ∀ n ∈ front, Says t (dir.within (.ofText n)) []) (rest : List Text) :
    firstTable t dir (front ++ rest) = firstTable t dir rest := by
  induction front with
  | nil => rfl
  | cons name front ih =>
    obtain ⟨hname, hfront⟩ := List.forall_mem_cons.mp hfront
    rw [List.cons_append, firstTable_of_empty hname.ofFile, ih hfront]

/-- What a user and a project say is loaded with the project's on the user's. -/
theorem load_of_project {user project : Dict} {looked : List Text} (huser : Says t userFile user)
    (hproject : Project t dir looked project) : load t userFile dir = .ok (merged user project) := by
  cases hproject with
  | silent hsilent =>
    have hnone : firstTable t dir projectFiles = .ok none := by
      have happend := firstTable_append hsilent []
      rw [List.append_nil] at happend
      exact happend
    have hmerged : merged user [] = user := by
      unfold merged
      split
      next hnil => cases hnil
      next => rfl
    rw [load, huser.ofFile, hmerged]
    show (firstTable t dir projectFiles >>= _) = _
    rw [hnone]
    rfl
  | speaking hsplit hfront hsays hne =>
    obtain ⟨e, rest, rfl⟩ := List.exists_cons_of_ne_nil hne
    refine load_eq_merged huser.ofFile ?_
    rw [hsplit, firstTable_append hfront, firstTable_of_entries hsays.ofFile]

/-! ## Files that read the same -/

/-- Two trees in which a file is there in both or in neither, and reads the same. -/
def Agree (t other : FileTree) (path : Path) : Prop :=
  other.isFile path.toText = t.isFile path.toText ∧
    other.readText path.toText = t.readText path.toText

/-- A file that is read in both trees reads the same when the texts are. -/
theorem Agree.of_readText {other : FileTree} {s : Text} (h : t.readText path.toText = .ok s)
    (hother : other.readText path.toText = .ok s) : Agree t other path :=
  ⟨(FileTree.isFile_of_readText hother).trans (FileTree.isFile_of_readText h).symm,
    hother.trans h.symm⟩

theorem Says.of_agree {other : FileTree} {table : Dict} (h : Says t path table)
    (hagree : Agree t other path) : Says other path table := by
  obtain ⟨hfile, htext⟩ := hagree
  cases h with
  | nothing hnone => exact .nothing (hfile.trans hnone)
  | own hs hread hname => exact .own (htext.trans hs) hread hname
  | shared hs hread hname htools hsection =>
    exact .shared (htext.trans hs) hread hname htools hsection

/-- A project says the same where the files that are looked at read the same. -/
theorem Project.of_agree {other : FileTree} {table : Dict} {looked : List Text}
    (h : Project t dir looked table)
    (hagree : ∀ name ∈ looked, Agree t other (dir.within (.ofText name))) :
    Project other dir looked table := by
  cases h with
  | silent hsilent => exact .silent fun name hname => (hsilent name hname).of_agree (hagree name hname)
  | @speaking _ _ name _ hsplit hfront hsays hne =>
    obtain ⟨hagreeFront, hagreeLast⟩ := List.forall_mem_append.mp hagree
    refine .speaking hsplit (fun n hn => (hfront n hn).of_agree (hagreeFront n hn)) ?_ hne
    exact hsays.of_agree (hagreeLast name List.mem_cons_self)

/-! ## Two tables -/

/-- A table with another laid on it, of which the profiles are laid on one by one. -/
structure Merges (user project table : Dict) : Prop where
  /-- No key stands twice. -/
  distinct : table.Distinct
  /-- There are no other keys than those of the two. -/
  keys : ∀ e ∈ table, ∃ f ∈ user ++ project, e.1 = f.1
  /-- Under a key stands what the project has there, or else what the user has. -/
  entry : ∀ key ≠ profilesKey,
    Dict.get? key table = (Dict.get? key project).or (Dict.get? key user)
  /-- What stands for the profiles is a table. -/
  tabled : ∃ profiles, tableAt? profilesKey table = some profiles
  /-- A profile is the project's as a whole, or else the user's. -/
  profile : ∀ name, Dict.get? name (profilesOf table) =
    (Dict.get? name (profilesOf project)).or (Dict.get? name (profilesOf user))

/-- The profiles of the merged table. -/
theorem tableAt?_merged {user project ours theirs : Dict} (hproject : project.Distinct)
    (hours : tableAt? profilesKey project = some ours)
    (htheirs : tableAt? profilesKey user = some theirs) :
    tableAt? profilesKey (merged user project) = some (theirs.update ours) := by
  have hget (d : Dict) : Dict.get? profilesKey (Dict.update d (Dict.erase profilesKey project)) =
      Dict.get? profilesKey d := by
    rw [Dict.get?_update (hproject.erase profilesKey), Dict.get?_erase_self, Option.none_or]
  unfold merged
  rw [getD_of_tableAt? htheirs, tableAt?, hget]
  -- Profiles are put together when the project has any; without them the user's are left alone.
  rcases get?_of_tableAt? hours with ⟨hnone, rfl⟩ | hsome
  · rw [hnone]
    exact htheirs
  · rw [hsome]
    cases ours with
    | nil => exact htheirs
    | cons p ps =>
      dsimp only
      rw [Dict.get?_insert_text, if_pos rfl]

/-- **The merged table is the project's on the user's.** -/
theorem merges_merged {user project ours theirs : Dict} (huser : Keyed (.dict user))
    (hproject : Keyed (.dict project)) (hours : tableAt? profilesKey project = some ours)
    (htheirs : tableAt? profilesKey user = some theirs) :
    Merges user project (merged user project) where
  distinct := (keyed_merged huser hproject).distinct
  keys e he := by
    unfold merged at he
    rcases Dict.key_of_mem_update he with ⟨f, hf, hkey⟩ | ⟨f, hf, hkey⟩
    · split at hf
      next hprofiles =>
        rcases Dict.key_of_mem_insert hf with hnew | ⟨g, hg, hold⟩
        · exact ⟨_, List.mem_append_right _ (Dict.mem_of_get? hprofiles), hkey.trans hnew⟩
        · exact ⟨g, List.mem_append_left _ hg, hkey.trans hold⟩
      next => exact ⟨f, List.mem_append_left _ hf, hkey⟩
    · exact ⟨f, List.mem_append_right _ (List.mem_filter.mp hf).1, hkey⟩
  entry key hkey := get?_merged hproject.distinct hkey
  tabled := ⟨_, tableAt?_merged hproject.distinct hours htheirs⟩
  profile name := by
    rw [profilesOf, profilesOf, profilesOf, tableAt?_merged hproject.distinct hours htheirs, hours,
      htheirs]
    exact Dict.get?_update (keyed_of_tableAt? hproject hours).distinct name theirs

/-! ## The whole -/

/-- **The configurations of a user and a project are loaded as one table.** It is the project's on the user's,
key by key and profile by profile. The same table is loaded wherever the user's file and those files of the
project that are looked at read the same, whatever becomes of the project's files after them. -/
theorem load_merges {user project ours theirs : Dict} {looked : List Text}
    (huser : Says t userFile user) (hproject : Project t dir looked project)
    (hours : tableAt? profilesKey project = some ours)
    (htheirs : tableAt? profilesKey user = some theirs) :
    ∃ table, load t userFile dir = .ok table ∧ Merges user project table ∧
      ∀ other : FileTree, Agree t other userFile →
        (∀ name ∈ looked, Agree t other (dir.within (.ofText name))) →
          load other userFile dir = .ok table := by
  have hkeyed : Keyed (.dict project) := by
    cases hproject with
    | silent => exact .empty
    | speaking _ _ hsays _ => exact keyed_ofFile t _ _ hsays.ofFile
  have huserKeyed : Keyed (.dict user) := keyed_ofFile t _ _ huser.ofFile
  refine ⟨_, load_of_project huser hproject, merges_merged huserKeyed hkeyed hours htheirs, ?_⟩
  intro other hagree hagreeLooked
  exact load_of_project (huser.of_agree hagree) (hproject.of_agree hagreeLooked)

/-! A project with profiles of its own, and files of it that nobody looks at. -/

/-- A profile that sets one thing, under a key. -/
def profileNamed (name key : Text) (n : Int) : Value × Value := (.text name, .dict [(.text key, .int n)])

/-- A table with a depth limit and profiles. -/
def profiled (limit : Int) (profiles : Dict) : Dict :=
  [(.text depthKey, .int limit), (.text profilesKey, .dict profiles)]

/-- The depth limit and the two profiles of a table that holds nothing else. -/
def profiled? : Except DocumentError Value → Option (Int × (Text × Text × Int) × Text × Text × Int)
  | .ok (.dict [(.text key, .int limit), (.text profiles, .dict [
      (.text x, .dict [(.text xKey, .int m)]), (.text y, .dict [(.text yKey, .int n)])])]) =>
    if key = depthKey ∧ profiles = profilesKey then some (limit, (x, xKey, m), y, yKey, n) else none
  | _ => none

theorem eq_of_profiled? {v : Except DocumentError Value} {limit m n : Int} {x xKey y yKey : Text}
    (h : profiled? v = some (limit, (x, xKey, m), y, yKey, n)) :
    v = .ok (.dict (profiled limit [profileNamed x xKey m, profileNamed y yKey n])) := by
  unfold profiled? at h
  split at h
  next =>
    split at h
    next hkeys =>
      obtain ⟨rfl, rfl⟩ := hkeys
      cases h
      rfl
    next => cases h
  next => cases h

/-- What the user of the trees below has written. -/
def userText : Text :=
  "max_depth = 5\n[profiles.x]\nmax_depth = 1\n[profiles.y]\nmax_depth = 2".toList

/-- What the project of the trees below has written. -/
def projectText : Text :=
  "max_depth = 9\n[profiles.y]\nmax_nesting_depth = 3\n[profiles.z]\nmax_depth = 4".toList

/-- A user `u` with a text, and a project `a` with a text and with bytes that are looked at after it. -/
def layeredTree (user project : Text) (shared : ByteArray) : FileTree where
  items := [([['u']], .file (Text.encoded user)), ([['a']], .directory),
    ([['a'], "lightbars.toml".toList], .file (Text.encoded project)),
    ([['a'], "pyproject.toml".toList], .file shared)]
  workingDirectory := []

/-- The user's text is read whatever the bytes are. -/
theorem readText_layeredTree_user (user project : Text) (shared : ByteArray) :
    (layeredTree user project shared).readText (Path.ofText "/u".toList).toText =
      .ok user.unixLines := by
  refine FileTree.readText_of_stat (?_ : FileTree.stat _ _ = .ok (.file (Text.encoded user)))
  cbv

/-- So is the project's. -/
theorem readText_layeredTree_project (user project : Text) (shared : ByteArray) :
    (layeredTree user project shared).readText
      ((Path.ofText "/a".toList).within (.ofText "lightbars.toml".toList)).toText =
        .ok project.unixLines := by
  refine FileTree.readText_of_stat (?_ : FileTree.stat _ _ = .ok (.file (Text.encoded project)))
  cbv

/-- The file that is looked for first is not there. -/
theorem isFile_layeredTree_hidden (user project : Text) (shared : ByteArray) :
    (layeredTree user project shared).isFile
      ((Path.ofText "/a".toList).within (.ofText ".lightbars.toml".toList)).toText = .ok false := by
  cbv

/-- **The profile of a project replaces the user's of the same name as a whole**, and the bytes of a file
that is not looked at may be anything. -/
theorem load_merges_layeredTree :
    ∃ table,
      (∀ shared, load (layeredTree userText projectText shared) (.ofText "/u".toList)
        (.ofText "/a".toList) = .ok table) ∧
      Dict.get? depthKey table = some (.int 9) ∧
      Dict.get? "x".toList (profilesOf table) = some (profileNamed "x" depthKey 1).2 ∧
      Dict.get? "y".toList (profilesOf table) = some (profileNamed "y" Setting.maxDepth.name 3).2 := by
  have huser : Says (layeredTree userText projectText .empty) (.ofText "/u".toList)
      (profiled 5 [profileNamed "x" depthKey 1, profileNamed "y" depthKey 2]) :=
    .own (readText_layeredTree_user ..) (eq_of_profiled? (by decide +kernel)) (by decide)
  have hproject : Project (layeredTree userText projectText .empty) (.ofText "/a".toList)
      [".lightbars.toml".toList, "lightbars.toml".toList]
      (profiled 9 [profileNamed "y" Setting.maxDepth.name 3, profileNamed "z" depthKey 4]) := by
    have hsplit : projectFiles =
        [".lightbars.toml".toList] ++ "lightbars.toml".toList :: ["pyproject.toml".toList] := rfl
    refine .speaking hsplit ?_ ?_ (List.cons_ne_nil _ _)
    · exact List.forall_mem_singleton.mpr (.nothing (isFile_layeredTree_hidden ..))
    · exact .own (readText_layeredTree_project ..) (eq_of_profiled? (by decide +kernel)) (by decide)
  obtain ⟨table, -, hmerges, hother⟩ := load_merges huser hproject rfl rfl
  refine ⟨table, fun shared => hother _ ?_ ?_, ?_, ?_, ?_⟩
  · exact .of_readText (readText_layeredTree_user ..) (readText_layeredTree_user ..)
  · refine List.forall_mem_cons.mpr ⟨?_, List.forall_mem_singleton.mpr ?_⟩
    · exact ⟨by cbv, by cbv⟩
    · exact .of_readText (readText_layeredTree_project ..) (readText_layeredTree_project ..)
  · rw [hmerges.entry _ (by decide)]
    rfl
  · rw [hmerges.profile]
    rfl
  · rw [hmerges.profile]
    rfl

end Config

end Stencil
