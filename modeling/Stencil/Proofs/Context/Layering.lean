import Mathlib
import Stencil.Proofs.Formats.Documents

/-!
# Which value a key has in a context

In a context every key has the value that it was given last, and stands where it occurred first
(`build_layered`). The files come before the variables. A key has one value in the table of a file,
because a table repeats no key (`distinct_ofFile`); among the variables it may be repeated, and what
counts is the key without the blanks around it.

The proof sees the context in two ways. For the value of a key it is the tables laid on each other, and
the last of them that has the key decides (`Dict.find?_foldl_update`). For the order of the keys it is all
entries of all files and variables in a row (`foldl_update_eq`), whose keys are left where they occur
first.

A context is refused for the first thing that is wrong with it: for a file, or else for a variable
(`FirstFault`).
-/

namespace Stencil

theorem Text.cut_eq (separator : Char) (s : Text) :
    Text.cut separator s = if separator ∈ s then
      some (s.takeWhile (· != separator), (s.dropWhile (· != separator)).drop 1) else none := by
  induction s with
  | nil => rfl
  | cons c s ih =>
    rw [cut]
    split
    next hc => simp [hc]
    next hc =>
      rw [ih]
      have hin : separator ∈ c :: s ↔ separator ∈ s := by
        rw [List.mem_cons]
        exact or_iff_right fun h => hc h.symm
      rw [apply_ite (Option.map _)]
      simp only [hin]
      refine if_congr Iff.rfl ?_ rfl
      simp [hc]

/-- Nothing is left of a text without blanks when it is blank. -/
theorem Text.stripped_eq_nil_iff {s : Text} : s.stripped = [] ↔ ∀ c ∈ s, isBlank c = true := by
  rw [stripped, trimmed, List.reverse_eq_nil_iff, List.dropWhile_eq_nil_iff]
  simp only [List.mem_reverse]
  constructor
  · intro h c hc
    rw [← List.takeWhile_append_dropWhile (p := isBlank) (l := s)] at hc
    rcases List.mem_append.mp hc with hfront | hback
    · exact List.mem_takeWhile_imp hfront
    · exact h c hback
  · exact fun h c hc => h c ((List.dropWhile_sublist _).mem hc)

namespace Context

/-! ## Variables -/

/-- What stands before the first equals sign of a variable. -/
def beforeSign (v : Text) : Text := v.takeWhile (· != '=')

/-- The key of a variable: what stands before the first equals sign, without blanks around it. -/
def keyOf (v : Text) : Text := (beforeSign v).stripped

/-- The value of a variable: all that stands behind the first equals sign. -/
def valueOf (v : Text) : Text := (v.dropWhile (· != '=')).drop 1

/-- A variable with an equals sign, and with a key that is not blank. -/
structure Usable (v : Text) : Prop where
  sign : '=' ∈ v
  key : ¬ ∀ c ∈ beforeSign v, isBlank c = true

/-- What is wrong with a variable that cannot be used. -/
def faultOf (v : Text) : ContextError := if '=' ∈ v then .emptyKey v else .noValue v

theorem ofVariable_of_usable {v : Text} (h : Usable v) :
    ofVariable v = .ok (keyOf v, valueOf v) := by
  have hkey : keyOf v ≠ [] := fun hnil => h.key (Text.stripped_eq_nil_iff.mp hnil)
  rw [ofVariable, Text.cut_eq, if_pos h.sign]
  dsimp only
  split
  next hnil => exact absurd hnil hkey
  next => rfl

theorem ofVariable_of_not_usable {v : Text} (h : ¬ Usable v) : ofVariable v = .error (faultOf v) := by
  rw [ofVariable, Text.cut_eq, faultOf]
  by_cases hsign : '=' ∈ v
  · have hkey : keyOf v = [] :=
      Text.stripped_eq_nil_iff.mpr (not_not.mp fun hkey => h ⟨hsign, hkey⟩)
    rw [if_pos hsign, if_pos hsign]
    dsimp only
    split
    next => rfl
    next hother => exact absurd hkey hother
  · rw [if_neg hsign, if_neg hsign]

theorem exists_ofVariable_iff {v : Text} : (∃ pair, ofVariable v = .ok pair) ↔ Usable v := by
  refine ⟨fun ⟨pair, hpair⟩ => not_not.mp fun hv => ?_, fun hv => ⟨_, ofVariable_of_usable hv⟩⟩
  cases (ofVariable_of_not_usable hv).symm.trans hpair

theorem ofVariable_eq_error_iff {v : Text} {e : ContextError} :
    ofVariable v = .error e ↔ ¬ Usable v ∧ faultOf v = e := by
  by_cases hv : Usable v
  · rw [ofVariable_of_usable hv]
    exact iff_of_false nofun fun h => h.1 hv
  · rw [ofVariable_of_not_usable hv, Except.error.injEq, and_iff_right hv]

/-- The entry that a variable gives. -/
def entryOf (v : Text) : Value × Value := (.text (keyOf v), .text (valueOf v))

/-- Variables are refused for the first one that cannot be used. -/
theorem ofVariables_eq_error_iff {vars : List Text} {e : ContextError} :
    ofVariables vars = .error e ↔ ∃ front v back, vars = front ++ v :: back ∧
      (∀ w ∈ front, Usable w) ∧ ¬ Usable v ∧ faultOf v = e := by
  rw [ofVariables, bind_eq_error_iff]
  refine (or_iff_left ?_).trans ?_
  · rintro ⟨_, _, h⟩
    cases h
  · rw [mapM_eq_error_iff]
    simp only [exists_ofVariable_iff, ofVariable_eq_error_iff]

/-- Variables that can be used give their entries, one by one. -/
theorem ofVariables_eq_ok_iff {vars : List Text} {d : Dict} :
    ofVariables vars = .ok d ↔
      (∀ v ∈ vars, Usable v) ∧ Dict.ofEntries (vars.map entryOf) = d := by
  rw [ofVariables, bind_eq_ok_iff]
  by_cases hvars : ∀ v ∈ vars, Usable v
  · have hpairs : vars.mapM ofVariable = .ok (vars.map fun v => (keyOf v, valueOf v)) := by
      refine mapM_eq_ok_iff.mpr ?_
      rw [List.forall₂_map_right_iff, List.forall₂_same]
      exact fun v hv => ofVariable_of_usable (hvars v hv)
    rw [hpairs, and_iff_right hvars]
    constructor
    · rintro ⟨_, ⟨⟩, h⟩
      rw [List.map_map] at h
      exact Except.ok.inj h
    · rintro rfl
      refine ⟨_, rfl, ?_⟩
      rw [List.map_map]
      rfl
  · refine iff_of_false ?_ fun h => hvars h.1
    rintro ⟨pairs, hpairs, -⟩
    exact hvars fun v hv => exists_ofVariable_iff.mp (exists_mapM_eq_ok_iff.mp ⟨pairs, hpairs⟩ v hv)

/-! ## The first fault -/

/-- What a context is refused for: the first file that gives no table, or else the first variable that
cannot be used. -/
inductive FirstFault (t : FileTree) (files : List Path) (vars : List Text) : Failure ContextError → Prop
  | file {front : List Path} {path : Path} {back : List Path} {e : Failure ContextError} :
      files = front ++ path :: back → (∀ p ∈ front, ∃ table, ofFile t p = .ok table) →
      ofFile t path = .error e → FirstFault t files vars e
  | variable {front : List Text} {v : Text} {back : List Text} :
      (∀ p ∈ files, ∃ table, ofFile t p = .ok table) → vars = front ++ v :: back →
      (∀ w ∈ front, Usable w) → ¬ Usable v → FirstFault t files vars (.reported (faultOf v))

variable {t : FileTree} {files : List Path} {vars : List Text}

/-- **A context is refused for the first thing that is wrong with it.** -/
theorem build_eq_error_iff {e : Failure ContextError} :
    build t files vars = .error e ↔ FirstFault t files vars e := by
  rw [build, bind_eq_error_iff, mapM_eq_error_iff]
  constructor
  · rintro (⟨front, path, back, hsplit, hfront, hpath⟩ | ⟨tables, htables, h⟩)
    · exact .file hsplit hfront hpath
    · rcases bind_eq_error_iff.mp h with h | ⟨given, -, h⟩
      · obtain ⟨cause, hcause, rfl⟩ := mapError_eq_error_iff.mp h
        obtain ⟨front, v, back, hsplit, hfront, hv, rfl⟩ := ofVariables_eq_error_iff.mp hcause
        exact .variable (exists_mapM_eq_ok_iff.mp ⟨tables, htables⟩) hsplit hfront hv
      · cases h
  · rintro (⟨hsplit, hfront, hpath⟩ | ⟨hfiles, hsplit, hfront, hv⟩)
    · exact .inl ⟨_, _, _, hsplit, hfront, hpath⟩
    · obtain ⟨tables, htables⟩ := exists_mapM_eq_ok_iff.mpr hfiles
      refine .inr ⟨tables, htables, bind_eq_error_iff.mpr (.inl ?_)⟩
      refine mapError_eq_error_iff.mpr ⟨_, ?_, rfl⟩
      exact ofVariables_eq_error_iff.mpr ⟨_, _, _, hsplit, hfront, hv, rfl⟩

/-- The tables and the entries of the variables, laid on each other. -/
def layers (tables : List Dict) (vars : List Text) : Dict :=
  (tables ++ [Dict.ofEntries (vars.map entryOf)]).foldl Dict.update []

theorem build_eq_ok_iff {tables : List Dict} {c : Dict}
    (h : List.Forall₂ (fun path table => ofFile t path = .ok table) files tables) :
    build t files vars = .ok c ↔ (∀ v ∈ vars, Usable v) ∧ layers tables vars = c := by
  rw [build, mapM_eq_ok_iff.mpr h]
  show (do
    let given ← (ofVariables vars).mapError Failure.reported
    return (tables ++ [given]).foldl Dict.update []) = .ok c ↔ _
  rw [bind_eq_ok_iff]
  simp only [mapError_eq_ok_iff, ofVariables_eq_ok_iff]
  constructor
  · rintro ⟨_, ⟨hvars, rfl⟩, h⟩
    exact ⟨hvars, Except.ok.inj h⟩
  · rintro ⟨hvars, rfl⟩
    exact ⟨_, ⟨hvars, rfl⟩, rfl⟩

/-! ## Values and places -/

/-- The value that a key was given last: by the last variable with the key, or else by the last table that
has it. -/
inductive Holds (tables : List Dict) (vars : List Text) (key value : Value) : Prop
  | variable {front : List Text} {v : Text} {back : List Text} :
      vars = front ++ v :: back → key = .text (keyOf v) → (∀ w ∈ back, key ≠ .text (keyOf w)) →
      value = .text (valueOf v) → Holds tables vars key value
  | file {front : List Dict} {table : Dict} {back : List Dict} :
      (∀ v ∈ vars, key ≠ .text (keyOf v)) → tables = front ++ table :: back →
      table.find? key = some value → (∀ later ∈ back, later.find? key = none) →
      Holds tables vars key value

/-- A context that is layered from tables and variables. -/
structure Layered (tables : List Dict) (vars : List Text) (c : Dict) : Prop where
  /-- A key has the value that it was given last. -/
  value : ∀ key value, c.find? key = some value ↔ Holds tables vars key value
  /-- A key stands where it occurs first, and once. -/
  keys : Dict.keys c = Dict.firsts (tables.flatMap Dict.keys ++ vars.map fun v => .text (keyOf v))
  distinct : c.Distinct
  /-- A key that is not even the same as itself has all values that it is given. -/
  unlike : ∀ key value, key.sameKey key = false →
    ((key, value) ∈ c ↔ ∃ table ∈ tables, (key, value) ∈ table)

/-- The last element of a list for which there is something. -/
theorem findSome?_reverse_eq_some_iff {α β : Type} {f : α → Option β} {as : List α} {b : β} :
    as.reverse.findSome? f = some b ↔
      ∃ front a back, as = front ++ a :: back ∧ f a = some b ∧ ∀ c ∈ back, f c = none := by
  rw [List.findSome?_eq_some_iff]
  constructor
  · rintro ⟨back, a, front, hsplit, ha, hback⟩
    refine ⟨front.reverse, a, back.reverse, ?_, ha, fun c hc => hback c (List.mem_reverse.mp hc)⟩
    rw [← List.reverse_reverse as, hsplit]
    simp
  · rintro ⟨front, a, back, rfl, ha, hback⟩
    refine ⟨back.reverse, a, front.reverse, ?_, ha, fun c hc => hback c (List.mem_reverse.mp hc)⟩
    simp

/-- What a key finds among the variables. -/
theorem find?_ofEntries_entryOf (key : Value) (vars : List Text) :
    Dict.find? key (Dict.ofEntries (vars.map entryOf)) =
      vars.reverse.findSome? fun v =>
        if (Value.text (keyOf v)).sameKey key then some (.text (valueOf v)) else none := by
  rw [Dict.ofEntries, Dict.find?_update, ← List.map_reverse]
  show (Dict.find? key (vars.reverse.map entryOf)).or none = _
  rw [Option.or_none]
  induction vars.reverse with
  | nil => rfl
  | cons v vs ih =>
    rw [List.map_cons, List.findSome?_cons, entryOf, Dict.find?_cons, ih]
    split <;> rfl

/-- What a key finds in a context. -/
theorem find?_layers {tables : List Dict} (h : ∀ table ∈ tables, table.Distinct) (key : Value) :
    (layers tables vars).find? key =
      (vars.reverse.findSome? fun v =>
        if (Value.text (keyOf v)).sameKey key then some (.text (valueOf v)) else none).or
      (tables.reverse.findSome? (Dict.find? key)) := by
  have hall : ∀ table ∈ tables ++ [Dict.ofEntries (vars.map entryOf)], table.Distinct := by
    refine List.forall_mem_append.mpr ⟨h, List.forall_mem_singleton.mpr ?_⟩
    exact Dict.Distinct.update .nil _
  rw [layers, Dict.find?_foldl_update hall, List.reverse_append, List.reverse_singleton,
    List.singleton_append, List.findSome?_cons, find?_ofEntries_entryOf]
  show Option.or _ none = _
  rw [Option.or_none]
  split
  next h => rw [h]; rfl
  next h => rw [h]; rfl

/-- Tables laid on each other are their entries in a row. -/
theorem foldl_update_eq (tables : List Dict) (d : Dict) :
    tables.foldl Dict.update d = Dict.update d tables.flatten :=
  List.foldl_flatten.symm

theorem layers_eq (tables : List Dict) :
    layers tables vars =
      Dict.update (Dict.ofEntries tables.flatten) (Dict.ofEntries (vars.map entryOf)) := by
  rw [layers, List.foldl_append, foldl_update_eq tables]
  rfl

/-- A context is layered. -/
theorem layered_layers {tables : List Dict} (h : ∀ table ∈ tables, table.Distinct) :
    Layered tables vars (layers tables vars) where
  value key value := by
    rw [find?_layers h, Option.or_eq_some_iff, findSome?_reverse_eq_some_iff,
      findSome?_reverse_eq_some_iff, List.findSome?_eq_none_iff]
    simp only [List.mem_reverse, ite_eq_right_iff, reduceCtorEq, imp_false, Value.text_sameKey]
    constructor
    · rintro (⟨front, v, back, hsplit, hv, hback⟩ | ⟨hvars, front, table, back, hsplit, htable, hback⟩)
      · obtain ⟨hkey, hvalue⟩ := Option.ite_none_right_eq_some.mp hv
        exact .variable hsplit (Value.text_sameKey.mp hkey) hback (Option.some.inj hvalue).symm
      · exact .file hvars hsplit htable hback
    · rintro (⟨hsplit, hkey, hback, hvalue⟩ | ⟨hvars, hsplit, htable, hback⟩)
      · refine .inl ⟨_, _, _, hsplit, ?_, hback⟩
        rw [if_pos (Value.text_sameKey.mpr hkey), hvalue]
      · exact .inr ⟨hvars, _, _, _, hsplit, htable, hback⟩
  keys := by
    have happend : Dict.update (Dict.ofEntries tables.flatten) (vars.map entryOf) =
        Dict.ofEntries (tables.flatten ++ vars.map entryOf) := (List.foldl_append ..).symm
    rw [layers_eq, Dict.keys_update_ofEntries, happend, Dict.keys_ofEntries, Dict.keys,
      List.map_append, List.map_flatten, List.map_map, ← List.flatMap_def]
    rfl
  distinct := by
    rw [layers_eq]
    exact (Dict.Distinct.update .nil _).update _
  unlike key value hunlike := by
    rw [layers_eq, Dict.mem_update_of_unlike hunlike, Dict.ofEntries, Dict.ofEntries,
      Dict.mem_update_of_unlike hunlike, Dict.mem_update_of_unlike hunlike]
    have hvars : (key, value) ∉ vars.map entryOf := by
      intro hmem
      obtain ⟨v, -, hv⟩ := List.mem_map.mp hmem
      cases hv
      rw [Value.text_sameKey.mpr rfl] at hunlike
      cases hunlike
    simp [hvars]

/-- **Every key of a context has the value that it was given last, and stands where it occurred first.**
A context is refused for the first file that gives no table, or else for the first variable without an
equals sign or with a blank key. Where every file gives a table and no variable is refused, there is a
context, with the values of the files and the variables: the last value that a key is given counts, the
keys stand in the order in which they first occur, and there is no other key. -/
theorem build_layered (t : FileTree) (files : List Path) (vars : List Text) :
    (∀ e, build t files vars = .error e ↔ FirstFault t files vars e) ∧
    ∀ tables, List.Forall₂ (fun path table => ofFile t path = .ok table) files tables →
      ((∃ c, build t files vars = .ok c) ↔ ∀ v ∈ vars, Usable v) ∧
      ∀ c, build t files vars = .ok c → Layered tables vars c := by
  refine ⟨fun e => build_eq_error_iff, fun tables htables => ⟨?_, fun c hc => ?_⟩⟩
  · simp only [build_eq_ok_iff htables, exists_and_left, exists_eq', and_true]
  · obtain ⟨-, rfl⟩ := (build_eq_ok_iff htables).mp hc
    refine layered_layers ?_
    clear hc
    induction htables with
    | nil => exact List.forall_mem_nil _
    | cons htable _ ih => exact List.forall_mem_cons.mpr ⟨distinct_ofFile t _ _ htable, ih⟩

/-! Two files have a place, and a name is given once more by a variable. -/

/-- Two context files. -/
def twoFilesTree : FileTree where
  items := [(["a.json".toList], .file (Text.encoded "\x7b\"name\": \"A\", \"place\": \"B\"\x7d".toList)),
    (["b.json".toList], .file (Text.encoded "\x7b\"place\": \"C\"\x7d".toList))]
  workingDirectory := []

/-- **The name is the variable's, the place that of the second file.** -/
theorem build_layered_twoFilesTree :
    build twoFilesTree [.ofText "/a.json".toList, .ofText "/b.json".toList] [" name = x=y".toList] =
        .ok [(.text "name", .text " x=y"), (.text "place", .text "C")] ∧
      Layered [[(.text "name", .text "A"), (.text "place", .text "B")], [(.text "place", .text "C")]]
        [" name = x=y".toList] [(.text "name", .text " x=y"), (.text "place", .text "C")] := by
  have htables : List.Forall₂ (fun path table => ofFile twoFilesTree path = .ok table)
      [.ofText "/a.json".toList, .ofText "/b.json".toList]
      [[(.text "name", .text "A"), (.text "place", .text "B")], [(.text "place", .text "C")]] :=
    .cons (by cbv) (.cons (by cbv) .nil)
  have hbuild : build twoFilesTree [.ofText "/a.json".toList, .ofText "/b.json".toList]
      [" name = x=y".toList] = .ok [(.text "name", .text " x=y"), (.text "place", .text "C")] := by
    cbv
  exact ⟨hbuild, ((build_layered twoFilesTree _ _).2 _ htables).2 _ hbuild⟩

end Context

end Stencil
