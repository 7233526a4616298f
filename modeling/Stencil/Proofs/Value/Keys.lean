import Stencil.Proofs.Value.Dict

/-!
# Dictionaries by their keys

What any key finds in a dictionary, be it a name, a number or a tuple, and in which order keys stand
there. All of it rests on one fact: keys are the same when they have the same mark (`sameKey_iff`), so
that being the same key can be turned around and chained. It need not hold of a key and itself, since
what is not a number has no mark unless it is the one that is the same thing everywhere.

An update is then known by what it answers: a key finds the last value that the update has for it, or
else what it found before (`find?_update`), and keys stand where they occurred first (`keys_update`).
-/

namespace Stencil

namespace Value

/-! ## Marks -/

/-- What a key is known by: itself, or what it counts, or the moment that it means. -/
inductive Mark where
  | itself (v : Value)
  | quantity (q : Quantity)
  | moment (n : Int)
  | tuple (marks : List Mark)

mutual

/-- The mark of a key. A number that is not one has none, and neither has what cannot be a key. -/
def mark? : Value → Option Mark
  | .null => some (.itself .null)
  | .nan => some (.itself .nan)
  | .text s => some (.itself (.text s))
  | .broken s => some (.itself (.broken s))
  | .bytes b => some (.itself (.bytes b))
  | .date d => some (.itself (.date d))
  | .time c => some (.itself (.time c))
  | .dateTime d c none => some (.itself (.dateTime d c none))
  | .dateTime d c (some z) => some (.moment (z.moment d c))
  | .tuple xs => (marks? xs).map .tuple
  | .bool b => (quantity? (.bool b)).map .quantity
  | .int n => (quantity? (.int n)).map .quantity
  | .float x => (quantity? (.float x)).map .quantity
  | .list _ | .set _ | .dict _ | .knot .. | .back _ => none

/-- The marks of the elements of a tuple, if all of them have one. -/
def marks? : List Value → Option (List Mark)
  | [] => some []
  | x :: xs => do return (← mark? x) :: (← marks? xs)

end

/-! Each kind of mark belongs to one kind of key. -/

theorem exists_of_float_mark? {x : Float} {m : Mark} (h : (float x).mark? = some m) :
    ∃ q, m = .quantity q := by
  obtain ⟨q, -, rfl⟩ := Option.map_eq_some_iff.mp
    (show (quantity? (.float x)).map Mark.quantity = some m from h)
  exact ⟨q, rfl⟩

theorem exists_of_tuple_mark? {xs : List Value} {m : Mark} (h : (tuple xs).mark? = some m) :
    ∃ ms, m = .tuple ms := by
  obtain ⟨ms, -, rfl⟩ := Option.map_eq_some_iff.mp
    (show (marks? xs).map Mark.tuple = some m from h)
  exact ⟨ms, rfl⟩

theorem map_quantity_eq_some_iff (found : Option Quantity) (q : Quantity) :
    found.map Mark.quantity = some (.quantity q) ↔ found = some q := by
  simp only [Option.map_eq_some_iff, Mark.quantity.injEq, exists_eq_right]

theorem mark?_eq_quantity_iff {v : Value} {q : Quantity} :
    v.mark? = some (.quantity q) ↔ v.quantity? = some q := by
  cases v with
  | bool b => exact map_quantity_eq_some_iff (quantity? (.bool b)) q
  | int n => exact map_quantity_eq_some_iff (quantity? (.int n)) q
  | float x => exact map_quantity_eq_some_iff (quantity? (.float x)) q
  | tuple xs =>
    refine iff_of_false (fun h => ?_) nofun
    obtain ⟨_, ⟨⟩⟩ := exists_of_tuple_mark? h
  | dateTime d c zone => cases zone <;> exact iff_of_false nofun nofun
  | _ => exact iff_of_false nofun nofun

theorem eq_of_mark?_itself {v w : Value} (h : v.mark? = some (.itself w)) : v = w := by
  cases v with
  | float x =>
    obtain ⟨_, ⟨⟩⟩ := exists_of_float_mark? h
  | tuple xs =>
    obtain ⟨_, ⟨⟩⟩ := exists_of_tuple_mark? h
  | dateTime d c zone =>
    cases zone with
    | none => exact Mark.itself.inj (Option.some.inj h)
    | some z => cases h
  | bool | int | list | set | dict | knot | back => cases h
  | _ => exact Mark.itself.inj (Option.some.inj h)

theorem exists_of_mark?_moment {v : Value} {n : Int} (h : v.mark? = some (.moment n)) :
    ∃ d c zone, v = .dateTime d c zone := by
  cases v with
  | float x =>
    obtain ⟨_, ⟨⟩⟩ := exists_of_float_mark? h
  | tuple xs =>
    obtain ⟨_, ⟨⟩⟩ := exists_of_tuple_mark? h
  | dateTime d c zone => exact ⟨d, c, zone, rfl⟩
  | _ => cases h

theorem exists_of_mark?_tuple {v : Value} {ms : List Mark} (h : v.mark? = some (.tuple ms)) :
    ∃ xs, v = .tuple xs := by
  cases v with
  | float x =>
    obtain ⟨_, ⟨⟩⟩ := exists_of_float_mark? h
  | tuple xs => exact ⟨xs, rfl⟩
  | dateTime d c zone => cases zone <;> cases h
  | _ => cases h

theorem marks?_cons (x : Value) (xs : List Value) :
    marks? (x :: xs) = (do return (← mark? x) :: (← marks? xs)) := rfl

theorem marks?_cons_ne {x : Value} {xs : List Value} : marks? (x :: xs) ≠ some [] := by
  rw [marks?_cons]
  cases x.mark? <;> cases marks? xs <;> simp

/-- The marks of two lists with an element in front are the same when those of both parts are. -/
theorem marks?_cons_eq_iff {x y : Value} {xs ys : List Value} :
    (marks? (x :: xs) ≠ none ∧ marks? (x :: xs) = marks? (y :: ys)) ↔
      (x.mark? ≠ none ∧ x.mark? = y.mark?) ∧ marks? xs ≠ none ∧ marks? xs = marks? ys := by
  rw [marks?_cons, marks?_cons]
  cases x.mark? with
  | none => simp
  | some m =>
    cases marks? xs with
    | none => simp
    | some ms => cases y.mark? <;> cases marks? ys <;> simp

/-- Keys are the same when they have one mark. -/
theorem sameKey_iff {a b : Value} : a.sameKey b = true ↔ a.mark? ≠ none ∧ a.mark? = b.mark? := by
  apply sameKey.induct (fun a b => a.sameKey b = true ↔ a.mark? ≠ none ∧ a.mark? = b.mark?)
    (fun xs ys => sameKeys xs ys = true ↔ marks? xs ≠ none ∧ marks? xs = marks? ys)
  case case1 | case2 | case3 | case4 | case5 | case6 | case8 =>
    intros
    simp [sameKey, mark?]
  case case7 =>
    intro d c z e k y
    cases z <;> cases y <;> simp [sameKey, sameTime, mark?]
  case case9 =>
    intro xs ys ih
    have hinj : Function.Injective Mark.tuple := fun _ _ h => Mark.tuple.inj h
    rw [sameKey, ih, mark?, mark?, (Option.map_injective hinj).eq_iff]
    simp
  case case10 =>
    intro a b _ _ _ _ _ _ _ _ _ p q hb ha
    rw [sameKey, ha, hb, mark?_eq_quantity_iff.mpr ha, mark?_eq_quantity_iff.mpr hb]
    · simp
    all_goals assumption
  case case11 =>
    intro a b htext hbroken hnull hnan hbytes hdate hdateTime htime htuple hquantity
    -- The keys are of two kinds, and keys of two kinds have different marks.
    refine iff_of_false ?_ fun ⟨hsome, heq⟩ => ?_
    · rw [sameKey]
      · split
        next p q ha hb => exact (hquantity p q ha hb).elim
        next => exact Bool.false_ne_true
      all_goals assumption
    · obtain ⟨m, ha⟩ := Option.ne_none_iff_exists'.mp hsome
      have hb := heq.symm.trans ha
      cases m with
      | itself v =>
        cases eq_of_mark?_itself ha
        cases eq_of_mark?_itself hb
        cases a with
        | null => exact hnull rfl rfl
        | nan => exact hnan rfl rfl
        | text s => exact htext s s rfl rfl
        | broken s => exact hbroken s s rfl rfl
        | bytes b => exact hbytes b b rfl rfl
        | date d => exact hdate d d rfl rfl
        | dateTime d c z => exact hdateTime d c z d c z rfl rfl
        | time c => exact htime c c rfl rfl
        | tuple xs => exact htuple xs xs rfl rfl
        | _ => simp [mark?] at ha
      | quantity q => exact hquantity q q (mark?_eq_quantity_iff.mp ha) (mark?_eq_quantity_iff.mp hb)
      | moment n =>
        obtain ⟨d, c, z, rfl⟩ := exists_of_mark?_moment ha
        obtain ⟨e, k, y, rfl⟩ := exists_of_mark?_moment hb
        exact hdateTime d c z e k y rfl rfl
      | tuple ms =>
        obtain ⟨xs, rfl⟩ := exists_of_mark?_tuple ha
        obtain ⟨ys, rfl⟩ := exists_of_mark?_tuple hb
        exact htuple xs ys rfl rfl
  case case12 => simp [sameKeys, marks?]
  case case13 =>
    intro x xs y ys ihrest ih
    rw [sameKeys, Bool.and_eq_true, ih, ihrest, marks?_cons_eq_iff]
  case case14 =>
    intro xs ys hnil hcons
    refine iff_of_false ?_ fun ⟨_, heq⟩ => ?_
    · rw [sameKeys]
      · exact Bool.false_ne_true
      all_goals assumption
    · cases xs with
      | nil =>
        cases ys with
        | nil => exact hnil rfl rfl
        | cons y ys => exact marks?_cons_ne heq.symm
      | cons x xs =>
        cases ys with
        | nil => exact marks?_cons_ne heq
        | cons y ys => exact hcons x xs y ys rfl rfl

/-- Being the same key can be turned around. -/
theorem sameKey_comm (a b : Value) : a.sameKey b = b.sameKey a := by
  have hturn : ∀ {a b : Value}, a.sameKey b = true → b.sameKey a = true := by
    intro a b h
    obtain ⟨hsome, heq⟩ := sameKey_iff.mp h
    exact sameKey_iff.mpr ⟨heq ▸ hsome, heq.symm⟩
  exact Bool.eq_iff_iff.mpr ⟨hturn, hturn⟩

/-- Being the same key can be chained. -/
theorem sameKey_trans {a b c : Value} (hab : a.sameKey b = true) (hbc : b.sameKey c = true) :
    a.sameKey c = true := by
  obtain ⟨hsome, heq⟩ := sameKey_iff.mp hab
  exact sameKey_iff.mpr ⟨hsome, heq.trans (sameKey_iff.mp hbc).2⟩

/-- The same key is the same as what the key is the same as. -/
theorem sameKey_congr {a b : Value} (h : a.sameKey b = true) (c : Value) :
    a.sameKey c = b.sameKey c := by
  refine Bool.eq_iff_iff.mpr ⟨fun hac => sameKey_trans ?_ hac, sameKey_trans h⟩
  rwa [sameKey_comm]

end Value

namespace Dict

/-! ## What a key finds -/

/-- The value of a key is that of the first entry with the key. -/
theorem find?_eq (k : Value) (d : Dict) :
    find? k d = (List.find? (fun e => e.1.sameKey k) d).map Prod.snd := by
  induction d with
  | nil => rfl
  | cons entry d ih =>
    obtain ⟨j, v⟩ := entry
    rw [find?, List.find?_cons, ih]
    cases j.sameKey k <;> rfl

theorem find?_cons (k j v : Value) (d : Dict) :
    find? k ((j, v) :: d) = if j.sameKey k then some v else find? k d := rfl

theorem find?_append (k : Value) (d e : Dict) :
    find? k (d ++ e) = (find? k d).or (find? k e) := by
  rw [find?_eq, find?_eq, find?_eq, List.find?_append]
  cases List.find? (fun e => e.1.sameKey k) d <;> rfl

/-- A key finds nothing where no key is the same. -/
theorem find?_eq_none_iff {k : Value} {d : Dict} :
    find? k d = none ↔ ∀ e ∈ d, e.1.sameKey k = false := by
  rw [find?_eq, Option.map_eq_none_iff, List.find?_eq_none]
  simp only [Bool.not_eq_true]

/-- The key that was given a value finds it, and so does every key that is the same. -/
theorem find?_insert (k j v : Value) (d : Dict) :
    find? k (insert j v d) = if j.sameKey k then some v else find? k d := by
  induction d with
  | nil => rfl
  | cons entry d ih =>
    obtain ⟨i, w⟩ := entry
    rw [insert_cons]
    split
    next hsame =>
      rw [find?_cons, find?_cons, Value.sameKey_congr hsame k]
      split <;> rfl
    next hother =>
      rw [find?_cons, find?_cons, ih]
      by_cases hi : i.sameKey k = true
      · -- The inserted key is not that of this entry, so it is not the one that is looked for.
        have hj : ¬ j.sameKey k = true := fun hj => by
          rw [Value.sameKey_comm] at hj
          exact hother (Value.sameKey_trans hi hj)
        rw [if_pos hi, if_neg hj, if_pos hi]
      · rw [if_neg hi, if_neg hi]

/-- What a key finds behind an update: the last value that the update has for it, or else what it found
before. -/
theorem find?_update (k : Value) (d entries : Dict) :
    find? k (update d entries) = (find? k entries.reverse).or (find? k d) := by
  induction entries generalizing d with
  | nil => rfl
  | cons entry rest ih =>
    obtain ⟨j, v⟩ := entry
    have hstep : update d ((j, v) :: rest) = update (insert j v d) rest := rfl
    rw [hstep, ih, find?_insert, List.reverse_cons, find?_append, Option.or_assoc, find?_cons]
    split <;> rfl

/-! ## Keys that stand once -/

/-- An update repeats no key. -/
theorem Distinct.update {d : Dict} (h : d.Distinct) (entries : Dict) :
    (Dict.update d entries).Distinct := by
  induction entries generalizing d with
  | nil => exact h
  | cons entry rest ih => exact ih (h.insert entry.1 entry.2)

/-- Keys that are repeated in one order are repeated in every order. -/
theorem Distinct.perm {d e : Dict} (h : d.Distinct) (hperm : d.Perm e) : e.Distinct :=
  List.Pairwise.perm h hperm fun hab => (Value.sameKey_comm _ _).trans hab

/-- Without repeated keys the last value of a key is the first. -/
theorem Distinct.find?_reverse {d : Dict} (h : d.Distinct) (k : Value) :
    find? k d.reverse = find? k d := by
  induction d with
  | nil => rfl
  | cons entry d ih =>
    obtain ⟨j, v⟩ := entry
    obtain ⟨hj, hd⟩ := List.pairwise_cons.mp h
    rw [List.reverse_cons, find?_append, ih hd, find?_cons, find?_cons]
    split
    next hsame =>
      have hnone : find? k d = none := by
        refine find?_eq_none_iff.mpr fun e he => ?_
        rw [Value.sameKey_comm, ← Value.sameKey_congr hsame]
        exact hj e he
      rw [hnone]
      rfl
    next => cases find? k d <;> rfl

/-- What a key finds behind an update without repeated keys. -/
theorem find?_update_of_distinct {entries : Dict} (h : entries.Distinct) (k : Value) (d : Dict) :
    find? k (update d entries) = (find? k entries).or (find? k d) := by
  rw [find?_update, h.find?_reverse]

/-- Behind some updates in order a key finds what the last of them has for it that has it at all. -/
theorem find?_foldl_update {tables : List Dict} (h : ∀ table ∈ tables, table.Distinct) (k : Value)
    (d : Dict) :
    find? k (tables.foldl update d) = (tables.reverse.findSome? (find? k)).or (find? k d) := by
  induction tables generalizing d with
  | nil => rfl
  | cons table tables ih =>
    obtain ⟨htable, htables⟩ := List.forall_mem_cons.mp h
    rw [List.foldl_cons, ih htables, find?_update_of_distinct htable, List.reverse_cons,
      List.findSome?_append, Option.or_assoc, List.findSome?_singleton]

/-! A key that is not even the same as itself is given a value of its own whenever it is given one. -/

theorem ne_of_unlike {key j k : Value} (h : key.sameKey key = false) (hjk : j.sameKey k = true) :
    key ≠ j := by
  rintro rfl
  have hself : key.sameKey key = true :=
    Value.sameKey_trans hjk ((Value.sameKey_comm _ _).trans hjk)
  rw [h] at hself
  cases hself

theorem mem_insert_of_unlike {key value : Value} (h : key.sameKey key = false) (k v : Value) (d : Dict) :
    (key, value) ∈ insert k v d ↔ (key, value) ∈ d ∨ (key, value) = (k, v) := by
  induction d with
  | nil => simp [insert]
  | cons entry d ih =>
    obtain ⟨j, w⟩ := entry
    rw [insert_cons]
    split
    next hsame =>
      have hj : key ≠ j := ne_of_unlike h hsame
      have hk : key ≠ k := ne_of_unlike h ((Value.sameKey_comm k j).trans hsame)
      simp [hj, hk]
    next => rw [List.mem_cons, ih, List.mem_cons, or_assoc]

theorem mem_update_of_unlike {key value : Value} (h : key.sameKey key = false) (d entries : Dict) :
    (key, value) ∈ update d entries ↔ (key, value) ∈ d ∨ (key, value) ∈ entries := by
  induction entries generalizing d with
  | nil => simp [update]
  | cons entry rest ih =>
    obtain ⟨k, v⟩ := entry
    have hstep : update d ((k, v) :: rest) = update (insert k v d) rest := rfl
    rw [hstep, ih, mem_insert_of_unlike h, List.mem_cons, or_assoc]

/-! ## Where keys stand -/

/-- The keys of a dictionary in order. -/
def keys (d : Dict) : List Value := d.map Prod.fst

theorem distinct_iff {d : Dict} : d.Distinct ↔ d.keys.Pairwise fun j k => j.sameKey k = false := by
  rw [keys, List.pairwise_map, Distinct]

/-- The keys among some in the order in which they occur first: a key that is the same as one before it
is left out. -/
def firsts (ks : List Value) : List Value := ks.eraseDupsBy fun later earlier => earlier.sameKey later

theorem firsts_cons (k : Value) (ks : List Value) :
    firsts (k :: ks) = k :: firsts (ks.filter fun j => !k.sameKey j) := by
  rw [firsts, List.eraseDupsBy_cons, firsts]
  simp only [Bool.decide_eq_false]

/-- A law of lists of keys holds of all of them when it holds of the empty list, and of a list with a key
in front whenever it holds of those behind it that are another key. -/
@[elab_as_elim]
theorem firstsInduction {P : List Value → Prop} (nil : P [])
    (cons : ∀ k ks, P (ks.filter fun j => !k.sameKey j) → P (k :: ks)) : ∀ ks, P ks
  | [] => nil
  | k :: ks => cons k ks (firstsInduction nil cons (ks.filter fun j => !k.sameKey j))
termination_by ks => ks.length
decreasing_by exact Nat.lt_succ_of_le (List.length_filter_le _ _)

/-- The first keys of those that are kept are the kept ones of the first keys, when of keys that are the
same all are kept or none. -/
theorem firsts_filter {p : Value → Bool} (hp : ∀ {j k : Value}, j.sameKey k = true → p j = p k)
    (ks : List Value) : firsts (ks.filter p) = (firsts ks).filter p := by
  induction ks using firstsInduction with
  | nil => rfl
  | cons k ks ih =>
    rw [firsts_cons]
    by_cases hk : p k = true
    · rw [List.filter_cons_of_pos hk, firsts_cons, List.filter_cons_of_pos hk, ← ih,
        List.filter_filter, List.filter_filter]
      simp only [Bool.and_comm]
    · -- The keys that `k` leaves out are not kept either.
      have hout : ks.filter p = (ks.filter fun j => !k.sameKey j).filter p := by
        rw [List.filter_filter]
        refine List.filter_congr fun j _ => ?_
        cases hj : k.sameKey j with
        | true => simp [← hp hj, hk]
        | false => simp
      rw [List.filter_cons_of_neg hk, List.filter_cons_of_neg hk, hout, ih]

/-- The first keys are each the first of its own. -/
theorem firsts_firsts (ks : List Value) : firsts (firsts ks) = firsts ks := by
  induction ks using firstsInduction with
  | nil => rfl
  | cons k ks ih =>
    have hsame : ∀ {i j : Value}, i.sameKey j = true → (!k.sameKey i) = !k.sameKey j := by
      intro i j hij
      rw [Value.sameKey_comm k i, Value.sameKey_congr hij, Value.sameKey_comm j k]
    rw [firsts_cons, firsts_cons, ← firsts_filter hsame, List.filter_filter]
    simp only [Bool.and_self]
    rw [ih]

/-- A key that is given a value keeps its place, or stands at the end when it is new. -/
theorem keys_insert (k v : Value) (d : Dict) :
    keys (insert k v d) = if (keys d).any (·.sameKey k) then keys d else keys d ++ [k] := by
  induction d with
  | nil => rfl
  | cons entry d ih =>
    obtain ⟨j, w⟩ := entry
    have hkeys : ∀ (u : Value) (e : Dict), keys ((j, u) :: e) = j :: keys e := fun _ _ => rfl
    rw [insert_cons, hkeys, List.any_cons]
    cases hj : j.sameKey k with
    | true => rfl
    | false =>
      rw [if_neg Bool.false_ne_true, hkeys, ih, Bool.false_or]
      split <;> rfl

/-- **Behind an update keys stand where they occurred first.** -/
theorem keys_update (d entries : Dict) :
    keys (update d entries) =
      keys d ++ firsts ((keys entries).filter fun k => !(keys d).any (·.sameKey k)) := by
  induction entries generalizing d with
  | nil => exact (List.append_nil _).symm
  | cons entry rest ih =>
    obtain ⟨k, v⟩ := entry
    have hstep : update d ((k, v) :: rest) = update (insert k v d) rest := rfl
    have hkeys : keys ((k, v) :: rest) = k :: keys rest := rfl
    rw [hstep, ih, hkeys, keys_insert]
    cases hk : (keys d).any (·.sameKey k) with
    | true => rw [if_pos rfl, List.filter_cons_of_neg (by simp [hk])]
    | false =>
      rw [if_neg Bool.false_ne_true, List.filter_cons_of_pos (by simp [hk]), firsts_cons,
        List.filter_filter, List.append_assoc, List.singleton_append]
      simp only [List.any_append, List.any_cons, List.any_nil, Bool.or_false, Bool.not_or,
        Bool.and_comm]

/-- The keys of a dictionary that is made up of entries. -/
theorem keys_ofEntries (entries : List (Value × Value)) :
    keys (ofEntries entries) = firsts (keys entries) := by
  have hall : ((keys entries).filter fun k => !(keys []).any (·.sameKey k)) = keys entries :=
    List.filter_eq_self.mpr fun _ _ => rfl
  rw [ofEntries, keys_update, hall]
  rfl

/-- Behind an update by a dictionary that entries make up keys stand where they occurred first in the
entries. -/
theorem keys_update_ofEntries (d : Dict) (entries : List (Value × Value)) :
    keys (update d (ofEntries entries)) = keys (update d entries) := by
  have hsame : ∀ {j k : Value}, j.sameKey k = true →
      (!(keys d).any (·.sameKey j)) = !(keys d).any (·.sameKey k) := by
    intro j k hjk
    simp only [Value.sameKey_comm _ j, Value.sameKey_comm _ k, Value.sameKey_congr hjk]
  rw [keys_update, keys_update, keys_ofEntries, ← firsts_filter hsame, firsts_firsts]

end Dict

end Stencil
