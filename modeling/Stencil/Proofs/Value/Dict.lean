import Stencil.Value.Basic

/-!
# Dictionaries by their text keys

A name finds text keys only, and a text key is the same key as itself and as nothing else. So giving
any key a value either binds one name anew or changes nothing that a name can find.
-/

namespace Stencil

namespace Value

/-- Nothing but a text is the same key as that text. -/
theorem sameKey_text {k : Value} {s : Text} : k.sameKey (.text s) = true ↔ k = .text s := by
  cases k with
  | text t =>
    show (t == s) = true ↔ _
    rw [beq_iff_eq, text.injEq]
  | float x =>
    refine iff_of_false ?_ Value.noConfusion
    conv => rhs; lhs; whnf
    cases (float x).quantity? <;> exact Bool.false_ne_true
  | _ => exact iff_of_false Bool.false_ne_true Value.noConfusion

/-- A text is the same key as nothing but that text. -/
theorem text_sameKey {k : Value} {s : Text} : (text s).sameKey k = true ↔ k = .text s := by
  cases k with
  | text t =>
    rw [sameKey_text, text.injEq, text.injEq]
    exact eq_comm
  | _ => exact iff_of_false Bool.false_ne_true Value.noConfusion

end Value

namespace Dict

/-- What a name finds in a dictionary with an entry in front. -/
theorem get?_cons (name : Text) (k v : Value) (d : Dict) :
    get? name ((k, v) :: d) = if k.sameKey (.text name) then some v else get? name d := by
  cases k <;> simp [get?, Value.sameKey_text]

theorem insert_cons (k v j w : Value) (d : Dict) :
    insert k v ((j, w) :: d) = if j.sameKey k then (j, v) :: d else (j, w) :: insert k v d := rfl

/-- A key that was given a value finds it, and every other name finds what it found before. -/
theorem get?_insert (name : Text) (k v : Value) (d : Dict) :
    get? name (insert k v d) = if k.sameKey (.text name) then some v else get? name d := by
  induction d with
  | nil => exact get?_cons name k v []
  | cons entry d ih =>
    obtain ⟨j, w⟩ := entry
    rw [insert_cons]
    split
    next hsame =>
      rw [get?_cons, get?_cons]
      by_cases hk : k.sameKey (.text name) = true
      · rw [Value.sameKey_text.mp hk] at hsame
        rw [if_pos hk, if_pos hsame]
      · have hj : ¬ j.sameKey (.text name) = true := by
          intro hj
          rw [Value.sameKey_text.mp hj] at hsame
          exact hk (Value.sameKey_text.mpr (Value.text_sameKey.mp hsame))
        rw [if_neg hk, if_neg hj, if_neg hj]
    next hother =>
      rw [get?_cons, get?_cons, ih]
      by_cases hj : j.sameKey (.text name) = true
      · have hk : ¬ k.sameKey (.text name) = true := by
          intro hk
          rw [Value.sameKey_text.mp hk] at hother
          exact hother hj
        rw [if_pos hj, if_neg hk, if_pos hj]
      · rw [if_neg hj, if_neg hj]

/-- The name that was given a value finds it, and no other is touched. -/
theorem get?_insert_text (name key : Text) (v : Value) (d : Dict) :
    get? name (insert (.text key) v d) = if name = key then some v else get? name d := by
  rw [get?_insert]
  simp only [Value.sameKey_text, Value.text.injEq, @eq_comm _ key name]

/-! ## Keys that stand once -/

/-- No key of a dictionary stands in it twice. -/
def Distinct (d : Dict) : Prop := d.Pairwise fun a b => a.1.sameKey b.1 = false

/-- The keys behind an insertion are the keys before and the one inserted. -/
theorem key_of_mem_insert {k v : Value} {d : Dict} {e : Value × Value} (h : e ∈ insert k v d) :
    e.1 = k ∨ ∃ f ∈ d, e.1 = f.1 := by
  induction d with
  | nil =>
    rw [List.mem_singleton.mp h]
    exact .inl rfl
  | cons entry d ih =>
    obtain ⟨j, w⟩ := entry
    rw [insert_cons] at h
    split at h <;> rcases List.mem_cons.mp h with rfl | htail
    · exact .inr ⟨(j, w), List.mem_cons_self, rfl⟩
    · exact .inr ⟨e, List.mem_cons_of_mem _ htail, rfl⟩
    · exact .inr ⟨(j, w), List.mem_cons_self, rfl⟩
    · rcases ih htail with hk | ⟨f, hf, hkey⟩
      · exact .inl hk
      · exact .inr ⟨f, List.mem_cons_of_mem _ hf, hkey⟩

/-- The values behind an insertion are the values before and the one inserted. -/
theorem value_of_mem_insert {k v : Value} {d : Dict} {e : Value × Value} (h : e ∈ insert k v d) :
    e.2 = v ∨ e ∈ d := by
  induction d with
  | nil =>
    rw [List.mem_singleton.mp h]
    exact .inl rfl
  | cons entry d ih =>
    obtain ⟨j, w⟩ := entry
    rw [insert_cons] at h
    split at h <;> rcases List.mem_cons.mp h with rfl | htail
    · exact .inl rfl
    · exact .inr (List.mem_cons_of_mem _ htail)
    · exact .inr List.mem_cons_self
    · exact (ih htail).imp_right (List.mem_cons_of_mem _)

/-- An insertion repeats no key. -/
theorem Distinct.insert {d : Dict} (h : d.Distinct) (k v : Value) : (Dict.insert k v d).Distinct := by
  induction d with
  | nil => exact List.pairwise_singleton _ _
  | cons entry d ih =>
    obtain ⟨j, w⟩ := entry
    obtain ⟨hj, hd⟩ := List.pairwise_cons.mp h
    rw [insert_cons]
    split
    next => exact List.pairwise_cons.mpr ⟨hj, hd⟩
    next hother =>
      refine List.pairwise_cons.mpr ⟨fun e he => ?_, ih hd⟩
      rcases key_of_mem_insert he with hkey | ⟨f, hf, hkey⟩
      · rw [hkey]
        exact Bool.eq_false_iff.mpr hother
      · rw [hkey]
        exact hj f hf

/-- Keys that are left when one is taken out are repeated no more than before. -/
theorem Distinct.erase {d : Dict} (h : d.Distinct) (name : Text) : (Dict.erase name d).Distinct :=
  h.sublist List.filter_sublist

/-- A name that is found stands in the dictionary, and its value with it. -/
theorem mem_of_get? {name : Text} {v : Value} {d : Dict} (h : get? name d = some v) :
    (.text name, v) ∈ d := by
  induction d with
  | nil => cases h
  | cons entry d ih =>
    obtain ⟨k, w⟩ := entry
    rw [get?_cons] at h
    split at h
    next hsame =>
      cases h
      rw [Value.sameKey_text.mp hsame]
      exact List.mem_cons_self
    next => exact List.mem_cons_of_mem _ (ih h)

/-- Every name but the one taken out finds what it found before. -/
theorem get?_erase {name other : Text} (h : other ≠ name) (d : Dict) :
    get? other (erase name d) = get? other d := by
  induction d with
  | nil => rfl
  | cons entry d ih =>
    obtain ⟨k, v⟩ := entry
    by_cases hk : k.sameKey (.text name) = true
    · have hother : ¬ k.sameKey (.text other) = true := by
        rw [Value.sameKey_text.mp hk, Value.sameKey_text]
        exact fun heq => h (Value.text.inj heq).symm
      rw [get?_cons, if_neg hother, ← ih, erase, List.filter_cons_of_neg (by simp [hk]), erase]
    · rw [erase, List.filter_cons_of_pos (by simp [hk]), get?_cons, get?_cons, ← ih, erase]

/-- The name that was taken out finds nothing. -/
theorem get?_erase_self (name : Text) (d : Dict) : get? name (erase name d) = none := by
  refine Option.eq_none_iff_forall_not_mem.mpr fun v hv => ?_
  have hkept : (!(Value.text name).sameKey (.text name)) = true :=
    (List.mem_filter.mp (mem_of_get? hv)).2
  have hsame : (Value.text name).sameKey (.text name) = true := Value.sameKey_text.mpr rfl
  rw [hsame] at hkept
  cases hkept

/-- What a name finds behind an update: what the update has for it, or else what it found before. -/
theorem get?_update {entries : Dict} (h : entries.Distinct) (name : Text) (d : Dict) :
    get? name (update d entries) = (get? name entries).or (get? name d) := by
  induction entries generalizing d with
  | nil => rfl
  | cons entry rest ih =>
    obtain ⟨k, v⟩ := entry
    obtain ⟨hk, hrest⟩ := List.pairwise_cons.mp h
    have hstep : update d ((k, v) :: rest) = update (insert k v d) rest := rfl
    rw [hstep, ih hrest, get?_insert, get?_cons]
    split
    next hsame =>
      -- No later entry has the key, so none puts its value away.
      have hnone : get? name rest = none := by
        refine Option.eq_none_iff_forall_not_mem.mpr fun w hw => ?_
        have hlater := hk _ (mem_of_get? hw)
        rw [hsame] at hlater
        cases hlater
      rw [hnone, Option.none_or, Option.some_or]
    next => rfl

end Dict

end Stencil
