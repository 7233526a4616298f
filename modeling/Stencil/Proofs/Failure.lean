import Mathlib.Data.List.Forall2
import Stencil.Failure

/-!
# Results in sequence

A computation that may fail gives a result when each of its parts does, and fails where the first of
them does. These laws take such a computation apart, one part at a time.
-/

namespace Stencil

variable {ε δ α β : Type}

/-- Two parts in sequence give a result when both do. -/
theorem bind_eq_ok_iff {x : Except ε α} {f : α → Except ε β} {b : β} :
    (x >>= f) = .ok b ↔ ∃ a, x = .ok a ∧ f a = .ok b := by
  cases x with
  | error e => exact iff_of_false nofun fun ⟨_, h, _⟩ => nomatch h
  | ok a =>
    refine ⟨fun h => ⟨a, rfl, h⟩, ?_⟩
    rintro ⟨_, h, hf⟩
    cases h
    exact hf

/-- A changed result is a result that was changed. -/
theorem map_eq_ok_iff {x : Except ε α} {f : α → β} {b : β} :
    x.map f = .ok b ↔ ∃ a, x = .ok a ∧ f a = b := by
  cases x with
  | error e => exact iff_of_false nofun fun ⟨_, h, _⟩ => nomatch h
  | ok a => simp [Except.map]

/-- Other words for a failure change no result. -/
theorem mapError_eq_ok_iff {x : Except ε α} {f : ε → δ} {a : α} :
    x.mapError f = .ok a ↔ x = .ok a := by
  cases x with
  | error e => exact iff_of_false nofun nofun
  | ok b =>
    show (Except.ok b : Except δ α) = .ok a ↔ _
    rw [Except.ok.injEq, Except.ok.injEq]

/-- A list is gone through when each of its elements gives a result. -/
theorem mapM_eq_ok_iff {f : α → Except ε β} {as : List α} {bs : List β} :
    as.mapM f = .ok bs ↔ List.Forall₂ (fun a b => f a = .ok b) as bs := by
  induction as generalizing bs with
  | nil =>
    show Except.ok [] = .ok bs ↔ _
    rw [List.forall₂_nil_left_iff, Except.ok.injEq]
    exact eq_comm
  | cons a as ih =>
    rw [List.mapM_cons, bind_eq_ok_iff, List.forall₂_cons_left_iff]
    refine exists_congr fun b => ?_
    rw [bind_eq_ok_iff, ← exists_and_left]
    refine exists_congr fun rest => ?_
    show _ ∧ _ ∧ Except.ok (b :: rest) = .ok bs ↔ _
    rw [ih, Except.ok.injEq, @eq_comm _ bs]

theorem exists_mapM_eq_ok_iff {f : α → Except ε β} {as : List α} :
    (∃ bs, as.mapM f = .ok bs) ↔ ∀ a ∈ as, ∃ b, f a = .ok b := by
  simp only [mapM_eq_ok_iff]
  induction as with
  | nil => simp
  | cons a as ih =>
    rw [List.forall_mem_cons, ← ih]
    constructor
    · rintro ⟨_, h⟩
      cases h with
      | cons ha has => exact ⟨⟨_, ha⟩, ⟨_, has⟩⟩
    · rintro ⟨⟨b, hb⟩, ⟨bs, hbs⟩⟩
      exact ⟨b :: bs, .cons hb hbs⟩

/-! ## Where a computation fails -/

/-- A failure is the same one, whatever was to be computed. -/
theorem error_eq_error_iff {d e : ε} :
    (.error d : Except ε α) = .error e ↔ (.error d : Except ε β) = .error e := by
  rw [Except.error.injEq, Except.error.injEq]

/-- Two parts in sequence fail when the first one does, or the second one behind it. -/
theorem bind_eq_error_iff {x : Except ε α} {f : α → Except ε β} {e : ε} :
    (x >>= f) = .error e ↔ x = .error e ∨ ∃ a, x = .ok a ∧ f a = .error e := by
  cases x with
  | error d =>
    constructor
    · rintro ⟨⟩
      exact .inl rfl
    · rintro (h | ⟨a, ha, -⟩)
      · cases h
        rfl
      · cases ha
  | ok a =>
    constructor
    · exact fun h => .inr ⟨a, rfl, h⟩
    · rintro (h | ⟨b, hb, h⟩)
      · cases h
      · cases hb
        exact h

/-- A changed result fails where the result does. -/
theorem map_eq_error_iff {x : Except ε α} {f : α → β} {e : ε} :
    x.map f = .error e ↔ x = .error e := by
  cases x with
  | error d => simp [Except.map]
  | ok a => exact iff_of_false nofun nofun

/-- Other words for a failure are words for one. -/
theorem mapError_eq_error_iff {x : Except ε α} {f : ε → δ} {d : δ} :
    x.mapError f = .error d ↔ ∃ e, x = .error e ∧ f e = d := by
  cases x with
  | error e =>
    show (Except.error (f e) : Except δ α) = .error d ↔ _
    rw [Except.error.injEq]
    constructor
    · exact fun h => ⟨e, rfl, h⟩
    · rintro ⟨_, ⟨⟩, h⟩
      exact h
  | ok a =>
    show (Except.ok a : Except δ α) = .error d ↔ _
    constructor
    · rintro ⟨⟩
    · rintro ⟨_, h, -⟩
      cases h

/-- Behind elements of one kind the first of another is the head of a list, or it is in the tail and the
head is of the first kind. -/
theorem exists_first_cons_iff {p q : α → Prop} {a : α} {as : List α} :
    (∃ front b back, a :: as = front ++ b :: back ∧ (∀ c ∈ front, p c) ∧ q b) ↔
      q a ∨ p a ∧ ∃ front b back, as = front ++ b :: back ∧ (∀ c ∈ front, p c) ∧ q b := by
  constructor
  · rintro ⟨front, b, back, hsplit, hfront, hb⟩
    cases front with
    | nil =>
      obtain ⟨rfl, -⟩ := List.cons.inj hsplit
      exact .inl hb
    | cons c front =>
      obtain ⟨rfl, rfl⟩ := List.cons.inj hsplit
      obtain ⟨hc, hfront⟩ := List.forall_mem_cons.mp hfront
      exact .inr ⟨hc, front, b, back, rfl, hfront, hb⟩
  · rintro (ha | ⟨ha, front, b, back, rfl, hfront, hb⟩)
    · exact ⟨[], a, as, rfl, by simp, ha⟩
    · exact ⟨a :: front, b, back, rfl, List.forall_mem_cons.mpr ⟨ha, hfront⟩, hb⟩

/-- A list is gone through up to the first of its elements that fails. -/
theorem mapM_eq_error_iff {f : α → Except ε β} {as : List α} {e : ε} :
    as.mapM f = .error e ↔ ∃ front a back, as = front ++ a :: back ∧
      (∀ b ∈ front, ∃ c, f b = .ok c) ∧ f a = .error e := by
  induction as with
  | nil => exact iff_of_false nofun (by simp)
  | cons a as ih =>
    rw [List.mapM_cons, bind_eq_error_iff, exists_first_cons_iff, ← ih, ← exists_and_right]
    refine or_congr_right (exists_congr fun b => and_congr_right fun _ => ?_)
    rw [bind_eq_error_iff]
    exact or_iff_left fun ⟨_, _, h⟩ => nomatch h

/-- A list is gone through to the end where every element gives something. -/
theorem mapM_ne_none {f : α → Option β} {as : List α} (h : ∀ a ∈ as, (f a).isSome) :
    as.mapM f ≠ none := by
  induction as with
  | nil => nofun
  | cons a as ih =>
    obtain ⟨ha, has⟩ := List.forall_mem_cons.mp h
    obtain ⟨b, hb⟩ := Option.isSome_iff_exists.mp ha
    obtain ⟨bs, hbs⟩ := Option.ne_none_iff_exists'.mp (ih has)
    rw [List.mapM_cons, hb, hbs]
    nofun

/-- What comes of a list comes of its elements, one by one. -/
theorem forall₂_of_mapM {f : α → Option β} {as : List α} {bs : List β}
    (h : as.mapM f = some bs) : List.Forall₂ (fun a b => f a = some b) as bs := by
  induction as generalizing bs with
  | nil =>
    cases h
    exact .nil
  | cons a as ih =>
    rw [List.mapM_cons] at h
    obtain ⟨b, hb, h⟩ := Option.bind_eq_some_iff.mp h
    obtain ⟨rest, hrest, h⟩ := Option.bind_eq_some_iff.mp h
    cases h
    exact .cons hb (ih hrest)

/-- Steps in order fail at the first of them that fails, behind those that went well. -/
theorem foldlM_eq_error_iff {step : β → α → Except ε β} {as : List α} {b : β} {e : ε} :
    as.foldlM step b = .error e ↔ ∃ front a back c, as = front ++ a :: back ∧
      front.foldlM step b = .ok c ∧ step c a = .error e := by
  constructor
  · intro h
    induction as generalizing b with
    | nil => cases h
    | cons a as ih =>
      rw [List.foldlM_cons] at h
      rcases bind_eq_error_iff.mp h with hstep | ⟨c, hc, hrest⟩
      · exact ⟨[], a, as, b, rfl, rfl, hstep⟩
      · obtain ⟨front, d, back, last, rfl, hfront, hlast⟩ := ih hrest
        refine ⟨a :: front, d, back, last, rfl, ?_, hlast⟩
        rw [List.foldlM_cons, hc]
        exact hfront
  · rintro ⟨front, a, back, c, rfl, hfront, hstep⟩
    rw [List.foldlM_append]
    refine bind_eq_error_iff.mpr (.inr ⟨c, hfront, ?_⟩)
    rw [List.foldlM_cons]
    exact bind_eq_error_iff.mpr (.inl hstep)

/-- What is reported in one case escapes in the other. -/
theorem ite_eq_escaped_iff {described : Bool} {cause : ε} {d e : Escape} :
    (if described then Failure.reported cause else .escaped d) = .escaped e ↔
      described = false ∧ d = e := by
  cases described <;> simp

/-- What is reported unless something escapes. -/
theorem match_eq_escaped_iff {escape? : Option Escape} {cause : ε} {e : Escape} :
    (match escape? with
      | none => Failure.reported cause
      | some d => .escaped d) = .escaped e ↔ escape? = some e := by
  cases escape? <;> simp

/-- A computation gives a result or a report, unless something escapes from it. -/
theorem settles_iff {x : Except (Failure ε) α} :
    ((∃ a, x = .ok a) ∨ ∃ cause, x = .error (.reported cause)) ↔ ∀ e, x ≠ .error (.escaped e) := by
  cases x with
  | ok a => simp
  | error f => cases f <;> simp

/-! ## What every result has -/

/-- Every result that a computation gives has a property. It need not give any. -/
def Yields (p : α → Prop) (x : Except ε α) : Prop := ∀ a, x = .ok a → p a

namespace Yields

variable {p : α → Prop} {q : β → Prop}

theorem ok {a : α} (h : p a) : Yields p (.ok a : Except ε α) := by
  rintro _ ⟨⟩
  exact h

theorem pure {a : α} (h : p a) : Yields p (Pure.pure a : Except ε α) := ok h

theorem error (e : ε) : Yields p (.error e) := nofun

theorem throw (e : ε) : Yields p (MonadExcept.throw e : Except ε α) := error e

/-- In sequence, the second part may rely on what the first one has. -/
theorem bind {x : Except ε α} {f : α → Except ε β} (hx : Yields p x)
    (hf : ∀ a, p a → Yields q (f a)) : Yields q (x >>= f) := by
  intro b h
  obtain ⟨a, ha, hb⟩ := bind_eq_ok_iff.mp h
  exact hf a (hx a ha) b hb

/-- What the second part has alone, it has in sequence. -/
theorem andThen {x : Except ε α} {f : α → Except ε β} (hf : ∀ a, Yields q (f a)) :
    Yields q (x >>= f) :=
  bind (fun _ _ => trivial) fun a (_ : True) => hf a

/-- Behind a failure there is nothing. -/
theorem throwThen {e : ε} {f : α → Except ε β} :
    Yields q ((MonadExcept.throw e : Except ε α) >>= f) := nofun

theorem ite {c : Prop} [Decidable c] {x y : Except ε α} (hx : Yields p x) (hy : Yields p y) :
    Yields p (if c then x else y) := by
  split
  next => exact hx
  next => exact hy

theorem map {x : Except ε α} {f : α → β} (h : Yields (fun a => q (f a)) x) : Yields q (x.map f) := by
  intro b hb
  obtain ⟨a, ha, rfl⟩ := map_eq_ok_iff.mp hb
  exact h a ha

/-- What a result has, it has with other words for a failure. -/
theorem mapError {x : Except ε α} {f : ε → δ} (h : Yields p x) : Yields p (x.mapError f) :=
  fun a ha => h a (mapError_eq_ok_iff.mp ha)

/-- What every step keeps, all steps in order keep. -/
theorem foldlM {step : β → α → Except ε β} (hstep : ∀ b a, q b → Yields q (step b a))
    (as : List α) : ∀ {b : β}, q b → Yields q (as.foldlM step b) := by
  induction as with
  | nil => exact pure
  | cons a as ih => exact fun hb => bind (hstep _ a hb) fun _ => ih

end Yields

end Stencil
