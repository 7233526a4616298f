import Mathlib.Data.List.Forall2
import Stencil.Value.Basic

/-!
# Shapes of values

Two values have the same shape when whatever way is taken into both of them leads to values that are
`Alike`: both nothing, both plain and equally true, both sequences of one length, or both
dictionaries and equally true. A way goes through text keys of dictionaries and places of sequences,
and it exists in both values or in neither. A shape says nothing of what plain values are.

Stated by ways, the law needs no recursion over values and so covers values that hold themselves.
`sameShape_iff` unrolls it by one step. `Linked` values are those that one way leads to; a step into
them leads to linked values again (`Linked.follow`), which is how a shape is carried through a
template.
-/

namespace Stencil

/-- A step into a value. -/
inductive Hop where
  | field (name : Text)
  | index (n : Nat)
deriving DecidableEq, Repr

/-- A way into a value, the first step first. -/
abbrev Route := List Hop

namespace Value

/-- The value that a step leads to. -/
def follow (v : Value) : Hop → Option Value
  | .field name => v.entries?.bind (Dict.get? name)
  | .index n => v.elements?.bind (·[n]?)

/-- The value that a way leads to. -/
def at? (v : Value) (route : Route) : Option Value := route.foldlM follow v

/-- A value that is neither nothing nor a sequence nor a dictionary. -/
structure IsPlain (v : Value) : Prop where
  ne_null : v ≠ .null
  elements : v.elements? = none
  entries : v.entries? = none

/-- Values that a template cannot tell apart without a step into them. -/
inductive Alike (v w : Value) : Prop
  | null : v = .null → w = .null → Alike v w
  | plain : v.IsPlain → w.IsPlain → v.truthy = w.truthy → Alike v w
  | sequence {xs ys : List Value} : v.elements? = some xs → w.elements? = some ys →
      xs.length = ys.length → Alike v w
  | dictionary {d e : Dict} : v.entries? = some d → w.entries? = some e →
      v.truthy = w.truthy → Alike v w

/-- Every way leads to alike values in both, or exists in neither. -/
def SameShape (v w : Value) : Prop := ∀ route, Option.Rel Alike (v.at? route) (w.at? route)

/-! ## Kinds of values -/

/-- A sequence counts as true when it has elements, also where it holds itself. -/
theorem truthy_of_elements? {v : Value} {xs : List Value} (h : v.elements? = some xs) :
    v.truthy = !xs.isEmpty := by
  have hopened : ∀ n whole ys, (tiedElements n whole ys).isEmpty = ys.isEmpty := by
    intro n whole ys
    cases ys <;> rfl
  unfold elements? at h
  cases v with
  | list ys | tuple ys =>
    cases h
    rfl
  | knot n inner =>
    cases inner with
    | list ys | tuple ys =>
      cases h
      rw [hopened]
      rfl
    | back m =>
      -- A knot that is nothing but itself opens to itself, which is no sequence.
      simp only [untied, tied] at h
      by_cases hm : m = n <;> simp [hm] at h
    | _ => cases h
  | _ => cases h

/-- No dictionary is a sequence. -/
theorem elements?_of_entries? {v : Value} {d : Dict} (h : v.entries? = some d) :
    v.elements? = none := by
  unfold entries? at h
  unfold elements?
  split at h
  next hv => rw [hv]
  next => cases h

/-- No dictionary is nothing. -/
theorem ne_null_of_entries? {v : Value} {d : Dict} (h : v.entries? = some d) : v ≠ .null := by
  rintro rfl
  cases h

/-- No sequence is nothing. -/
theorem ne_null_of_elements? {v : Value} {xs : List Value} (h : v.elements? = some xs) :
    v ≠ .null := by
  rintro rfl
  cases h

namespace Alike

variable {v w : Value}

/-- Alike values are equally true. -/
theorem truthy (h : Alike v w) : v.truthy = w.truthy := by
  cases h with
  | null hv hw => rw [hv, hw]
  | plain _ _ htrue => exact htrue
  | @sequence xs ys hv hw hlen =>
    rw [truthy_of_elements? hv, truthy_of_elements? hw]
    cases xs <;> cases ys <;> simp_all
  | dictionary _ _ htrue => exact htrue

/-- Of alike values both are nothing or neither is. -/
theorem eq_null_iff (h : Alike v w) : v = .null ↔ w = .null := by
  cases h with
  | null hv hw => exact iff_of_true hv hw
  | plain hv hw _ => exact iff_of_false hv.ne_null hw.ne_null
  | sequence hv hw _ => exact iff_of_false (ne_null_of_elements? hv) (ne_null_of_elements? hw)
  | dictionary hv hw _ => exact iff_of_false (ne_null_of_entries? hv) (ne_null_of_entries? hw)

/-- Of alike values both are sequences of one length or neither is a sequence. -/
theorem elements? (h : Alike v w) :
    Option.Rel (fun xs ys => xs.length = ys.length) v.elements? w.elements? := by
  cases h with
  | null hv hw =>
    subst hv hw
    exact .none
  | plain hv hw _ =>
    rw [hv.elements, hw.elements]
    exact .none
  | sequence hv hw hlen =>
    rw [hv, hw]
    exact .some hlen
  | dictionary hv hw _ =>
    rw [elements?_of_entries? hv, elements?_of_entries? hw]
    exact .none

end Alike

/-! ## Ways -/

/-- Where two options are empty together, another relation holds of them when it holds of what is in
them. -/
theorem rel_of_forall_some {α β : Type} {R S : α → β → Prop} {x : Option α} {y : Option β}
    (h : Option.Rel R x y) (hsome : ∀ a b, x = some a → y = some b → S a b) :
    Option.Rel S x y := by
  cases h with
  | none => exact .none
  | some _ => exact .some (hsome _ _ rfl rfl)

/-- A way is its first step and then the rest. -/
theorem at?_cons (v : Value) (hop : Hop) (route : Route) :
    v.at? (hop :: route) = (v.follow hop).bind fun w => w.at? route := rfl

/-- A way is all but its last step and then the last. -/
theorem at?_append_singleton (v : Value) (route : Route) (hop : Hop) :
    v.at? (route ++ [hop]) = (v.at? route).bind fun w => w.follow hop := by
  rw [at?, List.foldlM_append]
  simp only [List.foldlM_cons, List.foldlM_nil, bind_pure]
  rfl

/-- **A shape is what the values are, and the shapes of what each step leads to.** -/
theorem sameShape_iff {v w : Value} :
    v.SameShape w ↔ Alike v w ∧ ∀ hop, Option.Rel SameShape (v.follow hop) (w.follow hop) := by
  constructor
  · intro h
    have hhere : Alike v w := by
      cases h [] with
      | some halike => exact halike
    refine ⟨hhere, fun hop => ?_⟩
    have hthere : ∀ route, Option.Rel Alike ((v.follow hop).bind fun x => x.at? route)
        ((w.follow hop).bind fun y => y.at? route) := fun route => h (hop :: route)
    have hstep : Option.Rel Alike (v.follow hop) (w.follow hop) := by
      simpa only [at?, List.foldlM_nil, Option.pure_def, Option.bind_fun_some] using hthere []
    refine rel_of_forall_some hstep fun x y hx hy => ?_
    rw [hx, hy] at hthere
    exact hthere
  · rintro ⟨hhere, hnext⟩ route
    cases route with
    | nil => exact .some hhere
    | cons hop route =>
      rw [at?_cons, at?_cons]
      have hstep := hnext hop
      generalize v.follow hop = x, w.follow hop = y at hstep
      cases hstep with
      | none => exact .none
      | some hshape => exact hshape route

/-- Plain values that are equally true have the same shape. -/
theorem IsPlain.sameShape {v w : Value} (hv : v.IsPlain) (hw : w.IsPlain)
    (htrue : v.truthy = w.truthy) : v.SameShape w := by
  refine sameShape_iff.mpr ⟨.plain hv hw htrue, fun hop => ?_⟩
  cases hop with
  | field name =>
    rw [follow, follow, hv.entries, hw.entries]
    exact .none
  | index n =>
    rw [follow, follow, hv.elements, hw.elements]
    exact .none

/-- Sequences of one length have the same shape when their elements have. -/
theorem sameShape_of_elements? {v w : Value} {xs ys : List Value} (hv : v.elements? = some xs)
    (hw : w.elements? = some ys) (h : List.Forall₂ SameShape xs ys) : v.SameShape w := by
  refine sameShape_iff.mpr ⟨.sequence hv hw h.length_eq, fun hop => ?_⟩
  cases hop with
  | field name =>
    have hnone : ∀ {u : Value} {us : List Value}, u.elements? = some us → u.entries? = none := by
      intro u us hu
      cases hentries : u.entries? with
      | none => rfl
      | some d => simp [elements?_of_entries? hentries] at hu
    rw [follow, follow, hnone hv, hnone hw]
    exact .none
  | index n =>
    rw [follow, follow, hv, hw, Option.bind_some, Option.bind_some]
    clear hv hw
    induction h generalizing n with
    | nil => exact .none
    | cons hxy _ ih =>
      cases n with
      | zero => exact .some hxy
      | succ n => exact ih n

/-- Dictionaries that are equally true have the same shape when their fields have. -/
theorem sameShape_of_entries? {v w : Value} {d e : Dict} (hv : v.entries? = some d)
    (hw : w.entries? = some e) (htrue : v.truthy = w.truthy)
    (h : ∀ name, Option.Rel SameShape (d.get? name) (e.get? name)) : v.SameShape w := by
  refine sameShape_iff.mpr ⟨.dictionary hv hw htrue, fun hop => ?_⟩
  cases hop with
  | field name =>
    rw [follow, follow, hv, hw]
    exact h name
  | index n =>
    rw [follow, follow, elements?_of_entries? hv, elements?_of_entries? hw]
    exact .none

/-- Dictionaries of one field have the same shape when its values have. -/
theorem sameShape_dict_singleton (name : Text) {v w : Value} (h : v.SameShape w) :
    (dict [(text name, v)]).SameShape (dict [(text name, w)]) := by
  refine sameShape_of_entries? rfl rfl rfl fun key => ?_
  simp only [Dict.get?]
  split
  next => exact .some h
  next => exact .none

/-! ## Values that one way leads to -/

/-- Values that one and the same way leads to in each of two. -/
def Linked (whole other : Value) (v w : Value) : Prop :=
  ∃ route, whole.at? route = some v ∧ other.at? route = some w

namespace Linked

variable {whole other v w : Value}

/-- Two values are linked to themselves by the way of no step. -/
theorem refl (whole other : Value) : Linked whole other whole other := ⟨[], rfl, rfl⟩

/-- Linked values of the same shapes are alike. -/
theorem alike (hshape : whole.SameShape other) (h : Linked whole other v w) : Alike v w := by
  obtain ⟨route, hv, hw⟩ := h
  have hhere := hshape route
  rw [hv, hw] at hhere
  cases hhere with
  | some halike => exact halike

/-- A step from linked values leads to linked values, or nowhere in either. -/
theorem follow (hshape : whole.SameShape other) (h : Linked whole other v w) (hop : Hop) :
    Option.Rel (Linked whole other) (v.follow hop) (w.follow hop) := by
  obtain ⟨route, hv, hw⟩ := h
  have hwhole : whole.at? (route ++ [hop]) = v.follow hop := by
    rw [at?_append_singleton, hv, Option.bind_some]
  have hother : other.at? (route ++ [hop]) = w.follow hop := by
    rw [at?_append_singleton, hw, Option.bind_some]
  have hthere := hshape (route ++ [hop])
  rw [hwhole, hother] at hthere
  exact rel_of_forall_some hthere fun x y hx hy =>
    ⟨route ++ [hop], hwhole.trans hx, hother.trans hy⟩

/-- The elements of linked values are linked one by one. -/
theorem elements (hshape : whole.SameShape other) (h : Linked whole other v w) :
    List.Forall₂ (Linked whole other) (v.elements?.getD []) (w.elements?.getD []) := by
  have hindex : ∀ n : Nat, Option.Rel (Linked whole other) (v.elements?.bind (·[n]?))
      (w.elements?.bind (·[n]?)) := fun n => h.follow hshape (.index n)
  have hlength := (h.alike hshape).elements?
  generalize v.elements? = xs, w.elements? = ys at hindex hlength
  cases hlength with
  | none => exact .nil
  | @some xs ys hlength =>
    rw [Option.getD_some, Option.getD_some]
    refine List.forall₂_iff_get.mpr ⟨hlength, fun n hx hy => ?_⟩
    have hn := hindex n
    rw [Option.bind_some, Option.bind_some, List.getElem?_eq_getElem hx,
      List.getElem?_eq_getElem hy] at hn
    cases hn with
    | some hlinked => exact hlinked

end Linked

end Value

end Stencil
