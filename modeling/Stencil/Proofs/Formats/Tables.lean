import Stencil.Formats.Toml.Read
import Stencil.Proofs.Failure
import Stencil.Proofs.Value.Dict

/-!
# Tables of a document

A TOML document is read to tables in which no key stands twice and none is without a value
(`keyed_read`). So what a table has under a key does not depend on how the table is gone through, which
is what laying one table over another rests on.

The invariant is `Value.Keyed`, of everything that has been read so far. A line changes a document in
one place, behind hops that rebuild what lies around it (`keyed_hop`), and puts there what it reads for
itself (`readers`).
-/

namespace Stencil

namespace Value

/-- Whether a value is there and holds no other values. -/
def isScalar : Value → Bool
  | .null | .list _ | .tuple _ | .set _ | .dict _ | .knot .. | .back _ => false
  | _ => true

/-- A value that is there and holds no other values. -/
def Scalar (v : Value) : Prop := v.isScalar = true

/-- A value made of scalars, lists and dictionaries that repeat no key. -/
inductive Keyed : Value → Prop
  | scalar {v : Value} : Scalar v → Keyed v
  | list {xs : List Value} : (∀ v ∈ xs, Keyed v) → Keyed (.list xs)
  | dict {d : Dict} : d.Distinct → (∀ e ∈ d, Keyed e.2) → Keyed (.dict d)

namespace Keyed

theorem distinct {d : Dict} (h : Keyed (.dict d)) : d.Distinct := by
  cases h with
  | scalar h => cases h
  | dict h _ => exact h

theorem entry {d : Dict} (h : Keyed (.dict d)) : ∀ e ∈ d, Keyed e.2 := by
  cases h with
  | scalar h => cases h
  | dict _ h => exact h

theorem ne_null {v : Value} (h : Keyed v) : v ≠ .null := by
  rintro rfl
  cases h with
  | scalar h => cases h

theorem element {xs : List Value} (h : Keyed (.list xs)) : ∀ v ∈ xs, Keyed v := by
  cases h with
  | scalar h => cases h
  | list h => exact h

/-- The empty table repeats no key. -/
theorem empty : Keyed (.dict []) := .dict .nil fun _ h => nomatch h

/-- A table in which a name is given a value. -/
theorem insert {d : Dict} {v : Value} (h : Keyed (.dict d)) (hv : Keyed v) (k : Value) :
    Keyed (.dict (Dict.insert k v d)) := by
  refine .dict (h.distinct.insert k v) fun e he => ?_
  rcases Dict.value_of_mem_insert he with hnew | hold
  · rw [hnew]
    exact hv
  · exact h.entry e hold

/-- What a table has under a name. -/
theorem get? {d : Dict} {name : Text} {v : Value} (h : Keyed (.dict d))
    (hget : Dict.get? name d = some v) : Keyed v :=
  h.entry _ (Dict.mem_of_get? hget)

/-- What a table has under a name, or the empty table. -/
theorem getD {d : Dict} (h : Keyed (.dict d)) (name : Text) :
    Keyed ((Dict.get? name d).getD (.dict [])) := by
  cases hget : Dict.get? name d with
  | none => exact .empty
  | some v => exact h.get? hget

/-- A list with another last element. -/
theorem concat {xs : List Value} {v : Value} (h : ∀ x ∈ xs, Keyed x) (hv : Keyed v) :
    Keyed (.list (xs ++ [v])) := by
  refine .list fun x hx => ?_
  rcases List.mem_append.mp hx with hx | hx
  · exact h x hx
  · rw [List.mem_singleton.mp hx]
    exact hv

end Keyed

/-- Symbols are a scalar. -/
theorem scalar_ofSymbols (s : Symbols) : Scalar (ofSymbols s) := by
  rw [ofSymbols]
  split <;> rfl

end Value

namespace Toml

open Value (Keyed Scalar)

/-! ## Changes in one place -/

/-- What a change keeps, it keeps behind hops. -/
theorem keyed_hop {change : Value → Except DocumentError Value}
    (hchange : ∀ v, Keyed v → Yields Keyed (change v)) (hops : List Hop) {v : Value} (hv : Keyed v) :
    Yields Keyed (hop change hops v) := by
  fun_induction hop change hops v with
  | case1 v => exact hchange v hv
  | case2 => exact .error _
  | case3 name rest entries inner hget ih =>
    exact .bind (ih (hv.get? hget)) fun new hnew => .pure (hv.insert hnew _)
  | case4 => exact .error _
  | case5 rest elements inner hlast ih =>
    refine .bind (ih (hv.element inner (List.mem_of_getLast? hlast))) fun new hnew => .pure ?_
    exact .concat (fun x hx => hv.element x (elements.dropLast_prefix.subset hx)) hnew
  | case6 => exact .error _

/-- What hops lead to. -/
theorem keyed_land {hops : List Hop} {v w : Value} (h : land hops v = some w) (hv : Keyed v) :
    Keyed w := by
  induction hops generalizing v with
  | nil =>
    cases h
    exact hv
  | cons hop rest ih =>
    rw [land.eq_def] at h
    split at h
    next heq => cases heq
    next heq =>
      cases heq
      obtain ⟨inner, hget, hrest⟩ := Option.bind_eq_some_iff.mp h
      exact ih hrest (hv.get? hget)
    next heq =>
      cases heq
      obtain ⟨inner, hlast, hrest⟩ := Option.bind_eq_some_iff.mp h
      exact ih hrest (hv.element inner (List.mem_of_getLast? hlast))
    next => cases h

/-- Where hops lead nowhere, nothing is changed. -/
theorem not_yields_hop {change : Value → Except DocumentError Value} {hops : List Hop} {v : Value}
    (h : land hops v = none) : Yields (fun _ => False) (hop change hops v) := by
  fun_induction hop change hops v with
  | case1 v => cases h
  | case2 => exact .error _
  | case3 name rest entries inner hget ih =>
    rw [land, hget, Option.bind_some] at h
    exact .bind (ih h) fun _ hnew => hnew.elim
  | case4 => exact .error _
  | case5 rest elements inner hlast ih =>
    rw [land, hlast, Option.bind_some] at h
    exact .bind (ih h) fun _ hnew => hnew.elim
  | case6 => exact .error _

/-- What a change keeps, it keeps behind names. -/
theorem keyed_reach {change : Value → Except DocumentError Value}
    (hchange : ∀ v, Keyed v → Yields Keyed (change v)) (names : List Text) {v : Value}
    (hv : Keyed v) : Yields Keyed (reach change names v) := by
  fun_induction reach change names v with
  | case1 v => exact hchange v hv
  | case2 name rest entries ih =>
    exact .bind (ih (hv.getD name)) fun new hnew => .pure (hv.insert hnew _)
  | case3 => exact .error _

/-- A table in which a name is defined. -/
theorem keyed_define (name : Text) {v : Value} (hv : Keyed v) (table : Value) (h : Keyed table) :
    Yields Keyed (define name v table) := by
  unfold define
  split
  next => exact .ite (.error _) (.ok (h.insert hv _))
  next => exact .error _

/-- A table that lacks a name. -/
theorem keyed_lacks (name : Text) (table : Value) (h : Keyed table) :
    Yields Keyed (lacks name table) := by
  unfold lacks
  split
  next => exact .ite (.error _) (.ok h)
  next => exact .error _

/-! ## Scalars -/

/-- A text between quotes is a scalar. -/
theorem scalar_quotedText (quote : Char) (s : Text) : Yields Scalar (quotedText quote s) := by
  have hlast (x : Except DocumentError Symbols) : Yields Scalar (do
      let symbols ← x
      return Value.ofSymbols (unquoted (.char quote) symbols)) :=
    .andThen fun _ => .pure (Value.scalar_ofSymbols _)
  unfold quotedText
  refine .ite .throwThen (.ite (.ite .throwThen ?_) (hlast _))
  exact .andThen fun _ => .andThen fun _ => hlast _

/-- A number without its sign is a scalar. -/
theorem scalar_of_unsigned? {digits : Text} {v : Value} {kind : Kind}
    (h : unsigned? digits = some (v, kind)) : Scalar v := by
  have hmap {α : Type} {x : Option α} {f : α → Value} {kind' : Kind} (hf : ∀ a, Scalar (f a))
      (h : x.map (fun a => (f a, kind')) = some (v, kind)) : Scalar v := by
    obtain ⟨a, -, ha⟩ := Option.map_eq_some_iff.mp h
    cases ha
    exact hf a
  unfold unsigned? at h
  split at h
  next =>
    split at h
    next => cases h
    next =>
      split at h
      next => cases h
      next => exact hmap (f := Value.float) (fun _ => rfl) h
  next =>
    split at h
    next => cases h; rfl
    next => exact hmap (f := Value.int) (fun _ => rfl) h

/-- The opposite of a scalar is one. -/
theorem scalar_opposite {v : Value} (h : Scalar v) : Scalar (opposite v) := by
  cases v <;> exact h

/-- A number is a scalar. -/
theorem scalar_number (s : Text) : Yields (fun result => Scalar result.1) (number s) := by
  unfold number
  cases Decimal.signed s with
  | mk negative digits =>
    dsimp only
    cases hunsigned : unsigned? (digits.filter (· != '_')) with
    | none => exact .error _
    | some result =>
      refine .ok ?_
      show Scalar (if negative then opposite result.1 else result.1)
      split
      next => exact scalar_opposite (scalar_of_unsigned? hunsigned)
      next => exact scalar_of_unsigned? hunsigned

/-- A date is a scalar, and so is a date-time. -/
theorem scalar_of_dateWith? {s : Text} {micro : Int} {zone : Option Zone} {v : Value}
    (h : dateWith? s micro zone = some v) : Scalar v := by
  simp only [dateWith?, Option.bind_eq_bind] at h
  by_cases hyphen : '-' ∈ s.drop 1
  · rw [if_neg (not_not_intro hyphen)] at h
    obtain ⟨year, -, h⟩ := Option.bind_eq_some_iff.mp h
    obtain ⟨month, -, h⟩ := Option.bind_eq_some_iff.mp h
    obtain ⟨day, -, h⟩ := Option.bind_eq_some_iff.mp h
    obtain ⟨date, -, h⟩ := Option.bind_eq_some_iff.mp h
    split at h
    next => cases h; rfl
    next =>
      obtain ⟨hour, -, h⟩ := Option.bind_eq_some_iff.mp h
      obtain ⟨minute, -, h⟩ := Option.bind_eq_some_iff.mp h
      obtain ⟨second, -, h⟩ := Option.bind_eq_some_iff.mp h
      obtain ⟨clock, -, h⟩ := Option.bind_eq_some_iff.mp h
      cases h
      rfl
  · rw [if_pos hyphen] at h
    cases h

/-- A text that means a date means a scalar. -/
theorem scalar_date? (s : Text) : Yields (fun found => ∀ v, found = some v → Scalar v) (date? s) :=
  .andThen fun _ => .pure fun _ h => scalar_of_dateWith? h

/-! ## Values -/

/-- What the readers of values, arrays, inline tables and entries keep, with the fuel that they have. -/
structure Readers (fuel : Nat) : Prop where
  value : ∀ tidy s, Yields (fun result => Keyed result.1) (readValue fuel tidy s)
  elements : ∀ before parts, Yields (fun vs => ∀ v ∈ vs, Keyed v) (readElements fuel before parts)
  inline : ∀ s table, Keyed table → Yields Keyed (readInline fuel s table)
  entries : ∀ lines table, Keyed table → Yields Keyed (readEntries fuel lines table)
  entry : ∀ line table, Keyed table →
    Yields (fun result => Keyed result.1) (readEntry fuel line table)

/-- **The readers of a line repeat no key.** -/
theorem readers (fuel : Nat) : Readers fuel := by
  induction fuel with
  | zero =>
    exact ⟨fun _ _ => .error _, fun _ _ => .error _, fun _ _ _ => .error _, fun _ _ _ => .error _,
      fun _ _ _ => .error _⟩
  | succ fuel ih =>
    constructor
    · intro tidy s
      cases s with
      | nil => exact .error _
      | cons c s =>
        rw [readValue]
        refine .ite (.ok (.scalar rfl)) (.ite (.ok (.scalar rfl)) (.ite (.error _) (.ite ?_
          (.ite ?_ (.ite ?_ ?_)))))
        · exact .map fun v hv => .scalar (scalar_quotedText c (c :: s) v hv)
        · refine .andThen fun parts => .bind (ih.elements none _) fun vs hvs => .pure (.list hvs)
        · exact .map (ih.inline (c :: s) _ .empty)
        · split
          next =>
            split
            next => exact .ok (.scalar rfl)
            next => exact .error _
          next =>
            refine .bind (scalar_date? (c :: s)) fun found hfound => ?_
            split
            next v => exact .pure (.scalar (hfound v rfl))
            next => exact .ite (fun result h => .scalar (scalar_number (c :: s) result h)) (.throw _)
    · intro before parts
      cases parts with
      | nil => exact .ok fun _ h => nomatch h
      | cons part rest =>
        rw [readElements]
        refine .ite (ih.elements before rest) (.bind (ih.value true part) fun (v, kind) hv => ?_)
        refine .ite .throwThen (.bind (ih.elements (some kind) rest) fun vs hvs => .pure ?_)
        exact List.forall_mem_cons.mpr ⟨hv, hvs⟩
    · intro s table h
      rw [readInline]
      split
      next => exact .ite (.ok h) (.andThen fun lines => ih.entries lines table h)
      next => exact .andThen fun lines => ih.entries lines table h
    · intro lines table h
      cases lines with
      | nil => exact .ok h
      | cons line rest =>
        rw [readEntries]
        refine .bind (ih.entry line table h) fun (new, unfinished) hnew => ?_
        cases unfinished with
        | some _ => exact .pure hnew
        | none => exact ih.entries rest new hnew
    · intro line table h
      rw [readEntry]
      refine .andThen fun (key, value, tidy) => .andThen fun (names, name) =>
        .bind (keyed_reach (fun _ => .ok) names h) fun made hmade => .andThen fun opens => .ite ?_ ?_
      · refine .bind (keyed_reach (keyed_lacks name) names hmade) fun left hleft => ?_
        exact .ite .throwThen (.pure hleft)
      · refine .bind (ih.value tidy value) fun (v, _) hv => ?_
        exact .bind (keyed_reach (keyed_define name hv) names hmade) fun new hnew => .pure hnew

/-! ## Lines -/

/-- A document in which no table repeats a key so far. -/
def Reading.Keyed (r : Reading) : Prop := Value.Keyed r.root

namespace Reading

/-- A table in which there is a new name. -/
theorem keyed_addName (name : Text) {v : Value} (hv : Value.Keyed v) (table : Value)
    (h : Value.Keyed table) : Yields Value.Keyed (addName name v table) := by
  unfold addName
  split
  next => exact .ok (h.insert hv _)
  next => exact .error _

/-- An array of tables with one more. -/
theorem keyed_appendTable (array : Value) (h : Value.Keyed array) :
    Yields Value.Keyed (appendTable array) := by
  unfold appendTable
  split
  next => exact .ok (.concat h.element .empty)
  next => exact .error _

/-- What a header opens is empty. -/
theorem keyed_newTable (isArray : Bool) : Value.Keyed (newTable isArray) := by
  cases isArray with
  | false => exact .empty
  | true => exact .list fun v hv => by rw [List.mem_singleton.mp hv]; exact .empty

/-- A document in which the table that entries go into is changed. Where there is no such table,
there is no change. -/
theorem keyed_inTable {r : Reading} (h : r.Keyed) {α : Type} {change : Value → Except DocumentError α}
    {value : α → Value} {unfinished : α → Option Unfinished}
    (hchange : ∀ table, Value.Keyed table → Yields (fun a => Value.Keyed (value a)) (change table)) :
    Yields Keyed (do
      let a ← change ((land r.table r.root).getD .null)
      let root ← hop (fun _ => .ok (value a)) r.table r.root
      return { r with root, unfinished := unfinished a }) := by
  cases hland : land r.table r.root with
  | none => exact .andThen fun _ => .bind (not_yields_hop hland) fun _ hroot => hroot.elim
  | some table =>
    refine .bind (hchange table (keyed_land hland h)) fun a ha => ?_
    exact .bind (keyed_hop (fun _ _ => .ok ha) r.table h) fun _ hroot => .pure hroot

/-- Going into an array changes nothing. -/
theorem keyed_enterArray (r : Reading) (h : r.Keyed) : Yields Keyed r.enterArray := by
  unfold enterArray
  split
  next => exact .error _
  next => exact .error _
  next => exact .ok h
  next => exact .ok h
  next => exact .error _

/-- A name of a header. -/
theorem keyed_stepName (r : Reading) (isArray isLast : Bool) (name : Text) (h : r.Keyed) :
    Yields Keyed (r.stepName isArray isLast name) := by
  -- What is entered is gone into further where the header is one of an array.
  have hgoes {x : Except DocumentError Reading} (hx : Yields Keyed x) : Yields Keyed (do
      let entered ← x
      if isArray then entered.enterArray else return entered) :=
    .bind hx fun entered hentered => .ite (keyed_enterArray entered hentered) (.pure hentered)
  have hnew (hops : List Hop) (isArray : Bool) : Yields Value.Keyed
      (hop (addName name (newTable isArray)) hops r.root) :=
    keyed_hop (keyed_addName name (keyed_newTable isArray)) hops h
  unfold stepName
  refine .ite .throwThen ?_
  dsimp only
  split
  next =>
    split
    next =>
      refine .ite (hgoes (.ok h)) (.ite (.ite (hgoes (.error _)) (hgoes (.ok h))) (.ite ?_ ?_))
      · exact .bind (keyed_hop keyed_appendTable _ h) fun _ hroot => hgoes (.ok hroot)
      · exact hgoes (.error _)
    next => exact .bind (hnew _ _) fun _ hroot => hgoes (.ok hroot)
  next =>
    split
    next => exact hgoes (.error _)
    next => exact .ite (hgoes (.ok h)) (.bind (hnew _ _) fun _ hroot => hgoes (.ok hroot))
    next => exact hgoes (.error _)
  next => exact hgoes (.error _)
  next => exact hgoes (.error _)

/-- The names of a header. -/
theorem keyed_stepNames (isArray : Bool) (names : List Text) (r : Reading) (h : r.Keyed) :
    Yields Keyed (stepNames isArray names r) := by
  induction names generalizing r with
  | nil => exact .ok h
  | cons name rest ih => exact .bind (keyed_stepName r isArray rest.isEmpty name h) ih

/-- A header line. -/
theorem keyed_stepHeader (r : Reading) (line : Text) (h : r.Keyed) :
    Yields Keyed (r.stepHeader line) := by
  unfold stepHeader
  split
  next => exact .andThen fun names => keyed_stepNames true names _ h
  next => exact .andThen fun names => keyed_stepNames false names _ h
  next => exact .throw _

/-- A line that is no header. -/
theorem keyed_stepEntry (r : Reading) (line : Text) (h : r.Keyed) :
    Yields Keyed (r.stepEntry line) := by
  unfold stepEntry
  exact .ite (.pure h) (keyed_inTable h fun table => (readers _).entry line table)

/-- A line of a text that spans lines. -/
theorem keyed_stepText (r : Reading) (u : Unfinished) (line : Text) (h : r.Keyed) :
    Yields Keyed (r.stepText u line) := by
  unfold stepText
  refine .andThen fun closed => .ite ?_ (.pure h)
  refine .bind ((readers _).value true _) fun (v, _) hv => ?_
  exact .bind (keyed_hop (keyed_addName u.name hv) r.table h) fun _ hroot => .pure hroot

/-- A line. -/
theorem keyed_stepLine (r : Reading) (line : Text) (h : r.Keyed) :
    Yields Keyed (r.stepLine line) := by
  unfold stepLine
  split
  next u _ => exact .ite (.pure h) (keyed_stepText r u _ h)
  next =>
    split
    next => exact .pure h
    next => exact keyed_stepHeader r _ h
    next =>
      exact .ite .throwThen (keyed_inTable h fun table => (readers _).inline _ table)
    next => exact keyed_stepEntry r _ h

end Reading

/-- **A document is read to tables that repeat no key.** -/
theorem keyed_read (s : Text) : Yields Keyed (read s) :=
  .andThen fun _ => .bind (.foldlM (fun r line h => Reading.keyed_stepLine r line h) _ .empty)
    fun _ h => .pure h

end Toml

end Stencil
