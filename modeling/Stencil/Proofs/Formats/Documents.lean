import Stencil.Context
import Stencil.Proofs.Formats.Tables
import Stencil.Proofs.Value.Keys

/-!
# Dictionaries of documents

Whatever the format, a document that is read to a dictionary is read to one that repeats no key. In JSON
and TOML the entries are put into a dictionary one by one. In YAML they are numbers of nodes while the
document is read, and become keys and values only when it is unfolded; so there the law is one of the
nodes: the values of two keys of a mapping are not the same (`Apart`), and a value that a key has been
given stays as it is whatever is read behind it (`Grows`).
-/

namespace Stencil

/-- A value that repeats no key, if it is a dictionary. -/
def Value.Regular (v : Value) : Prop := ∀ d, v.entries? = some d → d.Distinct

theorem Value.regular_of_entries? {v : Value} (h : v.entries? = none) : v.Regular := by
  intro d hd
  rw [h] at hd
  cases hd

theorem Value.regular_dict {d : Dict} (h : d.Distinct) : (Value.dict d).Regular := by
  rintro _ ⟨⟩
  exact h

theorem Value.entries?_ofSymbols (s : Symbols) : (Value.ofSymbols s).entries? = none := by
  rw [ofSymbols]
  split <;> rfl

theorem entries?_readInteger (negative : Bool) (digits : Text) :
    Yields (fun v => v.entries? = none) (readInteger negative digits) :=
  .ite (.error _) (.ok rfl)

/-! ## JSON -/

namespace Json

theorem entries?_number (negative : Bool) (s : Text) :
    Yields (fun r => r.1.entries? = none) (number negative s) := by
  unfold number
  extract_lets behind
  have hbehind : ∀ r, Yields (fun r => r.1.entries? = none) (behind r) := by
    rintro ⟨whole, rest⟩
    refine .ite ?_ (.pure rfl)
    exact .bind (entries?_readInteger negative whole) fun v hv => .pure hv
  split
  next => exact .andThen hbehind
  next =>
    split
    next => exact .andThen hbehind
    next => exact .andThen hbehind

/-- A value of one word is no dictionary. -/
theorem entries?_scalar (s : Text) : Yields (fun r => r.1.entries? = none) (scalar s) := by
  unfold scalar
  split
  next found hfound =>
    refine .ok ?_
    obtain ⟨⟨word, v⟩, hmem, hword⟩ := List.exists_of_findSome?_eq_some hfound
    obtain ⟨rest, -, rfl⟩ := Option.map_eq_some_iff.mp hword
    have hwords : ∀ w ∈ words, w.2.entries? = none := by simp [words, Value.entries?, Value.untied]
    exact hwords _ hmem
  next =>
    split
    next => exact entries?_number true _
    next => exact entries?_number false _

theorem regular_value (fuel : Nat) (s : Text) :
    Yields (fun r => r.1.Regular) (value fuel s) := by
  cases fuel with
  | zero => exact .error _
  | succ fuel =>
    unfold value
    split
    next =>
      split
      next content _ _ => exact .ok (Value.regular_of_entries? (Value.entries?_ofSymbols _))
      next => exact .error _
    next =>
      split
      next => exact .ok (Value.regular_of_entries? rfl)
      next => exact .andThen fun _ => .pure (Value.regular_of_entries? rfl)
    next =>
      split
      next => exact .ok (Value.regular_dict .nil)
      next => exact .andThen fun _ => .pure (Value.regular_dict (Dict.Distinct.update .nil _))
    next => exact fun r hr => Value.regular_of_entries? (entries?_scalar s r hr)

/-- An object repeats no key. -/
theorem regular_read (s : Text) : Yields Value.Regular (read s) :=
  .bind (regular_value _ _) fun _ hv => .ite (.pure hv) (.throw _)

end Json

/-! ## TOML -/

/-- A document repeats no key. -/
theorem Toml.regular_read (s : Text) : Yields Value.Regular (read s) := by
  intro v hv
  cases keyed_read s v hv with
  | scalar h =>
    refine Value.regular_of_entries? ?_
    cases v <;> first | rfl | cases h
  | list _ => exact Value.regular_of_entries? rfl
  | dict hdistinct _ => exact Value.regular_dict hdistinct

/-! ## YAML -/

namespace Yaml

theorem entries?_readStamp (s : Text) : Yields (fun v => v.entries? = none) (readStamp s) := by
  unfold readStamp
  split
  next => exact .throw _
  next =>
    split
    next => exact .throw _
    next =>
      split
      next => exact .pure rfl
      next =>
        split
        next => exact .throw _
        next => exact .andThen fun _ => .pure rfl

/-- A scalar is no dictionary. -/
theorem entries?_readScalar (tag : Tag) (s : Symbols) :
    Yields (fun v => v.entries? = none) (readScalar tag s) := by
  cases tag with
  | null => exact .ok rfl
  | bool => exact .ite (.ok rfl) (.ite (.ok rfl) (.error _))
  | int =>
    refine .ite (.error _) ?_
    split
    next => exact .error _
    next => exact .ok rfl
  | float =>
    refine .ite (.error _) (.ite (.ok rfl) (.ite (.andThen fun _ => .pure rfl) (.ite ?_ ?_)))
    · exact .andThen fun _ => .andThen fun _ => .pure rfl
    · exact .andThen fun _ => .pure rfl
  | binary =>
    refine .ite ?_ (.error _)
    split
    next => exact .error _
    next => exact .ok rfl
  | timestamp => exact entries?_readStamp _
  | text => exact .ok (Value.entries?_ofSymbols s)
  | list | map | set | pairs | merge | value | other => exact .error _

namespace Maker

theorem entries?_datumOf (g : Graph) (id : Nat) :
    Yields (fun v => v.entries? = none) (datumOf g id) := by
  unfold datumOf
  refine .ite .throwThen (.andThen fun s => ?_)
  split
  next => exact .throw _
  next => exact entries?_readScalar _ s

/-! ### What has been made -/

/-- The value of a node, if it has been made and is no collection. -/
def datum? (made : Array (Option Made)) (id : Nat) : Option Value :=
  match made.getD id none with
  | some (.datum v) => some v
  | _ => none

/-- The keys of some entries have values, and no two of those are the same key. -/
structure Apart (made : Array (Option Made)) (entries : Entries) : Prop where
  known : ∀ e ∈ entries, ∃ v, datum? made e.1 = some v
  apart : entries.Pairwise fun e f =>
    ∀ v w, datum? made e.1 = some v → datum? made f.1 = some w → v.sameKey w = false

/-- The mappings that have been made have keys that are not the same, and values that are no collections
are no dictionaries. -/
structure Sound (made : Array (Option Made)) : Prop where
  apart : ∀ id entries, made.getD id none = some (.dict entries) → Apart made entries
  plain : ∀ id v, datum? made id = some v → v.entries? = none

/-- Whatever had been made is still there, and values are what they were; collections may have been
filled. -/
structure Grows (made made' : Array (Option Made)) : Prop where
  size : made'.size = made.size
  kept : ∀ id, made.getD id none ≠ none → made'.getD id none ≠ none ∧ datum? made' id = datum? made id

section Made

variable {made made' made'' : Array (Option Made)} {id : Nat} {v : Value} {entries : Entries}

theorem Grows.refl (made : Array (Option Made)) : Grows made made := ⟨rfl, fun _ h => ⟨h, rfl⟩⟩

theorem Grows.trans (h : Grows made made') (h' : Grows made' made'') : Grows made made'' := by
  refine ⟨h'.size.trans h.size, fun id hid => ?_⟩
  obtain ⟨hthere, hsame⟩ := h.kept id hid
  obtain ⟨hthere', hsame'⟩ := h'.kept id hthere
  exact ⟨hthere', hsame'.trans hsame⟩

theorem datum?_eq_some_iff : datum? made id = some v ↔ made.getD id none = some (.datum v) := by
  unfold datum?
  split
  next w hw => simp [hw]
  next hother => exact iff_of_false nofun (hother v)

theorem Grows.datum? (h : Grows made made') (hv : datum? made id = some v) :
    datum? made' id = some v := by
  have hthere : made.getD id none ≠ none := by
    rw [datum?_eq_some_iff.mp hv]
    nofun
  exact (h.kept id hthere).2.trans hv

theorem Apart.nil : Apart made [] := ⟨(fun _ h => nomatch h), .nil⟩

/-- Keys that are not the same stay so. -/
theorem Apart.grows (h : Apart made entries) (hgrows : Grows made made') : Apart made' entries := by
  refine ⟨fun e he => ?_, h.apart.imp_of_mem fun {e f} he hf hef v w hv hw => ?_⟩
  · obtain ⟨v, hv⟩ := h.known e he
    exact ⟨v, hgrows.datum? hv⟩
  · obtain ⟨v', hv'⟩ := h.known e he
    obtain ⟨w', hw'⟩ := h.known f hf
    cases hv.symm.trans (hgrows.datum? hv')
    cases hw.symm.trans (hgrows.datum? hw')
    exact hef v w hv' hw'

/-- Every node but the one that is set has what it had. -/
theorem getD_setIfInBounds (made : Array (Option Made)) (id other : Nat) (m : Made) :
    (made.setIfInBounds id (some m)).getD other none =
      if id = other ∧ id < made.size then some m else made.getD other none := by
  rw [Array.getD_eq_getD_getElem?, Array.getD_eq_getD_getElem?, Array.getElem?_setIfInBounds]
  by_cases hid : id = other
  · subst hid
    by_cases hlt : id < made.size
    · simp [hlt]
    · simp [hlt]
  · simp [hid]

/-- What a node may be given: anything when nothing has been made of it, and other content when it is a
collection. -/
structure Fits (made : Array (Option Made)) (id : Nat) (m : Made) : Prop where
  collection : made.getD id none ≠ none → Maker.datum? made id = none ∧ ∀ v, m ≠ .datum v
  apart : ∀ entries, m = .dict entries → Apart made entries
  plain : ∀ v, m = .datum v → v.entries? = none

/-- What had been made stays when a node is given what it may be given. -/
theorem Fits.grows {m : Made} (h : Fits made id m) : Grows made (made.setIfInBounds id (some m)) := by
  refine ⟨Array.size_setIfInBounds, fun other hother => ?_⟩
  unfold Maker.datum?
  rw [getD_setIfInBounds]
  split
  next hid =>
    obtain ⟨rfl, -⟩ := hid
    obtain ⟨hnone, hm⟩ := h.collection hother
    refine ⟨nofun, Eq.trans ?_ hnone.symm⟩
    cases m with
    | datum v => exact absurd rfl (hm v)
    | _ => rfl
  next => exact ⟨hother, rfl⟩

theorem Fits.sound {m : Made} (h : Fits made id m) (hs : Sound made) :
    Sound (made.setIfInBounds id (some m)) := by
  constructor
  · intro other entries hother
    rw [getD_setIfInBounds] at hother
    split at hother
    next => exact (h.apart entries (Option.some.inj hother)).grows h.grows
    next => exact (hs.apart other entries hother).grows h.grows
  · intro other v hother
    rw [datum?_eq_some_iff, getD_setIfInBounds] at hother
    split at hother
    next => exact h.plain v (Option.some.inj hother)
    next => exact hs.plain other v (datum?_eq_some_iff.mpr hother)

end Made

/-! ### Steps -/

/-- A step that goes well keeps what has been made, and ends with a property. -/
def Steps {α : Type} (p : α → Making → Prop) (step : Maker α) (s : Making) : Prop :=
  Sound s.made →
    Yields (fun r => Sound r.2.made ∧ Grows s.made r.2.made ∧ p r.1 r.2) (step.run s)

namespace Steps

variable {α β γ : Type} {p : α → Making → Prop} {q : β → Making → Prop} {s : Making}

theorem pure {a : α} (h : p a s) : Steps p (Pure.pure a) s :=
  fun hs => Yields.pure ⟨hs, .refl _, h⟩

theorem throw {e : DocumentError} : Steps p (MonadExcept.throw e) s := fun _ => Yields.error e

/-- In sequence, the second step may rely on what the first one ends with. -/
theorem bind {step : Maker α} {next : α → Maker β} (h : Steps p step s)
    (hnext : ∀ a t, Grows s.made t.made → p a t → Steps q (next a) t) :
    Steps q (step >>= next) s := by
  intro hs
  rw [StateT.run_bind]
  refine Yields.bind (h hs) fun (a, t) ⟨ht, hgrows, hp⟩ => ?_
  exact fun r hr => (hnext a t hgrows hp ht r hr).imp_right (And.imp_left hgrows.trans)

/-- A step of which the result does not count. -/
theorem discard {step : Maker α} (h : Steps p step s) :
    Steps (fun _ t => ∃ a, p a t) (Functor.discard step) s := by
  have hbind : Functor.discard step = step >>= fun _ => Pure.pure ⟨⟩ := by
    rw [Functor.discard, LawfulFunctor.map_const]
    exact map_eq_pure_bind _ _
  rw [hbind]
  exact .bind h fun a _ _ ha => .pure ⟨a, ha⟩

/-- Looking at the state is no step. -/
theorem get {next : Making → Maker β} (h : Steps q (next s) s) :
    Steps q (MonadState.get >>= next) s := h

/-- A step of its own, of which nothing is made. -/
theorem lift {p : α → Prop} {x : Except DocumentError α} (h : Yields p x) :
    Steps (fun a t => t = s ∧ p a) (liftM x : Maker α) s := by
  intro hs r hr
  cases x with
  | error e => cases hr
  | ok a =>
    cases hr
    exact ⟨hs, .refl _, rfl, h a rfl⟩

/-- Other parts of the state may be changed. -/
theorem set {t : Making} {p : PUnit → Making → Prop} (ht : t.made = s.made) (h : p ⟨⟩ t) :
    Steps p (MonadStateOf.set t : Maker PUnit) s := by
  rintro hs _ ⟨⟩
  exact ⟨ht ▸ hs, ht ▸ .refl _, h⟩

theorem modify {f : Making → Making} {p : PUnit → Making → Prop} (hf : (f s).made = s.made)
    (h : p ⟨⟩ (f s)) : Steps p (modify f : Maker PUnit) s := by
  rintro hs _ ⟨⟩
  exact ⟨hf ▸ hs, hf ▸ .refl _, h⟩

theorem mono {weaker : α → Making → Prop} {step : Maker α} (h : Steps p step s)
    (himp : ∀ a t, p a t → weaker a t) : Steps weaker step s :=
  fun hs r hr => (h hs r hr).imp_right (And.imp_right (himp r.1 r.2))

/-- What every step of some keeps, all of them in order keep. -/
theorem forM {step : γ → Maker PUnit} (h : ∀ c s, Steps (fun _ _ => True) (step c) s) (cs : List γ) :
    ∀ s, Steps (fun _ _ => True) (cs.forM step) s := by
  induction cs with
  | nil => exact fun s => .pure trivial
  | cons c cs ih => exact fun s => .bind (h c s) fun _ t _ _ => ih t

theorem mapM {step : γ → Maker α} (h : ∀ c s, Steps (fun _ _ => True) (step c) s) (cs : List γ) :
    ∀ s, Steps (fun _ _ => True) (cs.mapM step) s := by
  induction cs with
  | nil => exact fun s => .pure trivial
  | cons c cs ih =>
    intro s
    rw [List.mapM_cons]
    exact .bind (h c s) fun _ t _ _ => .bind (ih t) fun _ _ _ _ => .pure trivial

/-- What every step keeps, all steps in order keep, if what has been made does not lose it. -/
theorem foldlM {i : Array (Option Made) → β → Prop} {step : β → γ → Maker β}
    (h : ∀ b c s, i s.made b → Steps (fun b t => i t.made b) (step b c) s) (cs : List γ) :
    ∀ b s, i s.made b → Steps (fun b t => i t.made b) (cs.foldlM step b) s := by
  induction cs with
  | nil => exact fun b s hb => .pure hb
  | cons c cs ih =>
    intro b s hb
    rw [List.foldlM_cons]
    exact .bind (h b c s hb) fun b t _ hb => ih b t hb

end Steps

/-- A node is given what it may be given. -/
theorem steps_setMade {id : Nat} {m : Made} {s : Making} (h : Fits s.made id m) :
    Steps (fun _ _ => True) (setMade id m) s := by
  rintro hs _ ⟨⟩
  exact ⟨h.sound hs, h.grows, trivial⟩

theorem steps_make (id : Nat) (s : Making) : Steps (fun _ _ => True) (make id) s := by
  unfold make made?
  refine .get ?_
  split
  next => exact .pure trivial
  next hmissing =>
    have hnone : s.made.getD id none = none := Option.not_isSome_iff_eq_none.mp hmissing
    refine .get ?_
    dsimp only
    split
    next collection hcollection =>
      have hempty : (∀ entries, collection = .dict entries → entries = []) ∧
          ∀ v, collection ≠ .datum v := by
        unfold emptyOf at hcollection
        split at hcollection <;> cases hcollection <;> simp
      refine .bind (steps_setMade ⟨fun h => absurd hnone h, fun entries h => ?_, fun v h => ?_⟩) ?_
      · rw [hempty.1 entries h]
        exact .nil
      · exact absurd h (hempty.2 v)
      · exact fun _ t _ _ => .modify rfl trivial
    next =>
      refine .bind (.lift (entries?_datumOf _ id)) ?_
      rintro v t - ⟨rfl, hv⟩
      refine steps_setMade ⟨fun h => absurd hnone h, nofun, ?_⟩
      rintro _ ⟨⟩
      exact hv

/-- The value of a key is that of its node. -/
theorem steps_keyValue (id : Nat) (s : Making) :
    Steps (fun v t => t = s ∧ datum? s.made id = some v) (keyValue id) s := by
  unfold keyValue made?
  refine .get ?_
  split
  next v hv => exact .pure ⟨rfl, datum?_eq_some_iff.mpr hv⟩
  next => exact .throw

/-- An entry with a new key stands apart from the others, and one with a key that is there takes its
place. -/
theorem steps_insertEntry {k v : Nat} {s : Making} {w : Value} (hk : datum? s.made k = some w)
    (entries : Entries) (h : Apart s.made entries) :
    Steps (fun new t => t = s ∧ Apart s.made new ∧ ∀ e ∈ new, e.1 = k ∨ ∃ f ∈ entries, e.1 = f.1)
      (insertEntry k v entries) s := by
  induction entries with
  | nil =>
    refine .pure ⟨rfl, ⟨?_, List.pairwise_singleton _ _⟩, ?_⟩
    · exact List.forall_mem_singleton.mpr ⟨w, hk⟩
    · exact List.forall_mem_singleton.mpr (.inl rfl)
  | cons entry rest ih =>
    obtain ⟨l, u⟩ := entry
    obtain ⟨⟨x, hl⟩, hknown⟩ := List.forall_mem_cons.mp h.known
    obtain ⟨hapart, hrest⟩ := List.pairwise_cons.mp h.apart
    have hplaced : Steps (fun new t => t = s ∧ Apart s.made new ∧
        ∀ e ∈ new, e.1 = k ∨ ∃ f ∈ (l, u) :: rest, e.1 = f.1) (pure ((l, v) :: rest)) s := by
      refine .pure ⟨rfl, ⟨?_, List.pairwise_cons.mpr ⟨hapart, hrest⟩⟩, fun e he => .inr ?_⟩
      · exact List.forall_mem_cons.mpr ⟨⟨x, hl⟩, hknown⟩
      · rcases List.mem_cons.mp he with rfl | he
        · exact ⟨_, List.mem_cons_self, rfl⟩
        · exact ⟨e, List.mem_cons_of_mem _ he, rfl⟩
    have hbehind (hother : w.sameKey x = false) : Steps (fun new t => t = s ∧ Apart s.made new ∧
        ∀ e ∈ new, e.1 = k ∨ ∃ f ∈ (l, u) :: rest, e.1 = f.1)
        (do return (l, u) :: (← insertEntry k v rest)) s := by
      refine .bind (ih ⟨hknown, hrest⟩) ?_
      rintro new t - ⟨rfl, hnew, hkeys⟩
      refine .pure ⟨rfl, ⟨List.forall_mem_cons.mpr ⟨⟨x, hl⟩, hnew.known⟩, ?_⟩, ?_⟩
      · refine List.pairwise_cons.mpr ⟨fun e he a b ha hb => ?_, hnew.apart⟩
        cases hl.symm.trans ha
        rcases hkeys e he with hkey | ⟨f, hf, hkey⟩
        · rw [hkey] at hb
          cases hk.symm.trans hb
          rw [Value.sameKey_comm, hother]
        · rw [hkey] at hb
          exact hapart f hf x b hl hb
      · refine List.forall_mem_cons.mpr ⟨.inr ⟨_, List.mem_cons_self, rfl⟩, fun e he => ?_⟩
        rcases hkeys e he with hkey | ⟨f, hf, hkey⟩
        · exact .inl hkey
        · exact .inr ⟨f, List.mem_cons_of_mem _ hf, hkey⟩
    rw [insertEntry]
    refine .bind (steps_keyValue k s) ?_
    rintro w' t - ⟨rfl, hw'⟩
    cases hk.symm.trans hw'
    refine .bind (steps_keyValue l t) ?_
    rintro x' t - ⟨rfl, hx'⟩
    cases hl.symm.trans hx'
    split
    next => exact hplaced
    next hother =>
      rw [Bool.not_eq_true, Bool.or_eq_false_iff] at hother
      exact hbehind hother.2

/-- The entries of a mapping have keys that are not the same. -/
theorem steps_makeEntries (id : Nat) (s : Making) :
    Steps (fun entries t => Apart t.made entries) (makeEntries id) s := by
  unfold makeEntries
  refine .get ?_
  split
  next =>
    refine .bind (.lift (p := fun _ => True) fun _ _ => trivial) ?_
    rintro ⟨⟨⟩, graph⟩ t - ⟨rfl, -⟩
    refine .bind (.set (p := fun _ _ => True) rfl trivial) fun _ t _ _ => ?_
    refine .foldlM (i := Apart) (fun entries (k, v) s h => ?_) _ _ _ .nil
    refine .bind (steps_make k s) fun _ t hgrows _ => ?_
    refine .bind (.discard (steps_keyValue k t)) ?_
    rintro - t' - ⟨w, rfl, hw⟩
    refine .bind (steps_make v t') fun _ u hgrows' _ => ?_
    refine (steps_insertEntry (hgrows'.datum? hw) entries ((h.grows hgrows).grows hgrows')).mono ?_
    rintro new u' ⟨rfl, hnew, -⟩
    exact hnew
  next => exact .throw

theorem steps_newNumber (s : Making) : Steps (fun _ _ => True) newNumber s := by
  unfold newNumber
  refine .get ?_
  exact .bind (.modify (p := fun _ _ => True) rfl trivial) fun _ _ _ _ => .pure trivial

/-- The pairs of a list of mappings are made. -/
theorem steps_makePair (id : Nat) (s : Making) : Steps (fun _ _ => True) (makePair id) s := by
  unfold makePair
  refine .get ?_
  split
  next k v _ =>
    refine .bind (steps_make k s) fun _ t _ _ => .bind (steps_make v t) fun _ u _ _ => ?_
    exact .bind (steps_newNumber u) fun _ _ _ _ => .pure trivial
  next => exact .throw

theorem steps_elementsOf (id : Nat) (s : Making) : Steps (fun _ _ => True) (elementsOf id) s := by
  unfold elementsOf
  refine .get ?_
  split
  next => exact .pure trivial
  next => exact .throw

/-- A collection is filled. -/
theorem steps_fill (id : Nat) (s : Making) : Steps (fun _ _ => True) (fill id) s := by
  unfold fill made?
  refine .get ?_
  -- A collection that is there is still one when what it holds has been made.
  have hfits {t : Making} (hgrows : Grows s.made t.made) {m new : Made}
      (hm : s.made.getD id none = some m) (hdatum : ∀ v, m ≠ .datum v) (hnew : ∀ v, new ≠ .datum v)
      (hapart : ∀ entries, new = .dict entries → Apart t.made entries) : Fits t.made id new := by
    refine ⟨fun _ => ⟨?_, hnew⟩, hapart, fun v h => absurd h (hnew v)⟩
    have hthere : s.made.getD id none ≠ none := by
      rw [hm]
      nofun
    rw [(hgrows.kept id hthere).2]
    refine Option.eq_none_iff_forall_not_mem.mpr fun v hv => ?_
    rw [datum?_eq_some_iff.mp hv] at hm
    exact hdatum v (Option.some.inj hm).symm
  split
  next => exact .pure trivial
  next => exact .pure trivial
  next hmade =>
    refine .bind (steps_elementsOf id s) fun elements t hgrows _ => ?_
    refine .bind (.forM (fun c s => steps_make c s) elements t) fun _ u hgrows' _ => ?_
    exact steps_setMade (hfits (hgrows.trans hgrows') hmade nofun nofun nofun)
  next hmade =>
    refine .bind (steps_elementsOf id s) fun elements t hgrows _ => ?_
    refine .bind (.mapM (fun c s => steps_makePair c s) elements t) fun _ u hgrows' _ => ?_
    exact steps_setMade (hfits (hgrows.trans hgrows') hmade nofun nofun nofun)
  next hmade =>
    refine .bind (steps_makeEntries id s) fun entries t hgrows _ => ?_
    exact steps_setMade (hfits hgrows hmade nofun nofun nofun)
  next hmade =>
    refine .bind (steps_makeEntries id s) fun entries t hgrows hentries => ?_
    refine steps_setMade (hfits hgrows hmade nofun nofun ?_)
    rintro _ ⟨⟩
    exact hentries

/-- Collections are filled, one after the other. -/
theorem steps_fillAll (most : Nat) : ∀ s, Steps (fun _ _ => True) (fillAll most) s := by
  induction most with
  | zero => exact fun s => .pure trivial
  | succ most ih =>
    intro s
    unfold fillAll
    refine .get ?_
    split
    next => exact .pure trivial
    next id rest _ =>
      refine .bind (.modify (p := fun _ _ => True) rfl trivial) fun _ t _ _ => ?_
      exact .bind (steps_fill id t) fun _ u _ _ => ih u

end Maker

/-! ### Unfolding -/

theorem keys_tiedEntries (n : Nat) (whole : Value) (d : Dict) :
    Dict.keys (Value.tiedEntries n whole d) = Dict.keys d := by
  induction d with
  | nil => rfl
  | cons entry d ih => exact congrArg (entry.1 :: ·) ih

/-- A knot has the keys of what is inside. -/
theorem regular_knotted {d : Dict} (h : d.Distinct) (id : Nat) (backs : List Nat) :
    (knotted id (.dict d) backs).1.Regular := by
  unfold knotted
  split
  next => exact Value.regular_dict h
  next =>
    rintro _ ⟨⟩
    rw [Dict.distinct_iff] at h ⊢
    rwa [keys_tiedEntries]

theorem entries?_knotted_list (id : Nat) (xs : List Value) (backs : List Nat) :
    (knotted id (.list xs) backs).1.entries? = none := by
  unfold knotted
  split <;> rfl

section Unfold

variable {made : Array (Option Made)}

/-- A key is unfolded to its value. -/
theorem unfold_of_datum? {id : Nat} {v : Value} (h : Maker.datum? made id = some v)
    {around : List Nat} (hid : id ∉ around) (fuel : Nat) :
    unfold made (fuel + 1) around id = (v, []) := by
  rw [unfold, if_neg hid, Maker.datum?_eq_some_iff.mp h]

/-- The value of a document repeats no key, because its nodes do not. -/
theorem regular_unfold (h : Maker.Sound made) (root : Nat) :
    (unfold made (made.size + 1) [] root).1.Regular := by
  rw [unfold, if_neg List.not_mem_nil]
  dsimp only
  split
  next => exact Value.regular_of_entries? rfl
  next v hv => exact Value.regular_of_entries? (h.plain root v (Maker.datum?_eq_some_iff.mpr hv))
  next => exact Value.regular_of_entries? (entries?_knotted_list ..)
  next => exact Value.regular_of_entries? rfl
  next entries hdict =>
    refine regular_knotted ?_ _ _
    obtain ⟨hknown, hapart⟩ := h.apart root entries hdict
    -- There is a node, so a key is not where unfolding ends.
    have hsize : ∃ fuel, made.size = fuel + 1 := by
      refine Nat.exists_eq_add_one.mpr (Nat.pos_of_ne_zero fun hzero => ?_)
      rw [Array.eq_empty_of_size_eq_zero hzero] at hdict
      cases hdict
    obtain ⟨fuel, hfuel⟩ := hsize
    have hkey : ∀ e ∈ entries, Maker.datum? made e.1 = some (unfold made made.size [root] e.1).1 := by
      intro e he
      obtain ⟨v, hv⟩ := hknown e he
      have hother : e.1 ∉ [root] := by
        rintro heq
        rw [List.mem_singleton.mp heq, Maker.datum?_eq_some_iff, hdict] at hv
        cases hv
      rw [hfuel, unfold_of_datum? hv hother, hv]
    rw [List.map_map, Dict.Distinct, List.pairwise_map]
    exact hapart.imp_of_mem fun he hf h => h _ _ (hkey _ he) (hkey _ hf)
  next => exact Value.regular_of_entries? (entries?_knotted_list ..)

end Unfold

/-- Before anything is made, everything that has been made is in order. -/
theorem Maker.sound_replicate (n : Nat) : Sound (Array.replicate n none) := by
  have hnone (id : Nat) : (Array.replicate n none).getD id (none : Option Made) = none := by
    rw [Array.getD_eq_getD_getElem?, Array.getElem?_replicate]
    split <;> rfl
  refine ⟨fun id entries h => ?_, fun id v h => ?_⟩
  · rw [hnone] at h
    cases h
  · rw [datum?_eq_some_iff, hnone] at h
    cases h

theorem regular_value (g : Graph) (root : Nat) : Yields Value.Regular (g.value root) := by
  have hsteps : Maker.Steps (fun _ _ => True)
      (do Maker.make root; Maker.fillAll (g.size + 1))
      ⟨g, Array.replicate g.size none, g.size, []⟩ :=
    .bind (Maker.steps_make root _) fun _ s _ _ => Maker.steps_fillAll _ s
  refine .bind (hsteps (Maker.sound_replicate _)) fun (_, s) ⟨hsound, hgrows, _⟩ => .pure ?_
  have hsize : g.size = s.made.size := (hgrows.size.trans Array.size_replicate).symm
  rw [hsize]
  exact regular_unfold hsound root

/-- A mapping repeats no key. -/
theorem regular_read (s : Text) : Yields Value.Regular (read s) := by
  refine .andThen fun document => ?_
  cases document with
  | none => exact .pure (Value.regular_of_entries? rfl)
  | some found => exact regular_value _ _

end Yaml

/-! ## Context files -/

namespace Context

/-- A document of any format repeats no key. -/
theorem regular_read (format : Format) (s : Text) : Yields Value.Regular (format.read s) := by
  cases format with
  | json => exact Json.regular_read s
  | toml => exact Toml.regular_read s
  | yaml => exact Yaml.regular_read s

/-- **The table of a context file repeats no key.** -/
theorem distinct_ofFile (t : FileTree) (path : Path) : Yields Dict.Distinct (ofFile t path) := by
  unfold ofFile
  split
  next => exact .throw _
  next format _ =>
    refine .andThen fun s => .bind (regular_read format s).mapError fun v hv => .mapError ?_
    unfold tableOf
    split
    next => exact .ok .nil
    next d _ hd => exact .ok (hv d hd)
    next => exact .error _

end Context

end Stencil
