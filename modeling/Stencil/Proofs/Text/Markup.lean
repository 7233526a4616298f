import Mathlib.Data.List.TakeWhile
import Stencil.Text.Markup

/-!
# Texts escaped as markup

Escaping keeps texts apart, except for a backslash at the end (`escape_inj`). Before a tag the backslashes
are doubled and one more is put, and nothing else is changed. So the tags of an escaped text are those of
the text, behind as many backslashes as tell how many there were (`items_unmarked`), and the text can be
put together again from them.

What has to be seen for this is that no tag comes up where there was none: a backslash that is put before
a tag ends no stretch between brackets, and it is no character that a tag could begin with
(`Plain.unmarked`).
-/

namespace Stencil.Markup

/-! ## Tags -/

/-- A tag with its brackets. -/
def IsTag (tag : Text) : Prop :=
  ∃ c inside, opensTag c = true ∧ (∀ d ∈ inside, staysInTag d = true) ∧
    tag = '[' :: c :: (inside ++ [']'])

/-- A tag is found at the head of a text when one stands there, and then that one. -/
theorem tag?_eq_some_iff {s tag rest : Text} :
    tag? s = some (tag, rest) ↔ IsTag tag ∧ s = tag ++ rest := by
  constructor
  · intro h
    unfold tag? at h
    split at h
    next c t =>
      split at h
      next hopens =>
        split at h
        next r hr =>
          cases h
          refine ⟨⟨c, t.takeWhile staysInTag, hopens, fun d => List.mem_takeWhile_imp, rfl⟩, ?_⟩
          simp [← hr]
        next => cases h
      next => cases h
    next => cases h
  · rintro ⟨⟨c, inside, hopens, hinside, rfl⟩, rfl⟩
    have hbracket : staysInTag ']' = false := rfl
    have htake : ((inside ++ [']']) ++ rest).takeWhile staysInTag = inside := by
      rw [List.append_assoc, List.takeWhile_append_of_pos hinside]
      simp [hbracket]
    have hdrop : ((inside ++ [']']) ++ rest).dropWhile staysInTag = ']' :: rest := by
      rw [List.append_assoc, List.dropWhile_append_of_pos hinside]
      simp [hbracket]
    show tag? ('[' :: c :: ((inside ++ [']']) ++ rest)) = _
    rw [tag?, if_pos hopens, hdrop, htake]
    rfl

/-! ## Items -/

/-- No tag stands at the head of a text, behind backslashes or none. -/
def Plain (s : Text) : Prop := tag? (s.dropWhile (· == '\\')) = none

theorem items_nil : items [] = [] := by
  rw [items]
  rfl

theorem items_cons {c : Char} {rest : Text} (h : Plain (c :: rest)) :
    items (c :: rest) = .char c :: items rest := by
  rw [items]
  dsimp only
  split
  next tag rest' hsome => cases h.symm.trans hsome
  next => rfl

theorem takeWhile_slashes {tag : Text} (h : IsTag tag) (n : Nat) (rest : Text) :
    (List.replicate n '\\' ++ tag ++ rest).takeWhile (· == '\\') = List.replicate n '\\' := by
  obtain ⟨c, inside, -, -, rfl⟩ := h
  rw [List.append_assoc, List.takeWhile_append_of_pos (by simp)]
  simp

theorem dropWhile_slashes {tag : Text} (h : IsTag tag) (n : Nat) (rest : Text) :
    (List.replicate n '\\' ++ tag ++ rest).dropWhile (· == '\\') = tag ++ rest := by
  obtain ⟨c, inside, -, -, rfl⟩ := h
  rw [List.append_assoc, List.dropWhile_append_of_pos (by simp)]
  simp

/-- A tag is an item with the backslashes before it. -/
theorem items_tag {tag : Text} (h : IsTag tag) (n : Nat) (rest : Text) :
    items (List.replicate n '\\' ++ tag ++ rest) = .tag n tag :: items rest := by
  have hsome : tag? (tag ++ rest) = some (tag, rest) := tag?_eq_some_iff.mpr ⟨h, rfl⟩
  rw [items]
  split
  next tag' rest' hsome' =>
    rw [dropWhile_slashes h, hsome] at hsome'
    cases hsome'
    rw [takeWhile_slashes h, List.length_replicate]
  next hnone =>
    rw [dropWhile_slashes h, hsome] at hnone
    cases hnone

/-- A law of texts holds of all of them when it holds of the empty text, and of a text with an item in
front whenever it holds of what is behind. -/
@[elab_as_elim]
theorem itemsInduction {P : Text → Prop} (nil : P [])
    (tag : ∀ n tag rest, IsTag tag → P rest → P (List.replicate n '\\' ++ tag ++ rest))
    (char : ∀ c rest, Plain (c :: rest) → P rest → P (c :: rest)) (s : Text) : P s := by
  induction s using items.induct with
  | case1 s found rest h ih =>
    obtain ⟨hfound, hrest⟩ := tag?_eq_some_iff.mp h
    have hslashes : s.takeWhile (· == '\\') =
        List.replicate (s.takeWhile (· == '\\')).length '\\' := by
      refine List.eq_replicate_iff.mpr ⟨rfl, fun c hc => ?_⟩
      have hslash := List.mem_takeWhile_imp hc
      exact beq_iff_eq.mp hslash
    rw [← List.takeWhile_append_dropWhile (p := (· == '\\')) (l := s), hrest, hslashes,
      ← List.append_assoc]
    exact tag _ _ _ hfound ih
  | case2 => exact nil
  | case3 c rest h ih => exact char c rest h ih

/-! ## The escaped text -/

/-- The characters of an item. -/
def Item.raw : Item → Text
  | .tag n t => List.replicate n '\\' ++ t
  | .char c => [c]

/-- An item with a tag made plain. -/
def Item.unmarked : Item → Item
  | .tag n t => .tag (2 * n + 1) t
  | .char c => .char c

theorem Item.unmarked_injective : Function.Injective Item.unmarked := by
  intro a b h
  cases a with
  | tag n t =>
    cases b with
    | tag m u =>
      obtain ⟨hn, rfl⟩ := Item.tag.inj h
      rw [Nat.mul_left_cancel Nat.two_pos (Nat.succ.inj hn)]
    | char c => cases h
  | char c =>
    cases b with
    | tag m u => cases h
    | char d => exact h

/-- A text of which all tags are made plain. -/
def unmarked (s : Text) : Text := (items s).flatMap fun item => item.unmarked.raw

theorem unmarked_nil : unmarked [] = [] := by
  rw [unmarked, items_nil]
  rfl

theorem unmarked_cons {c : Char} {rest : Text} (h : Plain (c :: rest)) :
    unmarked (c :: rest) = c :: unmarked rest := by
  rw [unmarked, items_cons h]
  rfl

theorem unmarked_tag {tag : Text} (h : IsTag tag) (n : Nat) (rest : Text) :
    unmarked (List.replicate n '\\' ++ tag ++ rest) =
      List.replicate (2 * n + 1) '\\' ++ tag ++ unmarked rest := by
  rw [unmarked, items_tag h]
  rfl

/-- The items of a text make it up. -/
theorem flatMap_raw_items (s : Text) : (items s).flatMap Item.raw = s := by
  induction s using itemsInduction with
  | nil => rw [items_nil]; rfl
  | tag n tag rest h ih => rw [items_tag h, List.flatMap_cons, ih]; rfl
  | char c rest h ih => rw [items_cons h, List.flatMap_cons, ih]; rfl

/-- The first bracket is the same one. -/
theorem head?_dropWhile_unmarked (s : Text) :
    ((unmarked s).dropWhile staysInTag).head? = (s.dropWhile staysInTag).head? := by
  have hslash : staysInTag '\\' = true := rfl
  have hbracket : staysInTag '[' = false := rfl
  induction s using itemsInduction with
  | nil => rw [unmarked_nil]
  | tag n tag rest h ih =>
    rw [unmarked_tag h]
    obtain ⟨c, inside, -, -, rfl⟩ := h
    have hskip (m : Nat) (t : Text) :
        (List.replicate m '\\' ++ '[' :: t).dropWhile staysInTag = '[' :: t := by
      rw [List.dropWhile_append_of_pos (by simp [hslash])]
      simp [hbracket]
    simp [hskip]
  | char c rest h ih =>
    rw [unmarked_cons h, List.dropWhile_cons, List.dropWhile_cons]
    split
    next => exact ih
    next => rfl

/-- A character that is no backslash begins the escaped text when it begins the text. -/
theorem exists_cons_of_unmarked {s u : Text} {c : Char} (hc : c ≠ '\\') (h : unmarked s = c :: u) :
    ∃ rest, s = c :: rest ∧ unmarked rest = u := by
  induction s using itemsInduction with
  | nil =>
    rw [unmarked_nil] at h
    cases h
  | tag n tag rest htag _ =>
    rw [unmarked_tag htag, List.replicate_succ] at h
    exact absurd (List.cons.inj h).1.symm hc
  | char d rest hplain _ =>
    rw [unmarked_cons hplain] at h
    obtain ⟨rfl, rfl⟩ := List.cons.inj h
    exact ⟨rest, rfl, rfl⟩

/-- A tag that runs into the escaped text would run into the text: its first character and the bracket
that ends it are the same in both. -/
theorem tag?_ne_none_of_unmarked {c : Char} {s : Text} (h : tag? (c :: unmarked s) ≠ none) :
    tag? (c :: s) ≠ none := by
  obtain ⟨⟨tag, rest⟩, hsome⟩ := Option.ne_none_iff_exists'.mp h
  obtain ⟨⟨d, inside, hopens, hinside, rfl⟩, hsplit⟩ := tag?_eq_some_iff.mp hsome
  obtain ⟨rfl, hunmarked⟩ := List.cons.inj hsplit
  have hd : d ≠ '\\' := by
    rintro rfl
    cases hopens
  obtain ⟨rest', rfl, hrest⟩ := exists_cons_of_unmarked hd hunmarked
  have hhead : (rest'.dropWhile staysInTag).head? = some ']' := by
    rw [← head?_dropWhile_unmarked, hrest, List.append_eq, List.append_assoc,
      List.dropWhile_append_of_pos hinside]
    rfl
  obtain ⟨back, hback⟩ := List.head?_eq_some_iff.mp hhead
  rw [tag?, if_pos hopens, hback]
  nofun

/-- **No tag comes up where there was none.** -/
theorem Plain.unmarked {s : Text} (h : Plain s) : Plain (unmarked s) := by
  induction s using itemsInduction with
  | nil => rwa [unmarked_nil]
  | tag n tag rest htag _ =>
    rw [Plain, dropWhile_slashes htag, tag?_eq_some_iff.mpr ⟨htag, rfl⟩] at h
    cases h
  | char c rest hplain ih =>
    rw [unmarked_cons hplain]
    by_cases hc : c = '\\'
    · subst hc
      exact ih hplain
    · -- The first character is no backslash, so a tag would begin right with it.
      have hstop (t : Text) : (c :: t).dropWhile (· == '\\') = c :: t := by simp [hc]
      rw [Plain, hstop] at hplain ⊢
      exact not_not.mp fun hne => tag?_ne_none_of_unmarked hne hplain

/-- **The items of an escaped text are those of the text**, with their tags made plain. -/
theorem items_unmarked (s : Text) : items (unmarked s) = (items s).map Item.unmarked := by
  induction s using itemsInduction with
  | nil =>
    rw [unmarked_nil, items_nil]
    rfl
  | tag n tag rest h ih =>
    rw [unmarked_tag h, items_tag h, items_tag h, ih]
    rfl
  | char c rest h ih =>
    have hplain := h.unmarked
    rw [unmarked_cons h] at hplain ⊢
    rw [items_cons hplain, items_cons h, ih]
    rfl

theorem unmarked_injective : Function.Injective unmarked := by
  intro s t h
  have hitems : items s = items t := by
    refine (List.map_inj_right Item.unmarked_injective).mp ?_
    rw [← items_unmarked, ← items_unmarked, h]
  rw [← flatMap_raw_items s, hitems, flatMap_raw_items]

/-! ## The end -/

theorem getLast?_unmarked (s : Text) : (unmarked s).getLast? = s.getLast? := by
  induction s using itemsInduction with
  | nil => rw [unmarked_nil]
  | tag n tag rest h ih =>
    obtain ⟨u, rfl⟩ : ∃ u, tag = u ++ [']'] := by
      obtain ⟨c, inside, -, -, rfl⟩ := h
      exact ⟨'[' :: c :: inside, rfl⟩
    rw [unmarked_tag h]
    simp only [List.getLast?_append, List.getLast?_singleton, Option.some_or, ih]
  | char c rest h ih =>
    rw [unmarked_cons h, List.getLast?_cons, List.getLast?_cons, ih]

/-- Without a backslash at the end nothing is put there. -/
theorem guardEnd_eq {s : Text} (h : s.getLast? ≠ some '\\') : guardEnd s = s := by
  unfold guardEnd
  rw [← List.head?_reverse] at h
  split
  next => rfl
  next hs =>
    rw [hs] at h
    exact absurd rfl h
  next => rfl

theorem escape_eq {s : Text} (h : s.getLast? ≠ some '\\') : escape s = unmarked s := by
  rw [← getLast?_unmarked] at h
  refine Eq.trans (congrArg guardEnd ?_) (guardEnd_eq h)
  refine congrArg (List.flatMap · (items s)) (funext fun item => ?_)
  cases item <;> rfl

/-- **No two texts that end with something else than a backslash are escaped alike.** -/
theorem escape_inj {s t : Text} (hs : s.getLast? ≠ some '\\') (ht : t.getLast? ≠ some '\\') :
    escape s = escape t ↔ s = t := by
  rw [escape_eq hs, escape_eq ht]
  exact unmarked_injective.eq_iff

end Stencil.Markup
