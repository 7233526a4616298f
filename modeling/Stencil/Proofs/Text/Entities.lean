import Stencil.Text.Xml

/-!
# Escaped texts

An escaped text can stand in XML wherever a text may: it has no character that begins or ends markup or
an attribute, and no ampersand that does not begin an entity (`Safe`). Nothing is lost by it, since one
pass over the escaped text gives the text back (`escape_protects`).

Every character is escaped for itself, so each of these laws is one of a single character and of what is
put behind it. That an entity is read back whole, whatever follows, is why no two neighbours can make up
an entity that neither of them holds: what follows an ampersand has been written by the same character.
-/

namespace Stencil.Xml

/-- The five entities. -/
def entities : List Text :=
  ["&amp;".toList, "&lt;".toList, "&gt;".toList, "&quot;".toList, "&apos;".toList]

/-- A text that is nothing but text in XML: what has a meaning of its own there stands in it as an
entity only. -/
structure Safe (s : Text) : Prop where
  noMarkup : ∀ c ∈ ['<', '>', '"', '\''], c ∉ s
  entity : ∀ front back, s = front ++ '&' :: back → ∃ e ∈ entities, e <+: '&' :: back

/-- A character is written as one of the entities, or as itself when it means nothing else. -/
theorem entity_mem_or (c : Char) :
    entity c ∈ entities ∨ entity c = [c] ∧ c ∉ ['&', '<', '>', '"', '\''] := by
  unfold entity
  repeat' split
  all_goals first
    | exact .inl (by decide)
    | exact .inr ⟨rfl, by simp [*]⟩

namespace Safe

/-- A text without an ampersand is safe when it has none of the other characters. -/
theorem of_notMem {s : Text} (h : ∀ c ∈ ['<', '>', '"', '\''], c ∉ s) (hamp : '&' ∉ s) : Safe s := by
  refine ⟨h, ?_⟩
  rintro front back rfl
  exact absurd (by simp) hamp

/-- An entity is safe: it has one ampersand, at its head. -/
theorem of_mem_entities {e : Text} (h : e ∈ entities) : Safe e := by
  have htail : ∀ e ∈ entities, '&' ∉ e.tail := by decide
  have hmarkup : ∀ e ∈ entities, ∀ c ∈ ['<', '>', '"', '\''], c ∉ e := by simp [entities]
  refine ⟨hmarkup e h, ?_⟩
  rintro (_ | ⟨c, front⟩) back rfl
  · exact ⟨_, h, List.prefix_rfl⟩
  · exact absurd (by simp) (htail _ h)

/-- Safe texts behind one another are safe, because an entity is in one of them. -/
theorem append {s t : Text} (hs : Safe s) (ht : Safe t) : Safe (s ++ t) := by
  refine ⟨fun c hc hmem => ?_, fun front back h => ?_⟩
  · rcases List.mem_append.mp hmem with hmem | hmem
    · exact hs.noMarkup c hc hmem
    · exact ht.noMarkup c hc hmem
  · rcases List.append_eq_append_iff.mp h with ⟨between, -, hback⟩ | ⟨between, hfront, hback⟩
    · exact ht.entity between back hback
    · cases between with
      | nil => exact ht.entity [] back hback.symm
      | cons c between =>
        obtain ⟨rfl, rfl⟩ := List.cons.inj hback
        obtain ⟨e, he, hprefix⟩ := hs.entity front between hfront
        exact ⟨e, he, hprefix.trans (List.prefix_append ('&' :: between) t)⟩

end Safe

/-- What a character is written as is safe. -/
theorem safe_entity (c : Char) : Safe (entity c) := by
  rcases entity_mem_or c with hentity | ⟨hself, hplain⟩
  · exact .of_mem_entities hentity
  · rw [hself]
    refine .of_notMem (fun d hd hmem => ?_) fun hmem => ?_
    · rw [List.mem_singleton.mp hmem] at hd
      exact hplain (List.mem_cons_of_mem _ hd)
    · rw [← List.mem_singleton.mp hmem] at hplain
      exact hplain List.mem_cons_self

/-- An escaped text is safe. -/
theorem safe_escape (s : Text) : Safe (escape s) := by
  induction s with
  | nil => exact .of_notMem (fun _ _ => List.not_mem_nil) List.not_mem_nil
  | cons c s ih => exact (safe_entity c).append ih

/-- What a character is written as is read back as that character, whatever follows. -/
theorem decode_entity_append (c : Char) (rest : Text) :
    decode (entity c ++ rest) = c :: decode rest := by
  unfold entity
  repeat' split
  case isFalse hamp _ _ _ _ =>
    exact decode.eq_6 c rest (fun _ h _ => hamp h) (fun _ h _ => hamp h) (fun _ h _ => hamp h)
      (fun _ h _ => hamp h) (fun _ h _ => hamp h)
  all_goals
    subst_vars
    rfl

/-- An escaped text is read back. -/
theorem decode_escape (s : Text) : decode (escape s) = s := by
  induction s with
  | nil => rfl
  | cons c s ih =>
    rw [escape, List.flatMap_cons, decode_entity_append, ← escape, ih]

/-- **Escaping is safe and loses nothing**, and it goes through a text character by character. -/
theorem escape_protects (s : Text) :
    Safe (escape s) ∧ decode (escape s) = s ∧ ∀ t, escape (s ++ t) = escape s ++ escape t :=
  ⟨safe_escape s, decode_escape s, fun _ => List.flatMap_append⟩

/-! A text that looks like an entity is one no longer when it is escaped, and comes back as it was. -/

example : escape "&lt;&&amp".toList = "&amp;lt;&amp;&amp;amp".toList := by decide

end Stencil.Xml
