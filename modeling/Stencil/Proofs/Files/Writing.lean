import Stencil.Output
import Stencil.Proofs.Failure

/-!
# Writing into a tree

A write changes one place. Symbols are written as the text that they are; of half of a pair there is no
text, and a write that meets one leaves the file empty and fails.
-/

namespace Stencil.FileTree

theorem find?_setItem (p q : Place) (item : Item) (items : List (Place × Item)) :
    find? q (setItem p item items) = if q = p then some item else find? q items := by
  induction items with
  | nil =>
    simp only [setItem, find?, @eq_comm _ p q]
  | cons entry rest ih =>
    obtain ⟨r, old⟩ := entry
    rw [setItem]
    split
    next hr =>
      rw [find?, find?, hr]
      by_cases hq : q = p
      · rw [if_pos hq, if_pos hq.symm]
      · rw [if_neg hq, if_neg (Ne.symm hq), if_neg (Ne.symm hq)]
    next hr =>
      rw [find?, find?, ih]
      by_cases hrq : r = q
      · rw [if_pos hrq, if_neg fun hq => hr (hrq.trans hq), if_pos hrq]
      · rw [if_neg hrq, if_neg hrq]

/-- What stands in a tree with something new at a place. -/
theorem item?_put {p : Place} (hp : p ≠ []) (q : Place) (t : FileTree) (item : Item) :
    (t.put p item).item? q = if q = p then some item else t.item? q := by
  unfold item?
  split
  next hq => rw [if_neg fun h => hp (h.symm.trans hq)]
  next => exact find?_setItem p q item t.items

/-- A write puts a file where a path leads, unless a directory is there. -/
theorem write_eq_ok_iff {t after : FileTree} {path content : Text} :
    t.write path content = .ok after ↔ ∃ p, t.locate path = .ok p ∧
      t.item? p ≠ some .directory ∧ after = t.put p (.file content.encoded) := by
  constructor
  · intro h
    obtain ⟨p, hp, h⟩ := bind_eq_ok_iff.mp h
    split at h
    next => cases h
    next hitem => exact ⟨p, hp, hitem, (Except.ok.inj h).symm⟩
  · rintro ⟨p, hp, hitem, rfl⟩
    refine bind_eq_ok_iff.mpr ⟨p, hp, ?_⟩
    split
    next h => exact absurd h hitem
    next => rfl

end Stencil.FileTree

namespace Stencil.Output

/-- What a write that went well has written: all symbols, as the text that they are, in one place. -/
theorem writeFile_of_ok {t after : FileTree} {path : Path} {s : Symbols}
    (h : writeFile t path s = (after, .ok ())) :
    ∃ text p, s.text? = some text ∧ t.locate path.toText = .ok p ∧
      after.item? p = some (.file text.encoded) ∧ ∀ q, q ≠ p → after.item? q = t.item? q := by
  unfold writeFile at h
  split at h
  next => cases h
  next written hwritten =>
    cases htext : s.text? with
    | none =>
      rw [htext] at h
      cases h
    | some text =>
      rw [htext] at h hwritten
      cases h
      obtain ⟨p, hp, hitem, rfl⟩ := FileTree.write_eq_ok_iff.mp hwritten
      -- At the root there is a directory in every tree.
      have hroot : p ≠ [] := by
        rintro rfl
        exact hitem rfl
      refine ⟨text, p, rfl, hp, ?_, fun q hq => ?_⟩
      · rw [FileTree.item?_put hroot, if_pos rfl]
        rfl
      · rw [FileTree.item?_put hroot, if_neg hq]

/-- A write that failed has changed nothing, or met half of a pair. -/
theorem writeFile_of_error {t after : FileTree} {path : Path} {s : Symbols} {e : Failure OutputError}
    (h : writeFile t path s = (after, .error e)) : after = t ∨ s.text? = none := by
  unfold writeFile at h
  split at h
  next =>
    cases h
    exact .inl rfl
  next =>
    cases htext : s.text? with
    | none => exact .inr rfl
    | some text =>
      rw [htext] at h
      cases h

end Stencil.Output
