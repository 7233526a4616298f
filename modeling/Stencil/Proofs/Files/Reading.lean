import Stencil.Files.Access
import Stencil.Proofs.Failure

/-!
# What keeps a file from being read

A file is read by walking to it, and a walk is stopped by the file system and by nothing else
(`isAccess_of_walk`). Two obstacles are of another kind: a path that holds a NUL character, which is
refused before anything is looked for, and bytes that are no text (`readText_eq_error_iff`). Whether a
file is there at all is asked first in many places, and this question is answered wherever the file
system takes the path (`isFile_eq_error_iff`).
-/

namespace Stencil

/-- What is encoded is decoded again. -/
theorem Text.decode?_encoded (s : Text) : Text.decode? (Text.encoded s) = some s := by
  have hread : String.fromUTF8? (String.ofList s).toUTF8 = some (String.ofList s) :=
    dif_pos (String.ofList s).isValidUTF8
  rw [Text.decode?, Text.encoded, hread, Option.map_some, String.toList_ofList]

namespace FileTree

variable {t : FileTree} {path : Text} {e : Escape}

/-! ## Looking for a file -/

/-- Looking finds a file where there is one. -/
theorem foundFile_eq_true_iff {found : Except Escape Item} :
    foundFile found = .ok true ↔ ∃ bytes, found = .ok (.file bytes) := by
  cases found with
  | error e => cases e <;> simp [foundFile]
  | ok item => cases item <;> simp [foundFile]

/-- Looking is refused where a name is too long, and only there. -/
theorem foundFile_eq_error_iff {found : Except Escape Item} :
    foundFile found = .error e ↔ found = .error .nameTooLong ∧ e = .nameTooLong := by
  cases found with
  | error d => cases d <;> simp [foundFile, eq_comm]
  | ok item => cases item <;> simp [foundFile]

/-- A file is there when the path leads to one. -/
theorem isFile_eq_true_iff : t.isFile path = .ok true ↔ ∃ bytes, t.stat path = .ok (.file bytes) :=
  foundFile_eq_true_iff

/-- It cannot be said whether a file is there when the path is too long, or a name on it. -/
theorem isFile_eq_error_iff :
    t.isFile path = .error e ↔ t.stat path = .error .nameTooLong ∧ e = .nameTooLong :=
  foundFile_eq_error_iff

/-! ## Reading it -/

/-- A walk is stopped by the file system alone. -/
theorem isAccess_of_walk {links : Nat} {p : Place} {names : List Text}
    (h : t.walk links p names = .error e) : e.isAccess = true := by
  fun_induction walk t links p names with
  | case1 => cases h
  | case2 | case3 | case4 | case7 | case8 =>
    cases h
    rfl
  | case5 _ _ _ _ _ _ ih | case6 _ _ _ _ _ ih => exact ih h
  | case9 _ _ _ _ _ _ _ _ _ _ ih => exact ih h
  | case10 _ _ _ _ _ _ _ _ _ ih => exact ih h

/-- What a path leads to is kept back by the file system, or by a NUL character in the path. -/
theorem isAccess_or_nul_of_stat (h : t.stat path = .error e) :
    e.isAccess = true ∨ Text.nul ∈ path ∧ e = .badValue := by
  rcases bind_eq_error_iff.mp h with hlocate | ⟨p, -, hitem⟩
  · unfold locate at hlocate
    split at hlocate
    next hnul =>
      cases hlocate
      exact .inr ⟨hnul, rfl⟩
    next =>
      refine .inl ?_
      split at hlocate
      next =>
        cases hlocate
        rfl
      next =>
        split at hlocate
        next =>
          cases hlocate
          rfl
        next => exact isAccess_of_walk hlocate
  · split at hitem
    next => cases hitem
    next =>
      cases hitem
      exact .inl rfl

/-- A path that holds a NUL character leads nowhere. -/
theorem stat_of_nul (h : Text.nul ∈ path) : t.stat path = .error .badValue := by
  rw [stat, locate, if_pos h]
  rfl

/-- The file that a path leads to holds bytes that are no text. -/
def Undecodable (t : FileTree) (path : Text) : Prop :=
  ∃ bytes, t.stat path = .ok (.file bytes) ∧ Text.decode? bytes = none

/-- **A file that the file system would give is not read when its path holds a NUL character or its bytes
are no text.** -/
theorem readText_eq_error_iff (he : e.isAccess = false) :
    t.readText path = .error e ↔
      (Text.nul ∈ path ∧ e = .badValue) ∨ t.Undecodable path ∧ e = .undecodable := by
  rw [readText, bind_eq_error_iff]
  constructor
  · rintro (hstat | ⟨item, hstat, h⟩)
    · rcases isAccess_or_nul_of_stat hstat with haccess | hnul
      · rw [haccess] at he
        cases he
      · exact .inl hnul
    · cases item with
      | file bytes =>
        change textOf bytes = .error e at h
        unfold textOf at h
        split at h
        next => cases h
        next hdecode =>
          cases h
          exact .inr ⟨⟨bytes, hstat, hdecode⟩, rfl⟩
      | directory =>
        cases h
        cases he
      | link target =>
        cases h
        cases he
  · rintro (⟨hnul, rfl⟩ | ⟨⟨bytes, hstat, hdecode⟩, rfl⟩)
    · exact .inl (stat_of_nul hnul)
    · refine .inr ⟨.file bytes, hstat, ?_⟩
      show textOf bytes = _
      rw [textOf, hdecode]

/-- Where the obstacles of the file system are reported, the other two escape. -/
theorem readText_escapes_iff {ε : Type} {report : Escape → Failure ε}
    (hreport : ∀ d, report d = .escaped e ↔ d.isAccess = false ∧ d = e) :
    (t.readText path).mapError report = .error (.escaped e) ↔
      (Text.nul ∈ path ∧ e = .badValue) ∨ t.Undecodable path ∧ e = .undecodable := by
  simp only [mapError_eq_error_iff, hreport]
  constructor
  · rintro ⟨_, hread, haccess, rfl⟩
    exact (readText_eq_error_iff haccess).mp hread
  · intro h
    have haccess : e.isAccess = false := by
      rcases h with ⟨-, rfl⟩ | ⟨-, rfl⟩ <;> rfl
    exact ⟨e, (readText_eq_error_iff haccess).mpr h, haccess, rfl⟩

/-- A text that is in a file is read with its line ends in one form. -/
theorem readText_of_stat {s : Text} (h : t.stat path = .ok (.file (Text.encoded s))) :
    t.readText path = .ok s.unixLines := by
  rw [readText, h]
  show textOf _ = _
  rw [textOf, Text.decode?_encoded]

/-- What is read is a file. -/
theorem isFile_of_readText {s : Text} (h : t.readText path = .ok s) : t.isFile path = .ok true := by
  obtain ⟨item, hstat, h⟩ := bind_eq_ok_iff.mp h
  obtain ⟨bytes, hbytes, -⟩ := bind_eq_ok_iff.mp h
  cases item with
  | file bytes => exact isFile_eq_true_iff.mpr ⟨bytes, hstat⟩
  | directory => cases hbytes
  | link target => cases hbytes

end FileTree

end Stencil
