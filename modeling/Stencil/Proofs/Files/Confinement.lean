import Mathlib
import Stencil.Proofs.Files.Reading
import Stencil.Proofs.Files.Resolution

/-!
# What a store over a directory serves

The store over a directory answers from the files below it. A template path may lead anywhere: through
`..`, from the root, along links in and out of the directory. It is resolved first, and what is served
is the file at the place that this answers, if the directory's place is a proper prefix of it, name by
name (`store_confined`). A path that is not there is not read either.

This holds of every path that is resolved to a place without links, and so of every path on which no
link leads back to itself. Behind such a link resolving stops following links, so the place that it
answers may be that of a link which leads out of the directory. Reading follows that link
(`store_leaks_behind_circle`).
-/

namespace Stencil.FileTree

variable {t : FileTree} {dir : Place} {path : Text}

/-- The path that a template path means in a directory. -/
def pathBelow (dir : Place) (path : Text) : Path := Path.within ⟨1, dir⟩ (.ofText path)

/-- Read from inside a directory, a template path starts at the root. -/
theorem isAbsolute_pathBelow (dir : Place) (path : Text) : (pathBelow dir path).isAbsolute = true :=
  Path.isAbsolute_within rfl _

/-- A file properly below a directory, at a place where it is fully resolved and which the system
takes. -/
structure FileBelow (t : FileTree) (dir p : Place) (bytes : ByteArray) : Prop
    extends t.FileAt p bytes where
  below : dir <+: p
  proper : p ≠ dir
  fits : Fits p

/-! ## What the store answers -/

/-- A template is looked for at a place below the directory, the one that its path resolves to. -/
theorem placeBelow_eq_some_iff {p : Place} :
    t.placeBelow dir path = .ok (some p) ↔
      t.resolved (pathBelow dir path) = .ok p ∧ dir <+: p := by
  rw [placeBelow, ← pathBelow, bind_eq_ok_iff]
  constructor
  · rintro ⟨q, hq, h⟩
    split at h
    next hbelow =>
      cases h
      exact ⟨hq, List.isPrefixOf_iff_prefix.mp hbelow⟩
    next => cases h
  · rintro ⟨hp, hbelow⟩
    refine ⟨p, hp, ?_⟩
    rw [if_pos (List.isPrefixOf_iff_prefix.mpr hbelow)]
    rfl

/-- A template is there when a file is found at its place. -/
theorem hasBelow_eq_true_iff :
    t.hasBelow dir path = .ok true ↔
      ∃ p bytes, t.placeBelow dir path = .ok (some p) ∧ t.itemAt p = .ok (.file bytes) := by
  rw [hasBelow, bind_eq_ok_iff]
  constructor
  · rintro ⟨place, hplace, h⟩
    cases place with
    | none => cases h
    | some p =>
      obtain ⟨bytes, hitem⟩ := foundFile_eq_true_iff.mp h
      exact ⟨p, bytes, hplace, hitem⟩
  · rintro ⟨p, bytes, hplace, hitem⟩
    exact ⟨some p, hplace, foundFile_eq_true_iff.mpr ⟨bytes, hitem⟩⟩

/-- The text of a template is that of the file found at its place. -/
theorem readBelow_eq_ok_iff {s : Text} :
    t.readBelow dir path = .ok s ↔
      ∃ p bytes, t.placeBelow dir path = .ok (some p) ∧ t.itemAt p = .ok (.file bytes) ∧
        textOf bytes = .ok s := by
  rw [readBelow, bind_eq_ok_iff]
  constructor
  · rintro ⟨place, hplace, h⟩
    cases place with
    | none => cases h
    | some p =>
      obtain ⟨found, hfound, h⟩ := bind_eq_ok_iff.mp h
      cases found with
      | false => cases h
      | true =>
        obtain ⟨bytes, hitem⟩ := foundFile_eq_true_iff.mp hfound
        rw [hitem] at h
        exact ⟨p, bytes, hplace, hitem, h⟩
  · rintro ⟨p, bytes, hplace, hitem, htext⟩
    refine ⟨some p, hplace, bind_eq_ok_iff.mpr ⟨true, ?_, ?_⟩⟩
    · exact foundFile_eq_true_iff.mpr ⟨bytes, hitem⟩
    · rw [if_pos rfl, hitem]
      exact htext

/-- A template that is not there is not read. -/
theorem readBelow_of_hasBelow_eq_false (h : t.hasBelow dir path = .ok false) :
    t.readBelow dir path = .error .missingFile := by
  obtain ⟨place, hplace, h⟩ := bind_eq_ok_iff.mp h
  rw [readBelow, hplace]
  cases place with
  | none => rfl
  | some p =>
    show (do
      if ← foundFile (t.itemAt p) then textOf (← bytesOf (← t.itemAt p))
      else throw Escape.missingFile) = _
    rw [show foundFile (t.itemAt p) = .ok false from h]
    rfl

/-! ## What it serves -/

/-- The files that a store finds are those below its directory, where resolving leaves no link. -/
theorem fileBelow_iff (hdir : ∀ bytes, t.item? dir ≠ some (.file bytes))
    (hunlinked : t.Unlinked (pathBelow dir path)) {p : Place} {bytes : ByteArray} :
    t.placeBelow dir path = .ok (some p) ∧ t.itemAt p = .ok (.file bytes) ↔
      t.resolved (pathBelow dir path) = .ok p ∧ t.FileBelow dir p bytes := by
  rw [placeBelow_eq_some_iff, and_assoc]
  refine and_congr_right fun hresolved => ?_
  have hplain : Plain p := plain_of_resolved (isAbsolute_pathBelow dir path) hresolved
  rw [itemAt_eq_file_iff (hunlinked p hresolved) hplain]
  constructor
  · rintro ⟨hbelow, hfile, hfits⟩
    exact ⟨hfile, hbelow, fun hp => hdir bytes (hp ▸ hfile.file), hfits⟩
  · rintro ⟨hfile, hbelow, -, hfits⟩
    exact ⟨hbelow, hfile, hfits⟩

/-- **A store serves the files below its directory and nothing else.** Whatever path is asked for, what
is not there is missing when it is read. Resolving leaves no link, unless a link on the path leads back
to itself. Where it leaves none, a template is there when the path resolves to a file properly below
the directory, both being fully resolved, and what is read is the text of that file. -/
theorem store_confined (hdir : ∀ bytes, t.item? dir ≠ some (.file bytes)) (path : Text) :
    ((t.store dir).probe path = .ok false → (t.store dir).read path = .error .missingFile) ∧
      (¬ t.Circles (pathBelow dir path) → t.Unlinked (pathBelow dir path)) ∧
      (t.Unlinked (pathBelow dir path) →
        ((t.store dir).probe path = .ok true ↔
            ∃ p bytes, t.resolved (pathBelow dir path) = .ok p ∧ t.FileBelow dir p bytes) ∧
          ∀ s, (t.store dir).read path = .ok s ↔
            ∃ p bytes, t.resolved (pathBelow dir path) = .ok p ∧ t.FileBelow dir p bytes ∧
              textOf bytes = .ok s) := by
  refine ⟨readBelow_of_hasBelow_eq_false, unlinked_of_not_circles (isAbsolute_pathBelow dir path),
    fun hunlinked => ⟨?_, fun s => ?_⟩⟩
  · refine hasBelow_eq_true_iff.trans (exists_congr fun p => exists_congr fun bytes => ?_)
    exact fileBelow_iff hdir hunlinked
  · refine readBelow_eq_ok_iff.trans (exists_congr fun p => exists_congr fun bytes => ?_)
    rw [← and_assoc, ← and_assoc, fileBelow_iff hdir hunlinked]

/-- A directory `t` that holds a link within, a link out of it to a file beside it, and a link that leads
back to itself. -/
def linkedTree : FileTree where
  items := [([['t']], .directory), ([['t'], ['d']], .directory),
    ([['t'], ['d'], ['a']], .file (Text.encoded ['v'])), ([['t'], ['i']], .link ['d']),
    ([['t'], ['x']], .link ['.', '.', '/', 's']), ([['t'], ['l']], .link ['l']),
    ([['s']], .file (Text.encoded ['s']))]
  workingDirectory := []

/-- A path that goes out of the directory and back by a link within leads to the file. -/
theorem store_confined_linkedTree :
    (∀ bytes, linkedTree.item? [['t']] ≠ some (.file bytes)) ∧
      ¬ linkedTree.Circles (pathBelow [['t']] ['.', '.', '/', 't', '/', 'i', '/', 'a']) ∧
      ∃ p bytes, linkedTree.resolved (pathBelow [['t']] ['.', '.', '/', 't', '/', 'i', '/', 'a']) =
        .ok p ∧ linkedTree.FileBelow [['t']] p bytes ∧ textOf bytes = .ok ['v'] := by
  have hdir : ∀ bytes, linkedTree.item? [['t']] ≠ some (.file bytes) := fun _ => nofun
  have hcircles :
      ¬ linkedTree.Circles (pathBelow [['t']] ['.', '.', '/', 't', '/', 'i', '/', 'a']) := by
    rintro ⟨names, h⟩
    have hplace : linkedTree.resolve [] []
        (pathBelow [['t']] ['.', '.', '/', 't', '/', 'i', '/', 'a']).names =
          .place [['t'], ['d'], ['a']] := by cbv
    cases hplace.symm.trans h
  have hread : (linkedTree.store [['t']]).read ['.', '.', '/', 't', '/', 'i', '/', 'a'] =
      .ok ['v'] := by cbv
  obtain ⟨-, hunlinked, hserved⟩ :=
    store_confined hdir ['.', '.', '/', 't', '/', 'i', '/', 'a']
  exact ⟨hdir, hcircles, ((hserved (hunlinked hcircles)).2 _).mp hread⟩

/-- Behind a link that leads back to itself a link out of the directory is left, and the file that it
leads to is served, though no file below the directory has that text. -/
theorem store_leaks_behind_circle :
    (linkedTree.store [['t']]).read ['l', '/', '.', '.', '/', 'x'] = .ok ['s'] ∧
      ¬ ∃ p bytes, linkedTree.FileBelow [['t']] p bytes ∧ textOf bytes = .ok ['s'] := by
  refine ⟨by cbv, ?_⟩
  rintro ⟨p, bytes, ⟨⟨-, hitem⟩, hbelow, -, -⟩, htext⟩
  -- Two places hold files: one has another text, the other is not below the directory.
  simp only [item?, linkedTree, find?] at hitem
  repeat' split at hitem
  all_goals cases hitem
  next =>
    have hv : textOf (Text.encoded ['v']) = .ok ['v'] := by cbv
    cases hv.symm.trans htext
  next hp =>
    rw [← hp] at hbelow
    simp at hbelow

end Stencil.FileTree
