import Stencil.Context
import Stencil.Proofs.Files.Reading
import Stencil.Proofs.Formats.JsonFaults

/-!
# What a context leaves unreported

Whatever is wrong with a variable is reported, and so are a suffix of no format, a file that the file
system keeps back, a text that is not written in its format and a document that is no table. Three things
are not: a path that holds a NUL character, bytes that are no text, and a document at which the reader
fails in a way of its own (`Unfit`). The first file with one of them is where a context escapes, provided
that every file before it gives a table (`context_escapes_iff`).

Which ways of its own a reader has is a matter of the format. A JSON document has one, an integer of too
many digits; the faults of the other two readers are listed where documents are described.
-/

namespace Stencil.Context

variable {t : FileTree} {e : Escape}

/-- A context file with something wrong that is not reported. -/
inductive Unfit (t : FileTree) (path : Path) : Escape → Prop
  /-- No file can have the path. -/
  | nul {format : Format} : Format.ofPath? path = some format → Text.nul ∈ path.toText →
      Unfit t path .badValue
  /-- The file is no text. -/
  | undecodable {format : Format} : Format.ofPath? path = some format →
      t.Undecodable path.toText → Unfit t path .undecodable
  /-- The reader fails, and not because the text is written wrongly. -/
  | unread {format : Format} {s : Text} {fault : DocumentError} {e : Escape} :
      Format.ofPath? path = some format → t.readText path.toText = .ok s →
      format.read s = .error fault → fault.escape? = some e → Unfit t path e

/-- The bytes of a file are not read to a text. -/
theorem read_escapes_iff {path : Path} :
    (t.readText path.toText).mapError (readFailure path) = .error (.escaped e) ↔
      (Text.nul ∈ path.toText ∧ e = .badValue) ∨ t.Undecodable path.toText ∧ e = .undecodable :=
  FileTree.readText_escapes_iff fun _ => ite_eq_escaped_iff

/-- The text of a file is not read to a value. -/
theorem document_escapes_iff {path : Path} {x : Except DocumentError Value} :
    x.mapError (documentFailure path) = .error (.escaped e) ↔
      ∃ fault, x = .error fault ∧ fault.escape? = some e :=
  mapError_eq_error_iff.trans (exists_congr fun _ => and_congr_right fun _ => match_eq_escaped_iff)

/-- **What escapes from a context file.** -/
theorem ofFile_escapes_iff {path : Path} :
    ofFile t path = .error (.escaped e) ↔ Unfit t path e := by
  unfold ofFile
  split
  next hnone =>
    refine iff_of_false nofun ?_
    rintro (⟨hformat, -⟩ | ⟨hformat, -⟩ | ⟨hformat, -, -, -⟩) <;> cases hnone.symm.trans hformat
  next format hformat =>
    rw [bind_eq_error_iff, read_escapes_iff]
    constructor
    · rintro ((⟨hnul, rfl⟩ | ⟨hbytes, rfl⟩) | ⟨s, hs, h⟩)
      · exact .nul hformat hnul
      · exact .undecodable hformat hbytes
      · rcases bind_eq_error_iff.mp h with h | ⟨v, -, h⟩
        · obtain ⟨fault, hfault, hescape⟩ := document_escapes_iff.mp h
          exact .unread hformat (mapError_eq_ok_iff.mp hs) hfault hescape
        · obtain ⟨cause, -, heq⟩ := mapError_eq_error_iff.mp h
          cases heq
    · rintro (⟨-, hnul⟩ | ⟨-, hbytes⟩ | ⟨hother, hs, hfault, hescape⟩)
      · exact .inl (.inl ⟨hnul, rfl⟩)
      · exact .inl (.inr ⟨hbytes, rfl⟩)
      · cases hformat.symm.trans hother
        refine .inr ⟨_, mapError_eq_ok_iff.mpr hs, bind_eq_error_iff.mpr (.inl ?_)⟩
        exact document_escapes_iff.mpr ⟨_, hfault, hescape⟩

/-- The first unfit file of some files, all those before it giving tables. -/
def Stumbles (t : FileTree) (files : List Path) (e : Escape) : Prop :=
  ∃ front path back, files = front ++ path :: back ∧ (∀ p ∈ front, ∃ d, ofFile t p = .ok d) ∧
    Unfit t path e

theorem build_eq_escaped_iff {files : List Path} {vars : List Text} :
    build t files vars = .error (.escaped e) ↔ Stumbles t files e := by
  rw [build, bind_eq_error_iff, Stumbles]
  simp only [← ofFile_escapes_iff, ← mapM_eq_error_iff]
  refine or_iff_left ?_
  rintro ⟨tables, -, h⟩
  rcases bind_eq_error_iff.mp h with h | ⟨given, -, h⟩
  · obtain ⟨cause, -, heq⟩ := mapError_eq_error_iff.mp h
    cases heq
  · cases h

/-- **What escapes from a context**, with every other one giving a table or a report. A JSON document does
so only where more digits stand in a row than an integer may have. -/
theorem context_escapes_iff {files : List Path} {vars : List Text} :
    (∀ e, build t files vars = .error (.escaped e) ↔ Stumbles t files e) ∧
    (((∃ d, build t files vars = .ok d) ∨ ∃ cause, build t files vars = .error (.reported cause)) ↔
      ∀ e, ¬ Stumbles t files e) ∧
    (∀ s fault e, Format.json.read s = .error fault → fault.escape? = some e →
      e = .badValue ∧ Json.LongNumber s) := by
  refine ⟨fun e => build_eq_escaped_iff, settles_iff.trans ?_, fun s fault e h hescape => ?_⟩
  · exact forall_congr' fun e => not_congr build_eq_escaped_iff
  · cases Json.fault_of_read h with
    | malformed => cases hescape
    | long hlong =>
      cases hescape
      exact ⟨rfl, hlong⟩

/-! A file that is no text, and a day that no month has. -/

/-- Two context files: of `a` the one byte begins no character, and in `b` stands an impossible date. -/
def misfitTree : FileTree where
  items := [(["a.json".toList], .file ⟨#[0xFF]⟩),
    (["b.yaml".toList], .file (Text.encoded "day: 2024-02-30".toList))]
  workingDirectory := []

/-- The fault of a document. -/
def fault? : Except DocumentError Value → Option DocumentError
  | .ok _ => none
  | .error fault => some fault

theorem eq_of_fault? {x : Except DocumentError Value} {fault : DocumentError}
    (h : fault? x = some fault) : x = .error fault := by
  cases x with
  | ok v => cases h
  | error d =>
    cases h
    rfl

/-- **Neither is reported.** -/
theorem misfits_escape_context :
    build misfitTree [.ofText "/a.json".toList] [] = .error (.escaped .undecodable) ∧
      build misfitTree [.ofText "/b.yaml".toList] [] = .error (.escaped .badValue) := by
  constructor
  · have hformat : Format.ofPath? (.ofText "/a.json".toList) = some .json := by decide
    have hbytes : misfitTree.Undecodable "/a.json".toList :=
      ⟨⟨#[0xFF]⟩, by cbv, by decide +kernel⟩
    exact build_eq_escaped_iff.mpr ⟨[], _, [], rfl, by simp, .undecodable hformat hbytes⟩
  · have hformat : Format.ofPath? (.ofText "/b.yaml".toList) = some .yaml := by decide
    have hread : Format.yaml.read "day: 2024-02-30".toList = .error .badValue :=
      eq_of_fault? (by decide +kernel)
    exact build_eq_escaped_iff.mpr
      ⟨[], _, [], rfl, by simp, .unread hformat (by cbv) hread rfl⟩

end Stencil.Context
