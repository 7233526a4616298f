import Stencil.CommandLine.Run
import Stencil.Proofs.Config.Layering
import Stencil.Proofs.Files.Writing

/-!
# Where an output goes

A command line for rendering does everything or nothing (`run_all_or_nothing`). A run that fails prints
and copies nothing and changes no file; a run that goes well sends one output, whole, to every place
that is asked for and nowhere else.

What is rendered may hold half of a pair, which has no bytes. It is copied as it is and printed as a
question mark. A file cannot take it: the write fails when the file has been made empty, and of the files
after such a run nothing is said here.
-/

namespace Stencil.CommandLine

/-! ## Command lines for rendering -/

/-- Words of the command for rendering: its name stands behind the options of the program, if these can
be told apart. -/
def OfRender (words : List Text) : Prop :=
  ∀ ws, readWords programForms false words = .ok ws → ws.arguments.head? = some "render".toList

/-- What is asked of rendering is rendering, or help. -/
theorem readCommand_render {t : FileTree} {words : List Text} {c : Command}
    (h : Request.readCommand t ("render".toList :: words) = .ok (some c)) : ∃ r, c = .render r := by
  obtain ⟨ws, -, h⟩ := bind_eq_ok_iff.mp h
  split at h
  next => cases h
  next =>
    obtain ⟨made, hmade, h⟩ := bind_eq_ok_iff.mp h
    cases h
    obtain ⟨r, -, hmade⟩ := bind_eq_ok_iff.mp hmade
    obtain ⟨template, -, hmade⟩ := bind_eq_ok_iff.mp hmade
    obtain ⟨⟨⟩, -, hmade⟩ := bind_eq_ok_iff.mp hmade
    cases hmade
    exact ⟨_, rfl⟩

/-- Words of the command for rendering ask for rendering, where they do not ask for version or help. -/
theorem ofWords_render {t : FileTree} {words : List Text} {request : Request} (h : OfRender words)
    (hrequest : Request.ofWords t words = .ok request) :
    request = .version ∨ request = .help ∨ ∃ profile r, request = .command profile (.render r) := by
  obtain ⟨ws, hws, hrequest⟩ := bind_eq_ok_iff.mp hrequest
  obtain ⟨rest, harguments⟩ := List.head?_eq_some_iff.mp (h ws (mapError_eq_ok_iff.mp hws))
  dsimp only at hrequest
  split at hrequest
  next => exact .inl (Except.ok.inj hrequest).symm
  next => exact .inr (.inl (Except.ok.inj hrequest).symm)
  next =>
    obtain ⟨command, hcommand, hrequest⟩ := bind_eq_ok_iff.mp hrequest
    cases command with
    | none => exact .inr (.inl (Except.ok.inj hrequest).symm)
    | some c =>
      rw [harguments] at hcommand
      obtain ⟨r, rfl⟩ := readCommand_render hcommand
      exact .inr (.inr ⟨_, r, (Except.ok.inj hrequest).symm⟩)

/-! ## What is rendered -/

namespace Rendering

variable {w : Surroundings} {profile : Option Text} {r : Rendering} {s : Symbols}

/-- A request renders to symbols: from the templates of the directory that the settings name, with the
context of its files and variables. The settings are those of the configuration of the user and the
project, the profile and the request's own options. -/
def RendersTo (w : Surroundings) (profile : Option Text) (r : Rendering) (s : Symbols) : Prop :=
  ∃ table settings context dir,
    Config.load w.files w.userFile ⟨1, w.files.workingDirectory⟩ = .ok table ∧
    Config.build table profile r.options = .ok settings ∧
    Context.build w.files r.contextFiles r.vars = .ok context ∧
    w.files.resolved (.ofText settings.templateDir) = .ok dir ∧
    ((w.files.store dir).render settings w.environment .empty r.template context).1.result = .ok s

/-- What a run renders is what its request renders to. -/
theorem symbols_eq_ok_iff : r.symbols w profile = .ok s ↔ r.RendersTo w profile s := by
  constructor
  · intro h
    obtain ⟨settings, hsettings, h⟩ := bind_eq_ok_iff.mp h
    obtain ⟨context, hcontext, h⟩ := bind_eq_ok_iff.mp h
    obtain ⟨store, hstore, h⟩ := bind_eq_ok_iff.mp h
    obtain ⟨table, htable, hbuild⟩ := bind_eq_ok_iff.mp hsettings
    obtain ⟨dir, hdir, hstore⟩ := bind_eq_ok_iff.mp hstore
    cases hstore
    exact ⟨table, settings, context, dir, mapError_eq_ok_iff.mp htable, mapError_eq_ok_iff.mp hbuild,
      mapError_eq_ok_iff.mp hcontext, mapError_eq_ok_iff.mp hdir, mapError_eq_ok_iff.mp h⟩
  · rintro ⟨table, settings, context, dir, htable, hbuild, hcontext, hdir, h⟩
    have hsettings : w.settings profile r.options = .ok settings :=
      bind_eq_ok_iff.mpr ⟨table, mapError_eq_ok_iff.mpr htable, mapError_eq_ok_iff.mpr hbuild⟩
    have hstore : w.store settings = .ok (w.files.store dir) :=
      bind_eq_ok_iff.mpr ⟨dir, mapError_eq_ok_iff.mpr hdir, rfl⟩
    refine bind_eq_ok_iff.mpr ⟨settings, hsettings, ?_⟩
    refine bind_eq_ok_iff.mpr ⟨context, mapError_eq_ok_iff.mpr hcontext, ?_⟩
    exact bind_eq_ok_iff.mpr ⟨_, hstore, mapError_eq_ok_iff.mpr h⟩

/-! ## What a run leaves behind -/

/-- The request has its output printed: it asks for no other place, or for copying where that fails. -/
def ToStdout (w : Surroundings) (r : Rendering) : Prop :=
  r.output = none ∧ r.clipboard = false ∨ r.clipboard = true ∧ w.clipboard = false

instance (w : Surroundings) (r : Rendering) : Decidable (r.ToStdout w) :=
  inferInstanceAs (Decidable (_ ∨ _))

theorem prints_eq_true_iff : r.prints w = true ↔ r.ToStdout w := by
  unfold prints ToStdout
  cases r.clipboard <;> cases r.output <;> simp

/-- A run that has sent its output to every place that is asked for, and nowhere else. -/
structure Delivered (w : Surroundings) (r : Rendering) (s : Symbols) (o : Outcome) : Prop where
  /-- Without a file to write, no file is changed. -/
  unchanged : r.output = none → o.files = w.files
  /-- The file that is asked for holds the output, and every other is as it was. -/
  file : ∀ path, r.output = some path → ∃ text place, s.text? = some text ∧
    w.files.locate path.toText = .ok place ∧ o.files.item? place = some (.file text.encoded) ∧
    ∀ other, other ≠ place → o.files.item? other = w.files.item? other
  /-- The output is copied once, where copying is asked for and works. -/
  copied : o.copied = if r.clipboard = true ∧ w.clipboard = true then [s] else []
  /-- The output is printed, or nothing is. -/
  output : o.output = if r.ToStdout w then s else []
  /-- What is printed is the output in UTF-8, with a mark for each half of a pair. -/
  bytes : Output.sent .utf8 o.output =
    if r.ToStdout w then Text.encoded (s.filled Output.halfMark) else Text.encoded []

end Rendering

/-- A run that has failed, and left files behind. -/
structure Outcome.Failed (o : Outcome) (files : FileTree) : Prop where
  exitCode : o.exitCode ≠ 0
  output : o.output = []
  copied : o.copied = []
  files : o.files = files

theorem failed_failing (w : Surroundings) (e : Failure Report) :
    (Outcome.failing w e).Failed w.files := by
  cases e <;> exact ⟨Nat.one_ne_zero, rfl, rfl, rfl⟩

theorem failed_refusing (w : Surroundings) (e : Failure UsageError) :
    (Outcome.refusing w e).Failed w.files := by
  cases e with
  | reported e => exact ⟨Nat.succ_ne_zero 1, rfl, rfl, rfl⟩
  | escaped e => exact failed_failing w (.escaped e)

namespace Rendering

variable {w : Surroundings} {r : Rendering} {s : Symbols}

/-- The bytes of symbols, which are in UTF-8 whether a stream can write them or not. -/
theorem sent_utf8 (s : Symbols) :
    Output.sent .utf8 s = Text.encoded (s.filled Output.halfMark) := by
  rw [Output.sent, ite_self]
  rfl

/-- What is asked for in a file is written into it. -/
theorem written_of_output {path : Path} (h : r.output = some path) : r.written w s =
    ((Output.writeFile w.files path s).1,
      (Output.writeFile w.files path s).2.mapError (·.map OutputError.report)) := by
  rw [written, h]

/-- Where nothing fails to be written, the output is in the file that is asked for. -/
theorem written_of_ok {files : FileTree} (h : r.written w s = (files, .ok ())) :
    r.output = none ∧ files = w.files ∨
      ∃ path, r.output = some path ∧ Output.writeFile w.files path s = (files, .ok ()) := by
  cases hpath : r.output with
  | none =>
    rw [written, hpath] at h
    cases h
    exact .inl ⟨rfl, rfl⟩
  | some path =>
    rw [written_of_output hpath] at h
    obtain ⟨hfiles, hresult⟩ := Prod.mk.inj h
    exact .inr ⟨path, rfl, Prod.ext hfiles (mapError_eq_ok_iff.mp hresult)⟩

/-- What fails to be written was to be written into a file. -/
theorem written_of_error {files : FileTree} {e : Failure Report}
    (h : r.written w s = (files, .error e)) :
    ∃ path e, r.output = some path ∧ Output.writeFile w.files path s = (files, .error e) := by
  cases hpath : r.output with
  | none =>
    rw [written, hpath] at h
    cases h
  | some path =>
    rw [written_of_output hpath] at h
    obtain ⟨hfiles, hresult⟩ := Prod.mk.inj h
    cases hwrite : (Output.writeFile w.files path s).2 with
    | ok _ =>
      rw [hwrite] at hresult
      cases hresult
    | error e => exact ⟨path, e, rfl, Prod.ext hfiles hwrite⟩

/-- **A run that has rendered something delivers it, or fails.** A failure changes no file, unless there
is half of a pair to write. -/
theorem finish_delivers (w : Surroundings) (r : Rendering) (s : Symbols) :
    (r.finish w s).exitCode = 0 ∧ r.Delivered w s (r.finish w s) ∨
      ∃ files, (r.finish w s).Failed files ∧
        (files = w.files ∨ r.output ≠ none ∧ s.text? = none) := by
  unfold finish
  split
  next files e hwritten =>
    obtain ⟨path, e', hpath, hwrite⟩ := written_of_error hwritten
    refine .inr ⟨files, failed_failing { w with files } e, ?_⟩
    refine (Output.writeFile_of_error hwrite).imp_right fun htext => ⟨?_, htext⟩
    rw [hpath]
    exact Option.some_ne_none path
  next files hwritten =>
    have hprints : (if r.prints w then s else []) = if r.ToStdout w then s else [] := by
      simp only [prints_eq_true_iff]
    refine .inl ⟨rfl, ?_, ?_, rfl, hprints, ?_⟩
    · intro hnone
      obtain ⟨-, hfiles⟩ | ⟨path, hpath, -⟩ := written_of_ok hwritten
      · exact hfiles
      · cases hnone.symm.trans hpath
    · intro path hpath
      obtain ⟨hnone, -⟩ | ⟨path', hpath', hwrite⟩ := written_of_ok hwritten
      · cases hnone.symm.trans hpath
      · cases hpath.symm.trans hpath'
        exact Output.writeFile_of_ok hwrite
    · show Output.sent .utf8 (if r.prints w then s else []) = _
      rw [hprints]
      split
      next => exact sent_utf8 s
      next => exact sent_utf8 []

end Rendering

/-! ## Runs -/

/-- A run that has rendered something goes on with it. -/
theorem run_eq_finish {w : Surroundings} {words : List Text} {profile : Option Text} {r : Rendering}
    {s : Symbols} (hrequest : Request.ofWords w.files words = .ok (.command profile (.render r)))
    (hrenders : r.RendersTo w profile s) : run w words = r.finish w s := by
  simp only [run, hrequest, Request.outcome, Command.outcome, Rendering.outcome,
    Rendering.symbols_eq_ok_iff.mpr hrenders, Except.map]

/-- The request of the words renders to something that holds half of a pair, and asks for it in a file. -/
def AsksHalfInFile (w : Surroundings) (words : List Text) : Prop :=
  ∃ profile r s, Request.ofWords w.files words = .ok (.command profile (.render r)) ∧
    r.output ≠ none ∧ r.RendersTo w profile s ∧ s.text? = none

/-- **Rendering is done as a whole or not at all.** A run that fails prints nothing, copies nothing, and
changes no file, unless half of a pair was to go into one. A run that goes well has rendered what its
request renders to, and delivered it. -/
theorem run_all_or_nothing {w : Surroundings} {words : List Text} (hrender : OfRender words)
    (hversion : Request.ofWords w.files words ≠ .ok .version)
    (hhelp : Request.ofWords w.files words ≠ .ok .help) :
    ((run w words).exitCode ≠ 0 →
      (run w words).output = [] ∧ (run w words).copied = [] ∧
        ((run w words).files = w.files ∨ AsksHalfInFile w words)) ∧
    ((run w words).exitCode = 0 →
      ∃ profile r s, Request.ofWords w.files words = .ok (.command profile (.render r)) ∧
        r.RendersTo w profile s ∧ r.Delivered w s (run w words)) := by
  cases hrequest : Request.ofWords w.files words with
  | error e =>
    have hfailed : (run w words).Failed w.files := by
      rw [run, hrequest]
      exact failed_refusing w e
    exact ⟨fun _ => ⟨hfailed.output, hfailed.copied, .inl hfailed.files⟩,
      fun hzero => absurd hzero hfailed.exitCode⟩
  | ok request =>
    obtain rfl | rfl | ⟨profile, r, rfl⟩ := ofWords_render hrender hrequest
    · exact absurd hrequest hversion
    · exact absurd hrequest hhelp
    cases hsymbols : r.symbols w profile with
    | error e =>
      have hfailed : (run w words).Failed w.files := by
        simp only [run, hrequest, Request.outcome, Command.outcome, Rendering.outcome, hsymbols,
          Except.map]
        exact failed_failing w e
      exact ⟨fun _ => ⟨hfailed.output, hfailed.copied, .inl hfailed.files⟩,
        fun hzero => absurd hzero hfailed.exitCode⟩
    | ok s =>
      have hrenders := Rendering.symbols_eq_ok_iff.mp hsymbols
      rw [run_eq_finish hrequest hrenders]
      obtain ⟨hzero, hdelivered⟩ | ⟨files, hfailed, hfiles⟩ := Rendering.finish_delivers w r s
      · exact ⟨fun h => absurd hzero h, fun _ => ⟨profile, r, s, rfl, hrenders, hdelivered⟩⟩
      · refine ⟨fun _ => ⟨hfailed.output, hfailed.copied, ?_⟩,
          fun hzero => absurd hzero hfailed.exitCode⟩
        rcases hfiles with rfl | ⟨hpath, htext⟩
        · exact .inl hfailed.files
        · exact .inr ⟨profile, r, s, hrequest, hpath, hrenders, htext⟩

/-! A template that shows one value, and a context in which that is half of a pair. -/

/-- A directory `templates` with a template in it, and a context beside it. -/
def pairTree : FileTree where
  items := [(["templates".toList], .directory),
    (["templates".toList, "p.html".toList], .file (Text.encoded "\x7b\x7bv\x7d\x7d".toList)),
    (["c.json".toList], .file (Text.encoded "\x7b\"v\": \"\\ud800\"\x7d".toList))]
  workingDirectory := []

/-- Surroundings without configuration files, in which nothing can be copied. -/
def pairSurroundings : Surroundings := ⟨pairTree, .ofText "/u".toList, none, false, 80⟩

/-- Nothing is configured. -/
theorem load_pairTree : Config.load pairTree (.ofText "/u".toList) ⟨1, []⟩ = .ok [] := by
  refine Config.load_of_absent (by cbv) ?_
  simp only [Config.projectFiles, List.forall_mem_cons]
  exact ⟨by cbv, by cbv, by cbv, List.forall_mem_nil _⟩

/-- What a request renders to where nothing is configured. -/
theorem rendersTo_pairTree {r : Rendering} {context : Dict} {s : Symbols}
    (hbuild : Config.build [] none r.options = .ok .default)
    (hcontext : Context.build pairTree r.contextFiles r.vars = .ok context)
    (hrender : ((pairTree.store ["templates".toList]).render .default none .empty r.template
      context).1.result = .ok s) : r.RendersTo pairSurroundings none s :=
  ⟨[], .default, context, ["templates".toList], load_pairTree, hbuild, hcontext, by cbv, hrender⟩

/-- Words that have the template written into a file, with a value of their own. -/
def filingWords : List Text := ["render", "p", "--var", "v=x", "-o", "o"]

/-- What they ask for. -/
def filing : Rendering where
  template := ['p']
  vars := ["v=x".toList]
  output := some (.ofText ['o'])

/-- A run that writes a file. -/
theorem run_all_or_nothing_filing : (run pairSurroundings filingWords).exitCode = 0 ∧
    ∃ profile r s,
      Request.ofWords pairSurroundings.files filingWords = .ok (.command profile (.render r)) ∧
      r.RendersTo pairSurroundings profile s ∧
      r.Delivered pairSurroundings s (run pairSurroundings filingWords) := by
  have hwords : readWords programForms false filingWords = .ok ⟨[], filingWords⟩ := by rfl
  have hrender : OfRender filingWords := by
    intro ws h
    cases hwords.symm.trans h
    rfl
  have hrequest : Request.ofWords pairSurroundings.files filingWords =
      .ok (.command none (.render filing)) := by cbv
  have hrenders : filing.RendersTo pairSurroundings none (.ofText ['x']) :=
    rendersTo_pairTree (by rfl) (by cbv) (by cbv)
  have hzero : (run pairSurroundings filingWords).exitCode = 0 := by
    rw [run_eq_finish hrequest hrenders]
    cbv
  refine ⟨hzero, (run_all_or_nothing (w := pairSurroundings) hrender ?_ ?_).2 hzero⟩
  · intro h
    cases hrequest.symm.trans h
  · intro h
    cases hrequest.symm.trans h

/-- Words that have the template printed, with the value in the context file. -/
def printingWords : List Text := ["render", "p", "-c", "c.json"]

/-- What they ask for. -/
def printing : Rendering where
  template := ['p']
  contextFiles := [.ofText "c.json".toList]

/-- The same words with a word more, for help. -/
def askingWords : List Text := printingWords ++ ["--help".toList]

/-- Two runs that go well and print something else than what is rendered: a question mark, which is not
the half of a pair that it stands for, and the help that was asked for. -/
theorem run_prints_otherwise :
    printing.RendersTo pairSurroundings none [.half 0] ∧
    (Request.ofWords pairSurroundings.files printingWords =
        .ok (.command none (.render printing)) ∧
      (run pairSurroundings printingWords).exitCode = 0 ∧
      Output.sent .utf8 (run pairSurroundings printingWords).output = Text.encoded ['?'] ∧
      Symbols.ofText ['?'] ≠ [.half 0]) ∧
    OfRender askingWords ∧ (run pairSurroundings askingWords).exitCode = 0 ∧
      (run pairSurroundings askingWords).output = .ofText helpText := by
  have hrequest : Request.ofWords pairSurroundings.files printingWords =
      .ok (.command none (.render printing)) := by cbv
  have hrenders : printing.RendersTo pairSurroundings none [.half 0] :=
    rendersTo_pairTree (by rfl) (by cbv) (by cbv)
  have hwords : readWords programForms false askingWords = .ok ⟨[], askingWords⟩ := by rfl
  have hhelp : Request.ofWords pairSurroundings.files askingWords = .ok .help := by cbv
  have hrun : run pairSurroundings askingWords = .printing pairSurroundings 0 helpText := by
    rw [run, hhelp]
    rfl
  refine ⟨hrenders, ?_, ?_, ?_, ?_⟩
  · rw [run_eq_finish hrequest hrenders]
    exact ⟨hrequest, by cbv, by cbv, by decide⟩
  · intro ws h
    cases hwords.symm.trans h
    rfl
  · rw [hrun]
    rfl
  · rw [hrun]
    rfl

end Stencil.CommandLine
