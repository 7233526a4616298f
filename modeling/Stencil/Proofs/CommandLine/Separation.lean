import Stencil.Proofs.CommandLine.Prediction
import Stencil.Proofs.Files.Normalizing
import Stencil.Proofs.Template.Quotations
import Stencil.Proofs.Text.Wrapping

/-!
# Checks of many files

A check of many files says of each what a check of it alone says, in their order, and fails when one of those
does (`check_separates`). One engine serves for all of them, but it keeps nothing from one file to the next:
what is found in a file depends on its text and on the depth limit, and a fault in one is put into its report
instead of ending the check.

A report says of a file that it is fine, or says the line, the column and the message of what is wrong with it
at its end. That holds whatever the file is called (`exists_checkReport_eq`). Its name is shown as it is unless
there is a backslash or a colon in it. A report is printed on one line where the console is wide enough, and
where it is not, it is broken, as every text is that is printed there.

The template directory has no part in this, but it is looked for, and where it cannot be, nothing is reported
at all. So a check of files prints one line for each only where it can be, and where the reports are short
(`check_prints_not_line_each`).
-/

namespace Stencil.CommandLine

/-! ## What a report shows -/

/-- What a report shows, with what it shows of the name of the file. -/
def reportText (name : Text) : Option Template.SyntaxError → Text
  | none => "ok" ++ "   " ++ name
  | some e => "FAIL" ++ " " ++ name ++ " " ++ complaint e

/-- A report on a faulty file ends with a blank and what is wrong. -/
theorem reportText_some (name : Text) (e : Template.SyntaxError) :
    reportText name (some e) = "FAIL" ++ " " ++ (name ++ ' ' :: complaint e) := by
  have hblank : " ".toList ++ complaint e = ' ' :: complaint e := by
    have hone : " ".toList = [' '] := by decide
    exact congrArg (· ++ complaint e) hone
  have hassoc : "FAIL" ++ " " ++ name ++ " " ++ complaint e =
      "FAIL" ++ " " ++ (name ++ (" " ++ complaint e)) := by
    rw [List.append_assoc _ _ (complaint e), List.append_assoc _ name]
  exact hassoc.trans (congrArg (fun s : Text => "FAIL" ++ " " ++ (name ++ s)) hblank)

section

variable {limit : Int} {source : Text} {e : Template.SyntaxError}

/-- The message of a syntax error is an ordinary text. -/
theorem ordinary_of_fault? (h : Template.fault? limit source = some e) :
    Markup.Ordinary e.misuse.message := by
  refine Template.Misuse.ordinary_message fun s hs => ?_
  unfold Template.fault? at h
  split at h
  next => cases h
  next other hparse =>
    cases h
    exact (Template.quotes_of_parse hparse s hs).ordinary

/-- A complaint is an ordinary text but for one colon in front of a blank. -/
theorem exists_complaint_eq (h : Markup.Ordinary e.misuse.message) :
    ∃ front back, Markup.Ordinary front ∧ Markup.Ordinary back ∧
      complaint e = front ++ [':', ' '] ++ back := by
  have hfront : Markup.Ordinary ("line " ++ Text.ofNat e.position.line ++ ", column " ++
      Text.ofNat e.position.column) := by
    simp only [Markup.ordinary_append_iff, and_assoc]
    exact ⟨by decide, Template.ordinary_ofNat _, by decide, Template.ordinary_ofNat _⟩
  have hcolon : (": " : Text) = [':', ' '] := by decide
  refine ⟨_, _, hfront, h, ?_⟩
  rw [← hcolon]
  rfl

/-- Nothing in a complaint has a meaning of its own, and its colon opens no emoji. -/
theorem complaint_unmarked (h : Markup.Ordinary e.misuse.message) :
    '[' ∉ complaint e ∧ ']' ∉ complaint e ∧ '\\' ∉ complaint e ∧ Emoji.Spaced (complaint e) := by
  obtain ⟨front, back, hfront, hback, heq⟩ := exists_complaint_eq h
  have hnone (c : Char) (hspecial : c ∈ Markup.special) (hcolon : c ∉ [':', ' ']) :
      c ∉ front ++ [':', ' '] ++ back := by
    simp only [List.mem_append, not_or]
    exact ⟨⟨hfront c hspecial, hcolon⟩, hback c hspecial⟩
  rw [heq]
  refine ⟨hnone _ (by decide) (by decide), hnone _ (by decide) (by decide),
    hnone _ (by decide) (by decide), ?_⟩
  have hcolon : ':' ∈ Markup.special := by decide
  rw [List.append_assoc]
  exact .append (hfront ':' hcolon)
    (.colon (by decide) (.char (by decide) (Emoji.spaced_of_notMem (hback ':' hcolon))))

/-- The report on a fine file shows its name. -/
theorem checkReport_none (width : Nat) (path : Path) :
    checkReport width path none = Console.ended (Console.wrapped width
      (Console.laid (reportText (Markup.plain (Markup.escape path.toText)) none))) := by
  have hplain : Markup.plain (Markup.styled "green" "ok" ++ "   " ++ Markup.escape path.toText) =
      "ok" ++ "   " ++ Markup.plain (Markup.escape path.toText) := by
    have hgreen : Markup.IsStyle "green".toList := by decide +kernel
    have hok : Markup.Ordinary "ok".toList := by decide
    have hblanks : Markup.Ordinary "   ".toList := by decide
    rw [List.append_assoc, Markup.plain_styled_append hgreen hok, Markup.plain_ordinary_append hblanks,
      List.append_assoc]
  have hreport : checkReport width path none = Console.ended (Console.wrapped width (Console.laid
      (Markup.plain (Markup.styled "green" "ok" ++ "   " ++ Markup.escape path.toText)))) := rfl
  exact hreport.trans (congrArg (fun s => Console.ended (Console.wrapped width (Console.laid s))) hplain)

/-- The report on a faulty file shows its name with a colon, and what is wrong. -/
theorem checkReport_some (width : Nat) (path : Path) (h : Markup.Ordinary e.misuse.message) :
    checkReport width path (some (complaint e)) = Console.ended (Console.wrapped width (Console.laid
      ("FAIL" ++ " " ++ Markup.plain (Markup.escape path.toText ++ ':' :: ' ' :: complaint e)))) := by
  obtain ⟨hopens, -, hslash, -⟩ := complaint_unmarked h
  have hcolon : (": " : Text) = [':', ' '] := by decide
  have hplain : Markup.plain (Markup.styled "red" "FAIL" ++ " " ++ Markup.escape path.toText ++ ": " ++
        Markup.escape (complaint e)) =
      "FAIL" ++ " " ++ Markup.plain (Markup.escape path.toText ++ ':' :: ' ' :: complaint e) := by
    have hred : Markup.IsStyle "red".toList := by decide +kernel
    have hfail : Markup.Ordinary "FAIL".toList := by decide
    have hblank : Markup.Ordinary " ".toList := by decide
    rw [Markup.escape_of_notMem hopens hslash, hcolon]
    simp only [List.append_assoc]
    rw [Markup.plain_styled_append hred hfail, Markup.plain_ordinary_append hblank]
    rfl
  have hreport : checkReport width path (some (complaint e)) = Console.ended (Console.wrapped width
      (Console.laid (Markup.plain (Markup.styled "red" "FAIL" ++ " " ++ Markup.escape path.toText ++ ": " ++
        Markup.escape (complaint e))))) := rfl
  rw [hreport, hplain]

/-- **A report ends with what is wrong with the file**, whatever its name is. The name is shown in it as it is,
if no character in it may be taken for a mark. -/
theorem exists_checkReport_eq (width : Nat) (path : Path) {found : Option Template.SyntaxError}
    (h : ∀ e ∈ found, Markup.Ordinary e.misuse.message) :
    ∃ name, checkReport width path (found.map complaint) =
        Console.ended (Console.wrapped width (Console.laid (reportText name found))) ∧
      ('\\' ∉ path.toText → ':' ∉ path.toText →
        name = path.toText ++ if found.isSome then [':'] else []) := by
  cases found with
  | none =>
    refine ⟨_, checkReport_none width path, fun hslash hcolon => ?_⟩
    have hname := Markup.plain_escape_append hslash hcolon List.not_mem_nil List.not_mem_nil .nil
    rwa [List.append_nil] at hname
  | some e =>
    have hordinary := h e rfl
    obtain ⟨-, hcloses, hslashes, hspaced⟩ := complaint_unmarked hordinary
    have hend : ']' ∉ ' ' :: complaint e := List.not_mem_cons_of_ne_of_not_mem (by decide) hcloses
    have hrest : '\\' ∉ ' ' :: complaint e := List.not_mem_cons_of_ne_of_not_mem (by decide) hslashes
    have hbehind : Emoji.Spaced (' ' :: complaint e) := .char (by decide) hspaced
    obtain ⟨name, hname⟩ := Markup.exists_plain_append (by decide) hrest hend hbehind
      (Markup.escape path.toText)
    refine ⟨name, ?_, fun hslash hcolon => ?_⟩
    · rw [reportText_some, ← hname]
      exact checkReport_some width path hordinary
    · have hwhole := Markup.plain_escape_append hslash hcolon
        (List.not_mem_cons_of_ne_of_not_mem (by decide) hend)
        (List.not_mem_cons_of_ne_of_not_mem (by decide) hrest) (.colon (by decide) hbehind)
      have hsame : name ++ ' ' :: complaint e = (path.toText ++ [':']) ++ ' ' :: complaint e := by
        rw [← hname, hwhole, List.append_assoc]
        rfl
      exact List.append_cancel_right hsame

end

/-! ## Command lines for a check -/

/-- Words that ask for a check of files, by their names. -/
def AsksCheck (w : Surroundings) (profile : Option Text) (maxDepth : Option Int)
    (files words : List Text) : Prop :=
  Request.ofWords w.files words = .ok (.command profile (.check (files.map Path.ofText) maxDepth))

/-- The words for a check of files, of which no name is taken for an option. -/
def checkWords (profile depth : Option Text) (files : List Text) : List Text :=
  (profile.elim [] fun name => ["--config-profile".toList, name]) ++
    "check".toList :: ((depth.elim [] fun n => ["--max-depth".toList, n]) ++ ['-', '-'] :: files)

theorem readWords_checkWords (depth : Option Text) (files : List Text) :
    readWords [depthForm, helpForm] true
        ((depth.elim [] fun n => ["--max-depth".toList, n]) ++ ['-', '-'] :: files) =
      .ok ⟨depth.toList.map (⟨.maxDepth, ·⟩), files⟩ := by
  cases depth with
  | none => rfl
  | some n => rfl

/-- The words for a check ask for it, if there are files and the depth limit is read. -/
theorem asksCheck_checkWords {w : Surroundings} {maxDepth : Option Int} {files : List Text}
    (profile : Option Text) {depth : Option Text} (hfiles : files ≠ [])
    (hdepth : Request.optional Request.readDepth depth = .ok maxDepth)
    (htexts : ∀ file ∈ files, ∃ source, w.files.readText file = .ok source) :
    AsksCheck w profile maxDepth files (checkWords profile depth files) := by
  have hpaths : files.mapM (Request.readPath w.files .file) = .ok (files.map Path.ofText) := by
    refine mapM_eq_ok_iff.mpr (List.forall₂_map_right_iff.mpr (List.forall₂_same.mpr ?_))
    intro file hfile
    obtain ⟨source, hsource⟩ := htexts file hfile
    obtain ⟨bytes, hstat⟩ := FileTree.exists_stat_of_readText hsource
    rw [Request.readPath, hstat]
    rfl
  have hcheck : Request.readCheck w.files ⟨depth.toList.map (⟨.maxDepth, ·⟩), files⟩ =
      .ok (.check (files.map Path.ofText) maxDepth) := by
    have hvalue : (⟨depth.toList.map (⟨.maxDepth, ·⟩), files⟩ : Words Key).value? .maxDepth = depth := by
      cases depth <;> rfl
    have hnonempty : files.map Path.ofText ≠ [] := fun h => hfiles (List.map_eq_nil_iff.mp h)
    refine bind_eq_ok_iff.mpr ⟨maxDepth, ?_, bind_eq_ok_iff.mpr ⟨_, hpaths, ?_⟩⟩
    · rw [hvalue]
      exact hdepth
    · rw [if_neg hnonempty]
      rfl
  have hcommand : Request.readCommand w.files
      ("check".toList :: ((depth.elim [] fun n => ["--max-depth".toList, n]) ++ ['-', '-'] :: files)) =
      .ok (some (.check (files.map Path.ofText) maxDepth)) := by
    show (Request.commandWords [depthForm, helpForm] _ >>= _) = _
    rw [Request.commandWords, readWords_checkWords]
    have hhelp : (⟨depth.toList.map (⟨.maxDepth, ·⟩), files⟩ : Words Key).has .help = false := by
      cases depth <;> rfl
    show (if Words.has _ _ then _ else _) = _
    rw [hhelp]
    show (Request.readCheck w.files _ >>= _) = _
    rw [hcheck]
    rfl
  cases profile with
  | none =>
    show (Request.readCommand w.files _ >>= _) = _
    rw [hcommand]
    rfl
  | some name =>
    show (Request.readCommand w.files _ >>= _) = _
    rw [hcommand]
    rfl

/-- The words for a check of each file alone ask for it. -/
theorem asksCheck_alone {w : Surroundings} {maxDepth : Option Int} {files : List Text}
    (profile : Option Text) {depth : Option Text}
    (hdepth : Request.optional Request.readDepth depth = .ok maxDepth)
    (htexts : ∀ file ∈ files, ∃ source, w.files.readText file = .ok source) :
    ∀ file ∈ files, AsksCheck w profile maxDepth [file] (checkWords profile depth [file]) :=
  fun file hfile => asksCheck_checkWords profile (List.cons_ne_nil file []) hdepth
    (List.forall_mem_singleton.mpr (htexts file hfile))

/-! ## Many files and one -/

/-- Files that can be checked: each holds a text, and the configuration is valid. -/
structure Checkable (w : Surroundings) (profile : Option Text) (maxDepth : Option Int)
    (files : List Text) : Prop where
  texts : ∀ file ∈ files, ∃ source, w.files.readText file = .ok source
  configured : ∃ s, w.settings profile (depthOption maxDepth) = .ok s

/-- A run prints a line for each of some files, and nothing else. -/
def PrintsLineEach (files : List Text) (o : Outcome) : Prop :=
  ∃ lines : List Text, lines.length = files.length ∧ (∀ line ∈ lines, '\n' ∉ line) ∧
    o.output = .ofText (Console.ended lines)

/-- A run reports what is found in a file: it prints the report and does nothing else, and it fails if
something is found. The report stands in lines of the width of the console, in one of them where it fits. It
shows the name of the file as it is, if no character in it may be taken for a mark. -/
structure ReportsOn (w : Surroundings) (file : Text) (found : Option Template.SyntaxError)
    (o : Outcome) : Prop where
  outcome : o = .printing w (if found.isSome then 1 else 0)
    (checkReport w.width (.ofText file) (found.map complaint))
  shown : ∃ name lines, o.output = .ofText (Console.ended lines) ∧
    lines = Console.wrapped w.width (Console.laid (reportText name found)) ∧
    Console.Shows w.width (Console.laid (reportText name found)) lines ∧
    ('\\' ∉ (Path.ofText file).toText → ':' ∉ (Path.ofText file).toText →
      name = (Path.ofText file).toText ++ if found.isSome then [':'] else [])

/-- A check of files comes to what checks of each of them come to: it prints what these print, in the order of
the files, and does nothing else, and it fails if one of these fails. Each of these reports on what is found in
its file under the depth limit of the settings, and where each needs one line for that, there is one line for
each file. -/
structure Separates (w : Surroundings) (profile : Option Text) (maxDepth : Option Int)
    (files words : List Text) (alone : Text → List Text) : Prop where
  output : (run w words).output = files.flatMap fun file => (run w (alone file)).output
  exitCode : (run w words).exitCode =
    if ∃ file ∈ files, (run w (alone file)).exitCode = 1 then 1 else 0
  quiet : ∃ code printed, run w words = .printing w code printed
  lines : (∀ file ∈ files, PrintsLineEach [file] (run w (alone file))) →
    PrintsLineEach files (run w words)
  reports : ∃ s limit, w.settings profile (depthOption maxDepth) = .ok s ∧ s.maxDepth = some limit ∧
    ∀ file ∈ files, ∃ source, w.files.readText file = .ok source ∧
      ReportsOn w file (Template.fault? limit source) (run w (alone file))

/-- A run prints a line for one file if what it prints ends with its only line feed. -/
theorem printsLineEach_singleton_iff {file : Text} {o : Outcome} :
    PrintsLineEach [file] o ↔ ∃ line, '\n' ∉ line ∧ o.output = .ofText (line ++ ['\n']) := by
  constructor
  · rintro ⟨lines, hlength, hfeed, houtput⟩
    obtain ⟨line, rfl⟩ := List.length_eq_one_iff.mp hlength
    exact ⟨line, hfeed line List.mem_cons_self,
      houtput.trans (congrArg Symbols.ofText (List.flatMap_singleton ..))⟩
  · rintro ⟨line, hfeed, houtput⟩
    refine ⟨[line], rfl, fun other hother => ?_,
      houtput.trans (congrArg Symbols.ofText (List.flatMap_singleton ..).symm)⟩
    rw [List.mem_singleton.mp hother]
    exact hfeed

/-- What prints a line for each of some files has as many line feeds. -/
theorem PrintsLineEach.count_eq {files : List Text} {o : Outcome} (h : PrintsLineEach files o) {s : Text}
    (hs : o.output = .ofText s) : s.count '\n' = files.length := by
  obtain ⟨lines, hlength, hfeed, houtput⟩ := h
  have hsame : s = Console.ended lines := by
    have hread := congrArg Symbols.text? (hs.symm.trans houtput)
    simpa using hread
  rw [hsame, Console.count_ended hfeed, hlength]

/-- Runs that print a line for one file each print together a line for each. -/
theorem printsLineEach_of_flatMap {files : List Text} {o : Outcome} {alone : Text → Outcome}
    (h : ∀ file ∈ files, PrintsLineEach [file] (alone file))
    (houtput : o.output = files.flatMap fun file => (alone file).output) : PrintsLineEach files o := by
  simp only [printsLineEach_singleton_iff] at h
  choose! line hfeed hline using h
  refine ⟨files.map line, List.length_map _, List.forall_mem_map.mpr hfeed, ?_⟩
  rw [houtput, List.flatMap_congr hline, Console.ended, List.flatMap_map]
  exact List.map_flatMap.symm

section

variable {w : Surroundings} {profile : Option Text} {maxDepth : Option Int} {files words : List Text}
  {s : Settings} {store : Store} {limit : Int}

/-- A check of one file reports on what is found in it. -/
theorem reportsOn_of_source {file source : Text}
    (hs : w.settings profile (depthOption maxDepth) = .ok s) (hstore : w.store s = .ok store)
    (hlimit : s.maxDepth = some limit) (hread : w.files.readText file = .ok source)
    (hwords : AsksCheck w profile maxDepth [file] words) :
    ReportsOn w file (Template.fault? limit source) (run w words) := by
  have hreports := reports_of_settings hs hstore (FileTree.readText_toText_ofText hread) hlimit
  have hrun := run_of_reports hwords hreports
  obtain ⟨name, hreport, hname⟩ := exists_checkReport_eq w.width (.ofText file)
    fun e (he : e ∈ Template.fault? limit source) => ordinary_of_fault? he
  refine ⟨?_, name, _, ?_, rfl, Console.shows_wrapped _ _, hname⟩
  · rw [hrun, Option.isSome_map]
  · rw [hrun, ← hreport]
    rfl

/-- What a report shows of a file whose name has no character that may be taken for a mark. -/
theorem ReportsOn.output_eq {file : Text} {found : Option Template.SyntaxError} {o : Outcome}
    (h : ReportsOn w file found o) (hslash : '\\' ∉ (Path.ofText file).toText)
    (hcolon : ':' ∉ (Path.ofText file).toText) :
    o.output = .ofText (Console.ended (Console.wrapped w.width (Console.laid (reportText
      ((Path.ofText file).toText ++ if found.isSome then [':'] else []) found)))) := by
  obtain ⟨name, lines, houtput, rfl, -, hname⟩ := h.shown
  rw [← hname hslash hcolon]
  exact houtput

/-- A short report on a file with a plain name is printed on one line. -/
theorem ReportsOn.output_of_all_isPlain {file line : Text} {found : Option Template.SyntaxError}
    {o : Outcome} (h : ReportsOn w file found o)
    (hslash : '\\' ∉ (Path.ofText file).toText) (hcolon : ':' ∉ (Path.ofText file).toText)
    (hlaid : Console.laid (reportText
      ((Path.ofText file).toText ++ if found.isSome then [':'] else []) found) = line)
    (hline : line.all isPlain = true) (hwidth : 0 < w.width) (hlength : line.length ≤ w.width) :
    o.output = .ofText (line ++ ['\n']) := by
  rw [h.output_eq hslash hcolon, hlaid, Console.wrapped_of_all_isPlain hwidth hline hlength]
  exact congrArg Symbols.ofText (List.flatMap_singleton ..)

/-- A run that reports on a file fails if something is found in it. -/
theorem ReportsOn.exitCode_eq_one_iff {file : Text} {found : Option Template.SyntaxError} {o : Outcome}
    (h : ReportsOn w file found o) : o.exitCode = 1 ↔ found.isSome = true := by
  rw [h.outcome]
  cases found <;> simp [Outcome.printing]

/-- A check of files prints a report on each, and fails if something is found in one of them. -/
theorem run_of_sources (found : Text → Option Template.SyntaxError)
    (hs : w.settings profile (depthOption maxDepth) = .ok s) (hstore : w.store s = .ok store)
    (hlimit : s.maxDepth = some limit)
    (hread : ∀ file ∈ files, ∃ source, w.files.readText file = .ok source ∧
      Template.fault? limit source = found file)
    (hwords : AsksCheck w profile maxDepth files words) :
    run w words = .printing w (if ∃ file ∈ files, (found file).isSome = true then 1 else 0)
      (files.flatMap fun file => checkReport w.width (.ofText file) ((found file).map complaint)) := by
  have hreports : reports w profile (files.map Path.ofText) maxDepth =
      .ok (files.map fun file => (.ofText file, (found file).map complaint)) := by
    refine reports_of_sources Path.ofText found hs hstore hlimit fun file hfile => ?_
    obtain ⟨source, hsource, hfound⟩ := hread file hfile
    exact ⟨source, FileTree.readText_toText_ofText hsource, hfound⟩
  rw [run_of_results hwords hreports, List.flatMap_map]
  simp only [List.any_map, List.any_eq_true, Function.comp_apply, Option.isSome_map]

/-- **A check of many files says of each what a check of it alone says.** -/
theorem check_separates {alone : Text → List Text} (h : Checkable w profile maxDepth files)
    (hopens : Opens w profile maxDepth) (hwords : AsksCheck w profile maxDepth files words)
    (halone : ∀ file ∈ files, AsksCheck w profile maxDepth [file] (alone file)) :
    Separates w profile maxDepth files words alone := by
  obtain ⟨s, hs⟩ := h.configured
  obtain ⟨store, hstore⟩ := hopens s hs
  obtain ⟨limit, hlimit⟩ := exists_maxDepth_of_settings hs
  choose! source hsource using h.texts
  have hreports (file : Text) (hfile : file ∈ files) :
      ReportsOn w file (Template.fault? limit (source file)) (run w (alone file)) :=
    reportsOn_of_source hs hstore hlimit (hsource file hfile) (halone file hfile)
  have hrun := run_of_sources (fun file => Template.fault? limit (source file)) hs hstore hlimit
    (fun file hfile => ⟨source file, hsource file hfile, rfl⟩) hwords
  have houtput : (run w words).output = files.flatMap fun file => (run w (alone file)).output := by
    have hreport (file : Text) (hfile : file ∈ files) : (run w (alone file)).output = .ofText
        (checkReport w.width (.ofText file) ((Template.fault? limit (source file)).map complaint)) := by
      rw [(hreports file hfile).outcome]
      rfl
    rw [hrun, List.flatMap_congr hreport]
    exact List.map_flatMap
  exact
    { output := houtput
      lines := fun hlines => printsLineEach_of_flatMap hlines houtput
      exitCode := by
        have hfails : (∃ file ∈ files, (run w (alone file)).exitCode = 1) ↔
            ∃ file ∈ files, (Template.fault? limit (source file)).isSome = true :=
          exists_congr fun file => and_congr_right fun hfile => (hreports file hfile).exitCode_eq_one_iff
        rw [hrun]
        exact if_congr hfails.symm rfl rfl
      quiet := ⟨_, _, hrun⟩
      reports := ⟨s, limit, hs, hlimit, fun file hfile =>
        ⟨source file, hsource file hfile, hreports file hfile⟩⟩ }

end

/-! A fine template beside one that ends a block which it has not begun, and one that does not end a loop. -/

/-- A loop that is not ended. -/
def openText : Text := "\x7b\x7b#each services\x7d\x7d<li>\x7b\x7bname\x7d\x7d</li>"

/-- The templates in a directory `t`. -/
def mixedTree : FileTree where
  items := [([['t']], .directory), ([['t'], "a.html".toList], .file (Text.encoded ['x'])),
    ([['t'], "b.html".toList], .file (Text.encoded strayText)),
    ([['t'], "c.html".toList], .file (Text.encoded openText))]
  workingDirectory := []

/-- Surroundings without configuration files. -/
def mixedSurroundings : Surroundings := ⟨mixedTree, .ofText "/u".toList, none, false, 80⟩

/-- Two of the templates by their names, the fine one twice. -/
def mixedFiles : List Text := ["t/a.html", "t/b.html", "t/a.html"]

theorem readText_mixedTree : mixedTree.readText "t/a.html" = .ok ['x'] ∧
    mixedTree.readText "t/b.html" = .ok strayText ∧ mixedTree.readText "t/c.html" = .ok openText :=
  ⟨by cbv, by cbv, by cbv⟩

theorem settings_mixedTree : mixedSurroundings.settings none (depthOption none) = .ok .default := by
  refine settings_of_load (Config.load_of_absent (by cbv) ?_)
  simp only [Config.projectFiles, List.forall_mem_cons]
  exact ⟨by cbv, by cbv, by cbv, List.forall_mem_nil _⟩

theorem opens_mixedTree : Opens mixedSurroundings none none := by
  intro s h
  cases settings_mixedTree.symm.trans h
  exact ⟨mixedTree.store ["templates".toList], store_of_templateDir (by cbv)⟩

/-- The fault in the middle is reported between the reports on the fine template. -/
theorem check_separates_mixedTree :
    Checkable mixedSurroundings none none mixedFiles ∧ Opens mixedSurroundings none none ∧
      AsksCheck mixedSurroundings none none mixedFiles (checkWords none none mixedFiles) ∧
      (∀ file ∈ mixedFiles, AsksCheck mixedSurroundings none none [file] (checkWords none none [file])) ∧
      (run mixedSurroundings (checkWords none none mixedFiles)).exitCode = 1 ∧
      (run mixedSurroundings (checkWords none none mixedFiles)).output =
        .ofText ("ok   t/a.html\n" ++ ("FAIL t/b.html: line 1, column 1: " ++ strayDetail ++ "\n") ++
          "ok   t/a.html\n") := by
  obtain ⟨hfine, hstray, -⟩ := readText_mixedTree
  have htexts : ∀ file ∈ mixedFiles, ∃ source, mixedTree.readText file = .ok source := by
    simp only [mixedFiles, List.forall_mem_cons]
    exact ⟨⟨_, hfine⟩, ⟨_, hstray⟩, ⟨_, hfine⟩, List.forall_mem_nil _⟩
  have hcheckable : Checkable mixedSurroundings none none mixedFiles := ⟨htexts, _, settings_mixedTree⟩
  have hwords : AsksCheck mixedSurroundings none none mixedFiles (checkWords none none mixedFiles) :=
    asksCheck_checkWords none (List.cons_ne_nil _ _) rfl htexts
  have halone : ∀ file ∈ mixedFiles,
      AsksCheck mixedSurroundings none none [file] (checkWords none none [file]) :=
    asksCheck_alone none rfl htexts
  have hseparates := check_separates hcheckable opens_mixedTree hwords halone
  refine ⟨hcheckable, opens_mixedTree, hwords, halone, ?_⟩
  obtain ⟨s, limit, hs, hlimit, hreports⟩ := hseparates.reports
  cases settings_mixedTree.symm.trans hs
  cases hlimit
  obtain ⟨source, hsource, hfineReport⟩ := hreports "t/a.html".toList List.mem_cons_self
  cases hfine.symm.trans hsource
  obtain ⟨source, hsource, hstrayReport⟩ := hreports "t/b.html".toList
    (List.mem_cons_of_mem _ List.mem_cons_self)
  cases hstray.symm.trans hsource
  have hnone : Template.fault? 64 ['x'] = none := by cbv
  rw [hnone] at hfineReport
  rw [fault?_strayText] at hstrayReport
  have hfineLine : (run mixedSurroundings (checkWords none none ["t/a.html".toList])).output =
      .ofText ("ok   t/a.html" ++ ['\n']) :=
    hfineReport.output_of_all_isPlain (by decide) (by decide) (by decide +kernel) (by decide +kernel)
      (by decide) (by decide)
  have hstrayLine : (run mixedSurroundings (checkWords none none ["t/b.html".toList])).output =
      .ofText ("FAIL t/b.html: line 1, column 1: " ++ strayDetail ++ ['\n']) :=
    hstrayReport.output_of_all_isPlain (by decide) (by decide) (by decide +kernel) (by decide +kernel)
      (by decide) (by decide)
  constructor
  · rw [hseparates.exitCode]
    exact if_pos ⟨_, List.mem_cons_of_mem _ List.mem_cons_self,
      congrArg Outcome.exitCode hstrayReport.outcome⟩
  · rw [hseparates.output]
    simp only [mixedFiles, List.flatMap_cons, List.flatMap_nil, hfineLine, hstrayLine, Symbols.ofText,
      List.map_append, List.append_nil, List.append_assoc]
    rfl

/-- The one template of the tree with the link, twice. -/
def loopFiles : List Text := ["t/p.html", "t/p.html"]

/-- Where the template directory cannot be looked for, nothing is reported. -/
theorem loopTree_reports_nothing :
    Checkable loopSurroundings none none loopFiles ∧
      AsksCheck loopSurroundings none none loopFiles (checkWords none none loopFiles) ∧
      (run loopSurroundings (checkWords none none loopFiles)).output = [] ∧
      ¬ PrintsLineEach loopFiles (run loopSurroundings (checkWords none none loopFiles)) := by
  have hread : loopTree.readText "t/p.html" = .ok ['x'] := by cbv
  have htexts : ∀ file ∈ loopFiles, ∃ source, loopTree.readText file = .ok source := by
    simp only [loopFiles, List.forall_mem_cons]
    exact ⟨⟨_, hread⟩, ⟨_, hread⟩, List.forall_mem_nil _⟩
  have hwords : AsksCheck loopSurroundings none none loopFiles (checkWords none none loopFiles) :=
    asksCheck_checkWords none (List.cons_ne_nil _ _) rfl htexts
  have houtput : (run loopSurroundings (checkWords none none loopFiles)).output = .ofText [] := by
    rw [run_of_unopened hwords settings_loopTree store_loopTree]
    rfl
  refine ⟨⟨htexts, _, settings_loopTree⟩, hwords, houtput, fun hlines => ?_⟩
  have hcount := hlines.count_eq houtput
  cases hcount

/-- The line that the report on the open loop is broken behind. -/
def openLine : Text :=
  "FAIL t/c.html: line 1, column 1: '\x7b\x7b#each services\x7d\x7d' is never closed with "

/-- What it is broken in front of. -/
def openEnd : Text := "'\x7b\x7b/each\x7d\x7d'"

/-- At the usual width the report is broken there. -/
theorem wrapped_openLine : Console.wrapped 80 (openLine ++ openEnd) = [openLine, openEnd] := by
  have hline : openLine.columns = 75 := Text.columns_of_all_isPlain (by decide +kernel)
  have hend : openEnd.columns = 11 := Text.columns_of_all_isPlain (by decide +kernel)
  have htrimmed : openEnd.trimmed = openEnd := by decide +kernel
  rw [Console.wrapped, if_neg (by decide), Text.parts_of_notMem (by decide +kernel),
    List.flatMap_singleton]
  exact Console.broken_append (by decide +kernel) (by decide) (by decide +kernel) (by rw [hline]; decide)
    (by decide) (by rw [hend]; decide) (by rw [htrimmed, hline, hend]; decide)

/-- A report that is too long for one line is broken. -/
theorem openText_breaks_line :
    Checkable mixedSurroundings none none ["t/c.html".toList] ∧ Opens mixedSurroundings none none ∧
      AsksCheck mixedSurroundings none none ["t/c.html".toList]
        (checkWords none none ["t/c.html".toList]) ∧
      (run mixedSurroundings (checkWords none none ["t/c.html".toList])).output =
        .ofText (Console.ended [openLine, openEnd]) ∧
      ¬ PrintsLineEach ["t/c.html".toList]
        (run mixedSurroundings (checkWords none none ["t/c.html".toList])) := by
  obtain ⟨-, -, hread⟩ := readText_mixedTree
  have htexts : ∀ file ∈ ["t/c.html".toList], ∃ source, mixedTree.readText file = .ok source :=
    List.forall_mem_singleton.mpr ⟨_, hread⟩
  have hwords : AsksCheck mixedSurroundings none none ["t/c.html".toList]
      (checkWords none none ["t/c.html".toList]) :=
    asksCheck_checkWords none (List.cons_ne_nil _ _) rfl htexts
  have hreport := reportsOn_of_source settings_mixedTree (store_of_templateDir (by cbv)) rfl hread hwords
  have hopen : Template.fault? 64 openText =
      some ⟨.unclosed "\x7b\x7b#each services\x7d\x7d" .eachClose, ⟨0, 1, 1⟩⟩ := by cbv
  rw [hopen] at hreport
  have houtput : (run mixedSurroundings (checkWords none none ["t/c.html".toList])).output =
      .ofText (Console.ended [openLine, openEnd]) := by
    rw [hreport.output_eq (by decide) (by decide), ← wrapped_openLine]
    exact congrArg (fun s => Symbols.ofText (Console.ended (Console.wrapped 80 s))) (by decide +kernel)
  refine ⟨⟨htexts, _, settings_mixedTree⟩, opens_mixedTree, hwords, houtput, fun hlines => ?_⟩
  have hcount := hlines.count_eq houtput
  rw [Console.count_ended (by decide +kernel)] at hcount
  cases hcount

/-- A check may print no line for its files, or more lines than there are files. -/
theorem check_prints_not_line_each :
    (Checkable loopSurroundings none none loopFiles ∧
      AsksCheck loopSurroundings none none loopFiles (checkWords none none loopFiles) ∧
      (run loopSurroundings (checkWords none none loopFiles)).output = [] ∧
      ¬ PrintsLineEach loopFiles (run loopSurroundings (checkWords none none loopFiles))) ∧
    Checkable mixedSurroundings none none ["t/c.html".toList] ∧ Opens mixedSurroundings none none ∧
      AsksCheck mixedSurroundings none none ["t/c.html".toList]
        (checkWords none none ["t/c.html".toList]) ∧
      (run mixedSurroundings (checkWords none none ["t/c.html".toList])).output =
        .ofText (Console.ended [openLine, openEnd]) ∧
      ¬ PrintsLineEach ["t/c.html".toList]
        (run mixedSurroundings (checkWords none none ["t/c.html".toList])) :=
  ⟨loopTree_reports_nothing, openText_breaks_line⟩

end Stencil.CommandLine
