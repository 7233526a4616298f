import Stencil.Proofs.CommandLine.Checking
import Stencil.Proofs.Config.Limits

/-!
# What a check says of a rendering

A template is checked by its path, and rendered by its name in a directory. A check says what a rendering
will say (`check_predicts_render`): the file is found either way, its text is read by the same rules under
the same depth limit, and no context has a part in that. What is wrong with it is worded in two ways, and
both wordings give the place away.

The two commands part where only one of them looks. A check looks for the template directory of the
configuration, although it takes nothing from there, and a rendering opens its file under the place that
the path is resolved to, which may be too long for the system where the path itself is not.
-/

namespace Stencil

/-! ## Places in words -/

namespace Text

theorem takeWhile_ofNat_append (n : Nat) {s : Text} (hs : ∀ c ∈ s.head?, c.isDigit = false) :
    (ofNat n ++ s).takeWhile Char.isDigit = ofNat n := by
  have hdigits : ∀ c ∈ ofNat n, c.isDigit = true :=
    fun c hc => Nat.isDigit_of_mem_toDigits (by decide) (by decide) hc
  rw [List.takeWhile_append_of_pos hdigits]
  cases s with
  | nil => simp
  | cons c rest =>
    have hc : ¬ c.isDigit = true := Bool.eq_false_iff.mp (hs c rfl)
    rw [List.takeWhile_cons_of_neg hc, List.append_nil]

/-- A numeral can be told from what follows it, unless that begins with a digit. -/
theorem ofNat_append_inj {m n : Nat} {s s' : Text} (hs : ∀ c ∈ s.head?, c.isDigit = false)
    (hs' : ∀ c ∈ s'.head?, c.isDigit = false) (h : ofNat m ++ s = ofNat n ++ s') : m = n ∧ s = s' := by
  have hdigits : ofNat m = ofNat n := by
    rw [← takeWhile_ofNat_append m hs, h, takeWhile_ofNat_append n hs']
  have hvalue : m = n := by
    have hread := congrArg (Nat.ofDigitChars 10 · 0) hdigits
    simpa only [ofNat, Nat.ofDigitChars_ten_toDigits] using hread
  rw [hdigits] at h
  exact ⟨hvalue, List.append_cancel_left h⟩

/-- A line and a column can be told from the text that they are put into, if neither numeral stands in
front of a digit there. -/
theorem placed_inj (start : Text) {mid stop detail detail' : Text} {line line' column column' : Nat}
    (hmid : ∀ rest : Text, ∀ c ∈ (mid ++ rest).head?, c.isDigit = false)
    (hstop : ∀ rest : Text, ∀ c ∈ (stop ++ rest).head?, c.isDigit = false)
    (h : start ++ ofNat line ++ mid ++ ofNat column ++ stop ++ detail =
      start ++ ofNat line' ++ mid ++ ofNat column' ++ stop ++ detail') :
    line = line' ∧ column = column' ∧ detail = detail' := by
  simp only [List.append_assoc] at h
  obtain ⟨hline, h⟩ := ofNat_append_inj (hmid _) (hmid _) (List.append_cancel_left h)
  obtain ⟨hcolumn, h⟩ := ofNat_append_inj (hstop _) (hstop _) (List.append_cancel_left h)
  exact ⟨hline, hcolumn, List.append_cancel_left h⟩

end Text

namespace CommandLine

/-! ## Templates for both commands -/

/-- A template that both commands can be asked about: its name has a suffix, its path leads to a text
below the directory, and the configuration is valid. -/
structure Posed (w : Surroundings) (profile : Option Text) (maxDepth : Option Int)
    (directory template : Text) : Prop where
  sound : w.files.Sound
  suffix : (Path.ofText template).suffix ≠ []
  text : ∃ source, w.files.readText (templatePath directory template).toText = .ok source
  below : ∃ dir p, w.files.resolved (.ofText directory) = .ok dir ∧
    w.files.resolved (templatePath directory template) = .ok p ∧ dir <+: p
  configured : ∃ s, w.settings profile (depthOption maxDepth) = .ok s

/-- The configured template directory can be looked for. -/
def Opens (w : Surroundings) (profile : Option Text) (maxDepth : Option Int) : Prop :=
  ∀ s, w.settings profile (depthOption maxDepth) = .ok s → ∃ store, w.store s = .ok store

/-- The place that a path is resolved to is not too long for the system. -/
def Fits (w : Surroundings) (path : Path) : Prop :=
  ∀ p, w.files.resolved path = .ok p →
    FileTree.size ('/' :: Text.joined ['/'] p) ≤ FileTree.longestPath

/-- Command lines for a check of a template and for a rendering of it, with a context that can be
made. -/
structure Asked (w : Surroundings) (profile : Option Text) (maxDepth : Option Int)
    (directory template : Text) (checkWords renderWords : List Text) (r : Rendering) : Prop where
  check : Request.ofWords w.files checkWords =
    .ok (.command profile (.check [templatePath directory template] maxDepth))
  render : Request.ofWords w.files renderWords = .ok (.command profile (.render r))
  rendering : r = renderingOf directory template maxDepth r.contextFiles r.vars
  context : ∃ context, Context.build w.files r.contextFiles r.vars = .ok context

/-- A check says what a rendering says: that the template is fine if and only if no syntax error ends the
rendering, and what is wrong with it, and where, if and only if the rendering is ended by an error that
says so. -/
structure Predicts (w : Surroundings) (profile : Option Text) (maxDepth : Option Int)
    (directory template : Text) (checkWords renderWords : List Text) (r : Rendering) : Prop where
  fine : (run w checkWords).exitCode = 0 ∧
      (run w checkWords).output = .ofText (checkReport w.width (templatePath directory template) none) ↔
    ∀ message, ¬ r.Raises w profile message
  faulty : ∀ (line column : Nat) (detail : Text),
    let finding := "line " ++ Text.ofNat line ++ ", column " ++ Text.ofNat column ++ ": " ++ detail
    let message := template ++ ":" ++ Text.ofNat line ++ ":" ++ Text.ofNat column ++ ": " ++ detail
    reports w profile [templatePath directory template] maxDepth =
          .ok [(templatePath directory template, some finding)] ∧
        (run w checkWords).exitCode = 1 ∧
        (run w checkWords).output =
          .ofText (checkReport w.width (templatePath directory template) (some finding)) ↔
      r.Raises w profile message ∧ (run w renderWords).exitCode = 1 ∧
        (run w renderWords).errors = Outcome.notice "Error" message

section

variable {w : Surroundings} {profile : Option Text} {maxDepth : Option Int} {directory template : Text}

/-! ## What both say -/

theorem complaint_eq_iff {e : Template.SyntaxError} {line column : Nat} {detail : Text} :
    complaint e = "line " ++ Text.ofNat line ++ ", column " ++ Text.ofNat column ++ ": " ++ detail ↔
      e.position.line = line ∧ e.position.column = column ∧ e.misuse.message = detail := by
  constructor
  · exact Text.placed_inj "line " (fun _ _ hc => by cases hc; rfl) (fun _ _ hc => by cases hc; rfl)
  · rintro ⟨rfl, rfl, rfl⟩
    rfl

theorem message_eq_iff {e : Template.SyntaxError} {template : Text} {line column : Nat} {detail : Text} :
    (Report.ofSyntaxError template e).message =
        template ++ ":" ++ Text.ofNat line ++ ":" ++ Text.ofNat column ++ ": " ++ detail ↔
      e.position.line = line ∧ e.position.column = column ∧ e.misuse.message = detail := by
  constructor
  · exact Text.placed_inj (template ++ ":") (fun _ _ hc => by cases hc; rfl)
      (fun _ _ hc => by cases hc; rfl)
  · rintro ⟨rfl, rfl, rfl⟩
    rfl

/-- Settings that a valid configuration makes have a depth limit. -/
theorem exists_maxDepth_of_settings {options : List (Text × Value)} {s : Settings}
    (hs : w.settings profile options = .ok s) : ∃ limit, s.maxDepth = some limit := by
  obtain ⟨table, hload, hbuild⟩ := bind_eq_ok_iff.mp hs
  exact Config.maxDepth_of_build (mapError_eq_ok_iff.mp hload) (mapError_eq_ok_iff.mp hbuild)

/-- **A check finds what every rendering finds**, whatever its context is: nothing, or the error that ends
it. -/
theorem Posed.exists_fault (h : Posed w profile maxDepth directory template)
    (hopens : Opens w profile maxDepth) (hfits : Fits w (templatePath directory template)) :
    ∃ found : Option Template.SyntaxError,
      reports w profile [templatePath directory template] maxDepth =
          .ok [(templatePath directory template, found.map complaint)] ∧
        ∀ contextFiles vars, (∃ context, Context.build w.files contextFiles vars = .ok context) →
          ∀ fault,
            (renderingOf directory template maxDepth contextFiles vars).outcome w profile =
                .error (.reported (.fault fault)) ↔
              ∃ e, found = some e ∧ Report.ofSyntaxError template e = .fault fault := by
  obtain ⟨s, hs⟩ := h.configured
  obtain ⟨store, hstore⟩ := hopens s hs
  obtain ⟨limit, hlimit⟩ := exists_maxDepth_of_settings hs
  obtain ⟨source, hsource⟩ := h.text
  obtain ⟨dir, p, hdir, hplace, hbelow⟩ := h.below
  have hnames : (Path.ofText template).names ≠ [] := by
    intro hnone
    refine h.suffix ?_
    rw [Path.suffix, Path.name, hnone]
    rfl
  have hread := FileTree.readBelow_of_readText h.sound (Path.normal_ofText directory) hnames hsource
    hdir hplace hbelow (hfits p hplace)
  refine ⟨Template.fault? limit source, reports_of_settings hs hstore hsource hlimit, ?_⟩
  rintro contextFiles vars ⟨context, hcontext⟩ fault
  rw [Rendering.outcome, symbols_of_settings hs hlimit hdir h.suffix hread hcontext]
  simp only [← Template.process_eq_reported_iff context]
  cases Template.process limit context source with
  | ok output => exact iff_of_false (by rintro ⟨⟩) (by rintro ⟨_, ⟨⟩, _⟩)
  | error e =>
    cases e with
    | escaped e => exact iff_of_false (by rintro ⟨⟩) (by rintro ⟨_, ⟨⟩, _⟩)
    | reported e =>
      simp only [Except.mapError, Failure.map, Except.map, Except.error.injEq,
        Failure.reported.injEq, exists_eq_left']

/-- **A check predicts a rendering**, whatever its context is. -/
theorem check_predicts_render {checkWords renderWords : List Text} {r : Rendering}
    (h : Posed w profile maxDepth directory template) (hopens : Opens w profile maxDepth)
    (hfits : Fits w (templatePath directory template))
    (hasked : Asked w profile maxDepth directory template checkWords renderWords r) :
    Predicts w profile maxDepth directory template checkWords renderWords r := by
  obtain ⟨found, hreports, hfault⟩ := h.exists_fault hopens hfits
  replace hfault := hfault r.contextFiles r.vars hasked.context
  rw [← hasked.rendering] at hfault
  have hrun := run_of_reports hasked.check hreports
  cases found with
  | none =>
    have hnever (message : Text) :
        ¬ r.Raises w profile message := by
      rintro ⟨fault, houtcome, -⟩
      obtain ⟨e, he, -⟩ := (hfault fault).mp houtcome
      cases he
    constructor
    · rw [hrun]
      exact iff_of_true ⟨rfl, rfl⟩ hnever
    · intro line column detail
      rw [hreports]
      refine iff_of_false ?_ ?_
      · rintro ⟨h, -⟩
        cases h
      · rintro ⟨h, -⟩
        exact hnever _ h
  | some e =>
    -- The report on the syntax error is the one that ends the rendering, and no other is.
    have houtcome : r.outcome w profile =
        .error (.reported (Report.ofSyntaxError template e)) := (hfault _).mpr ⟨e, rfl, rfl⟩
    have hfailing : run w renderWords = .failing w (.reported (Report.ofSyntaxError template e)) := by
      simp only [run, hasked.render, Request.outcome, Command.outcome, houtcome]
    have hraises (message : Text) :
        r.Raises w profile message ↔
          (Report.ofSyntaxError template e).message = message := by
      constructor
      · rintro ⟨fault, hother, hmessage⟩
        cases houtcome.symm.trans hother
        exact hmessage
      · exact fun hmessage => ⟨_, houtcome, hmessage⟩
    constructor
    · rw [hrun]
      refine iff_of_false ?_ ?_
      · rintro ⟨hzero, -⟩
        cases hzero
      · intro hnever
        exact hnever _ ((hraises _).mpr rfl)
    · intro line column detail
      dsimp only
      rw [hreports, hrun, hfailing, hraises, message_eq_iff]
      constructor
      · rintro ⟨hfound, -, -⟩
        have hplace := complaint_eq_iff.mp (by simpa using hfound)
        exact ⟨hplace, rfl, by rw [← message_eq_iff.mpr hplace]; rfl⟩
      · rintro ⟨hplace, -, -⟩
        have hcomplaint := complaint_eq_iff.mpr hplace
        rw [← hcomplaint]
        exact ⟨rfl, rfl, rfl⟩

end

/-- Words that ask both commands for a template, without a context. -/
theorem asked_of_stat {w : Surroundings} {directory template word : Text} (bytes : ByteArray)
    (hwords : givesOptions word = false ∧ givesOptions template = false)
    (hpath : Path.ofText word = templatePath directory template)
    (hfile : w.files.stat word = .ok (.file bytes)) (hdirectory : w.files.stat directory = .ok .directory) :
    Asked w none none directory template ["check".toList, word]
      ["render".toList, template, "-d".toList, directory]
      (renderingOf directory template none [] []) where
  check := by
    rw [← hpath]
    exact ofWords_checkOne bytes hwords.1 hfile
  render := ofWords_renderBelow hwords.2 hdirectory
  rendering := rfl
  context := ⟨[], Context.build_nil⟩

/-! A template that ends a block which it has not begun. -/

/-- The template. -/
def strayText : Text := "\x7b\x7b/if\x7d\x7d"

/-- What is wrong with it. -/
theorem fault?_strayText : Template.fault? 64 strayText = some ⟨.unopened .ifClose, ⟨0, 1, 1⟩⟩ := by
  cbv

/-- What is wrong with it, in words. -/
def strayDetail : Text := "'\x7b\x7b/if\x7d\x7d' has no matching opening tag"

/-- The template in a directory `t`. -/
def strayTree : FileTree where
  items := [([['t']], .directory), ([['t'], "p.html".toList], .file (Text.encoded strayText))]
  workingDirectory := []

/-- Surroundings without configuration files. -/
def straySurroundings : Surroundings := ⟨strayTree, .ofText "/u".toList, none, false, 80⟩

theorem load_strayTree : Config.load strayTree (.ofText "/u".toList) ⟨1, []⟩ = .ok [] := by
  refine Config.load_of_absent (by cbv) ?_
  simp only [Config.projectFiles, List.forall_mem_cons]
  exact ⟨by cbv, by cbv, by cbv, List.forall_mem_nil _⟩

/-- A rendering stops where the check found the fault. -/
theorem check_predicts_render_strayTree :
    Posed straySurroundings none none ['t'] "p.html" ∧ Opens straySurroundings none none ∧
      Fits straySurroundings (templatePath ['t'] "p.html") ∧
      Asked straySurroundings none none ['t'] "p.html" ["check", "t/p.html"]
        ["render", "p.html", "-d", ['t']] (renderingOf ['t'] "p.html" none [] []) ∧
      (renderingOf ['t'] "p.html" none [] []).Raises straySurroundings none
        ("p.html:1:1: " ++ strayDetail) := by
  have hs : straySurroundings.settings none (depthOption none) = .ok .default :=
    settings_of_load load_strayTree
  have hstore : straySurroundings.store .default = .ok (strayTree.store ["templates".toList]) :=
    store_of_templateDir (by cbv)
  have htext : strayTree.readText (templatePath ['t'] "p.html").toText = .ok strayText := by cbv
  have hplace : strayTree.resolved (templatePath ['t'] "p.html") = .ok [['t'], "p.html".toList] := by
    cbv
  have hposed : Posed straySurroundings none none ['t'] "p.html" :=
    { sound := FileTree.sound_of_isKept (by cbv)
      suffix := by decide
      text := ⟨strayText, htext⟩
      below := ⟨[['t']], _, by cbv, hplace, by decide⟩
      configured := ⟨.default, hs⟩ }
  have hopens : Opens straySurroundings none none := by
    intro s h
    cases hs.symm.trans h
    exact ⟨_, hstore⟩
  have hfits : Fits straySurroundings (templatePath ['t'] "p.html") := by
    intro p h
    cases hplace.symm.trans h
    decide
  have hasked : Asked straySurroundings none none ['t'] "p.html" ["check", "t/p.html"]
      ["render", "p.html", "-d", ['t']] (renderingOf ['t'] "p.html" none [] []) :=
    asked_of_stat (Text.encoded strayText) (by decide) (by decide) (by cbv) (by cbv)
  have hreports := reports_of_settings hs hstore htext rfl
  rw [fault?_strayText] at hreports
  have hrun := run_of_reports (w := straySurroundings) hasked.check hreports
  refine ⟨hposed, hopens, hfits, hasked, ?_⟩
  have hfaulty := (check_predicts_render hposed hopens hfits hasked).faulty 1 1 strayDetail
  exact (hfaulty.mp ⟨hreports, by rw [hrun]; rfl, by rw [hrun]; rfl⟩).1

/-! A template directory that is configured and cannot be looked for. -/

/-- A link `l` to itself, which is configured, and a template in a directory `t`. -/
def loopTree : FileTree where
  items := [([['l']], .link ['l']), ([['t']], .directory),
    ([['t'], "p.html".toList], .file (Text.encoded ['x'])),
    ([".lightbars.toml".toList], .file (Text.encoded "template_dir='l'".toList))]
  workingDirectory := []

/-- Surroundings in which the link is the template directory. -/
def loopSurroundings : Surroundings := ⟨loopTree, .ofText "/u".toList, none, false, 80⟩

/-- The one text in a table that holds nothing else. -/
def pairOf? : Except DocumentError Value → Option (Text × Text)
  | .ok (.dict [(.text key, .text v)]) => some (key, v)
  | _ => none

theorem eq_of_pairOf? {x : Except DocumentError Value} {key v : Text} (h : pairOf? x = some (key, v)) :
    x = .ok (.dict [(.text key, .text v)]) := by
  unfold pairOf? at h
  split at h
  next =>
    cases h
    rfl
  next => cases h

theorem settings_loopTree : loopSurroundings.settings none (depthOption none) =
    .ok { Settings.default with templateDir := ['l'] } := by
  have hproject : Config.firstTable loopTree ⟨1, []⟩ Config.projectFiles =
      .ok (some [(.text "template_dir", .text ['l'])]) := by
    refine Config.firstTable_of_entries ?_
    exact Config.ofFile_of_text (s := "template_dir='l'".toList) (by cbv) (by cbv)
      (eq_of_pairOf? (by decide +kernel)) (by decide)
  have huser : Config.ofFile loopTree (.ofText "/u".toList) = .ok (.dict []) :=
    Config.ofFile_of_absent (by cbv)
  have hload := Config.load_eq_merged huser hproject
  exact bind_eq_ok_iff.mpr ⟨_, mapError_eq_ok_iff.mpr hload, by rfl⟩

/-- No store is made of the link. -/
theorem store_loopTree : loopSurroundings.store { Settings.default with templateDir := ['l'] } =
    .error (.escaped .unresolvable) := by
  have hunopened : loopTree.resolved (.ofText ['l']) = .error .unresolvable := by cbv
  exact bind_eq_error_iff.mpr (.inl (mapError_eq_error_iff.mpr ⟨_, hunopened, rfl⟩))

theorem loopTree_parts :
    Posed loopSurroundings none none ['t'] "p.html" ∧
      Fits loopSurroundings (templatePath ['t'] "p.html") ∧
      Asked loopSurroundings none none ['t'] "p.html" ["check", "t/p.html"]
        ["render", "p.html", "-d", ['t']] (renderingOf ['t'] "p.html" none [] []) ∧
      ¬ Predicts loopSurroundings none none ['t'] "p.html" ["check", "t/p.html"]
        ["render", "p.html", "-d", ['t']] (renderingOf ['t'] "p.html" none [] []) := by
  have hplace : loopTree.resolved (templatePath ['t'] "p.html") = .ok [['t'], "p.html".toList] := by
    cbv
  have hdir : loopTree.resolved (.ofText ['t']) = .ok [['t']] := by cbv
  have hposed : Posed loopSurroundings none none ['t'] "p.html" :=
    { sound := FileTree.sound_of_isKept (by cbv)
      suffix := by decide
      text := ⟨['x'], by cbv⟩
      below := ⟨_, _, hdir, hplace, by decide⟩
      configured := ⟨_, settings_loopTree⟩ }
  have hfits : Fits loopSurroundings (templatePath ['t'] "p.html") := by
    intro p h
    cases hplace.symm.trans h
    decide
  have hasked : Asked loopSurroundings none none ['t'] "p.html" ["check", "t/p.html"]
      ["render", "p.html", "-d", ['t']] (renderingOf ['t'] "p.html" none [] []) :=
    asked_of_stat (Text.encoded ['x']) (by decide) (by decide) (by cbv) (by cbv)
  refine ⟨hposed, hfits, hasked, fun hpredicts => ?_⟩
  have hread : loopTree.readBelow [['t']] "p.html" = .ok ['x'] := by cbv
  have hsymbols := symbols_of_settings (w := loopSurroundings) settings_loopTree rfl hdir
    hposed.suffix hread Context.build_nil
  have hprocess : Template.process 64 [] ['x'] = .ok [.char 'x'] := by cbv
  rw [hprocess] at hsymbols
  have hnever (message : Text) :
      ¬ (renderingOf ['t'] "p.html" none [] []).Raises loopSurroundings none message := by
    rintro ⟨fault, houtcome, -⟩
    rw [Rendering.outcome, hsymbols] at houtcome
    cases houtcome
  have hrun := run_of_unopened hasked.check settings_loopTree store_loopTree
  have hfine := (hpredicts.fine.mpr hnever).1
  rw [hrun] at hfine
  cases hfine

/-! A template that lies too deep. -/

/-- A name of 254 letters. -/
def longName : Text := List.replicate 254 'a'

/-- A place of 4,080 bytes. -/
def deepPlace : Place := List.replicate 16 longName

/-- The name of a template, too long to follow that place. -/
def deepTemplate : Text := "unusually-long.html"

/-- A link `l` to a place so long that no template in it has a path which the system takes. -/
def deepTree : FileTree where
  items := deepPlace.inits.map (·, .directory) ++
    [(deepPlace ++ [deepTemplate], .file (Text.encoded strayText)),
      ([['l']], .link (⟨1, deepPlace⟩ : Path).toText)]
  workingDirectory := []

/-- Surroundings without configuration files. -/
def deepSurroundings : Surroundings := ⟨deepTree, .ofText "/u".toList, none, false, 80⟩

theorem find?_directories (p : Place) (places : List Place) (rest : List (Place × Item)) :
    FileTree.find? p (places.map (·, .directory) ++ rest) =
      if p ∈ places then some .directory else FileTree.find? p rest := by
  induction places with
  | nil => rfl
  | cons q places ih =>
    rw [List.map_cons, List.cons_append, FileTree.find?, ih]
    by_cases hq : q = p
    · rw [if_pos hq, if_pos (hq ▸ List.mem_cons_self)]
    · simp only [if_neg hq, List.mem_cons, or_iff_right (Ne.symm hq)]

theorem item?_deepTree (p : Place) : deepTree.item? p =
    if p <+: deepPlace then some .directory
    else if deepPlace ++ [deepTemplate] = p then some (.file (Text.encoded strayText))
    else if [['l']] = p then some (.link (⟨1, deepPlace⟩ : Path).toText) else none := by
  rw [FileTree.item?]
  split
  next hp => rw [hp, if_pos List.nil_prefix]
  next =>
    rw [deepTree, find?_directories]
    simp only [List.mem_inits]
    rfl

theorem names_deepPlace {p : Place} (h : p <+: deepPlace ++ [deepTemplate]) :
    ∀ name ∈ p, FileTree.isHere name = false ∧ name ≠ Path.up ∧ Text.nul ∉ name ∧
      FileTree.size name ≤ FileTree.longestName := by
  intro name hname
  rcases List.mem_append.mp (h.subset hname) with hdeep | hlast
  · rw [List.eq_of_mem_replicate hdeep]
    decide +kernel
  · rw [List.mem_singleton.mp hlast]
    decide +kernel

theorem not_prefix_link : ¬ [['l']] <+: deepPlace := by
  intro h
  have hmem : ['l'] ∈ deepPlace := h.subset List.mem_cons_self
  have hname : ['l'] = longName := List.eq_of_mem_replicate hmem
  exact absurd hname (by decide)

theorem not_prefix_template : ¬ deepPlace ++ [deepTemplate] <+: deepPlace := by
  intro h
  have hlength := h.length_le
  rw [List.length_append, List.length_singleton] at hlength
  omega

theorem directory_deepTree {p : Place} (h : p <+: deepPlace) : deepTree.item? p = some .directory := by
  rw [item?_deepTree, if_pos h]

theorem sound_deepTree : deepTree.Sound := by
  have hcases (p : Place) (item : Item) (h : deepTree.item? p = some item) :
      p <+: deepPlace ++ [deepTemplate] ∨ p = [['l']] := by
    rw [item?_deepTree] at h
    split at h
    next hp => exact .inl (hp.trans (List.prefix_append ..))
    next =>
      split at h
      next hp => exact .inl (hp ▸ List.prefix_rfl)
      next =>
        split at h
        next hp => exact .inr hp.symm
        next => cases h
  constructor
  · intro p item h q hq hne
    refine directory_deepTree ?_
    rcases hcases p item h with hdeep | rfl
    · rcases List.prefix_concat_iff.mp (hq.trans hdeep) with rfl | hq'
      · exact absurd (hq.eq_of_length (Nat.le_antisymm hq.length_le hdeep.length_le)) hne
      · exact hq'
    · rcases List.prefix_concat_iff.mp (show q <+: [] ++ [['l']] from hq) with hq | hq
      · exact absurd hq hne
      · exact hq.trans List.nil_prefix
  · intro p item h
    rcases hcases p item h with hdeep | rfl
    · exact names_deepPlace hdeep
    · decide +kernel

theorem file_deepTree : deepTree.item? (deepPlace ++ [deepTemplate]) =
    some (.file (Text.encoded strayText)) := by
  rw [item?_deepTree, if_neg not_prefix_template, if_pos rfl]

theorem link_deepTree : deepTree.item? [['l']] = some (.link (⟨1, deepPlace⟩ : Path).toText) := by
  have htemplate : deepPlace ++ [deepTemplate] ≠ [['l']] := by
    intro h
    have hlength := congrArg List.length h
    cases hlength
  rw [item?_deepTree, if_neg not_prefix_link, if_neg htemplate, if_pos rfl]

theorem normal_deepPlace : (⟨1, deepPlace⟩ : Path).Normal := by
  refine ⟨by decide, fun name hname => ?_⟩
  rw [List.eq_of_mem_replicate hname]
  decide +kernel

/-- A walk along the place arrives there. -/
theorem walk_deepPlace (links : Nat) {names : List Text} (h : names <+: deepPlace ++ [deepTemplate]) :
    deepTree.walk links [] names = .ok names := by
  have hfile := (FileTree.FileAt.mk (t := deepTree)
    (sound_deepTree.way _ _ file_deepTree) file_deepTree)
  have hplain : FileTree.Plain names :=
    fun name hname => ⟨(names_deepPlace h name hname).1, (names_deepPlace h name hname).2.1⟩
  refine (FileTree.walk_eq_ok_iff (p := []) (hfile.linkFree.of_prefix h) hplain).mpr ⟨rfl, ?_, ?_⟩
  · rintro front rest rfl hrest
    refine hfile.way front ((List.prefix_append front rest).trans h) ?_
    rintro rfl
    have hlength := h.length_le
    have hpos := List.length_pos_iff.mpr hrest
    rw [List.length_append] at hlength
    omega
  · exact fun name hname => (names_deepPlace h name hname).2.2.2

/-- A walk along the link goes the same way. -/
theorem walk_link (names : List Text) :
    deepTree.walk FileTree.mostLinks [] (['l'] :: names) =
      deepTree.walk (FileTree.mostLinks - 1) [] (deepPlace ++ names) := by
  have htarget : Text.parts '/' (⟨1, deepPlace⟩ : Path).toText = [] :: deepPlace :=
    normal_deepPlace.parts_toText (by decide)
  have hstart : FileTree.startOf [] (⟨1, deepPlace⟩ : Path).toText = [] := ite_self _
  have hhere : deepTree.walk (FileTree.mostLinks - 1) [] ([] :: (deepPlace ++ names)) =
      deepTree.walk (FileTree.mostLinks - 1) [] (deepPlace ++ names) := by
    rw [FileTree.walk]
    rfl
  have hstep : deepTree.walk FileTree.mostLinks [] (['l'] :: names) =
      deepTree.walk (FileTree.mostLinks - 1) (FileTree.startOf [] (⟨1, deepPlace⟩ : Path).toText)
        (Text.parts '/' (⟨1, deepPlace⟩ : Path).toText ++ names) :=
    FileTree.walk_cons_of_link rfl (by decide) (by decide) link_deepTree
  rw [hstep]
  clear hstep
  rw [htarget, hstart, List.cons_append, hhere]

theorem walk_linkTo {names : List Text} (h : names <+: [deepTemplate]) :
    deepTree.walk FileTree.mostLinks [] (['l'] :: names) = .ok (deepPlace ++ names) := by
  rw [walk_link]
  exact walk_deepPlace _ (List.prefix_append_right_inj deepPlace |>.mpr h)

/-- Another name than those two leads to nothing at the root. -/
theorem item?_deepTree_root {name : Text} (h : name ≠ longName ∧ name ≠ ['l']) :
    deepTree.item? [name] = none := by
  have hdeep : ¬ [name] <+: deepPlace := fun h' =>
    h.1 (List.eq_of_mem_replicate (h'.subset List.mem_cons_self))
  have htemplate : deepPlace ++ [deepTemplate] ≠ [name] := by
    intro heq
    cases congrArg List.length heq
  have hlink : [['l']] ≠ [name] := fun heq => h.2 (List.cons.inj heq).1.symm
  rw [item?_deepTree, if_neg hdeep, if_neg htemplate, if_neg hlink]

theorem walk_deepTree_root (name : Text) (h : name ≠ longName ∧ name ≠ ['l']) (links : Nat)
    (hname : FileTree.isHere name = false ∧ name ≠ Path.up)
    (hsize : FileTree.size name ≤ FileTree.longestName) :
    deepTree.walk links [] [name] = .ok [name] := by
  have hlink (target : Text) : deepTree.item? ([] ++ [name]) ≠ some (.link target) := by
    rw [List.nil_append, item?_deepTree_root h]
    exact fun h => nomatch h
  rw [FileTree.walk_cons_of_directory rfl hname hsize hlink, FileTree.walk, List.nil_append]

theorem isFile_deepTree_root (name : Text) (h : name ≠ longName ∧ name ≠ ['l'])
    (hname : FileTree.isHere name = false ∧ name ≠ Path.up)
    (htext : Text.nul ∉ '/' :: name ∧ Text.parts '/' ('/' :: name) = [[], name])
    (hsize : FileTree.size name ≤ FileTree.longestName ∧
      FileTree.size ('/' :: name) ≤ FileTree.longestPath) :
    deepTree.isFile ('/' :: name) = .ok false := by
  have hlocate : deepTree.locate ('/' :: name) = .ok [name] := by
    rw [FileTree.locate, if_neg htext.1, if_neg (List.cons_ne_nil _ _),
      if_neg (Nat.not_lt.mpr hsize.2), htext.2, FileTree.walk]
    exact walk_deepTree_root name h FileTree.mostLinks hname hsize.1
  have hstat : deepTree.stat ('/' :: name) = .error .missingFile := by
    simp only [FileTree.stat, hlocate, bind, Except.bind, item?_deepTree_root h]
    rfl
  rw [FileTree.isFile, hstat]
  rfl

theorem load_deepTree : Config.load deepTree (.ofText "/u".toList) ⟨1, []⟩ = .ok [] := by
  refine Config.load_of_absent
    (isFile_deepTree_root ['u'] (by decide) (by decide) (by decide) (by decide)) ?_
  simp only [Config.projectFiles, List.forall_mem_cons]
  refine ⟨?_, ?_, ?_, List.forall_mem_nil _⟩
  · exact isFile_deepTree_root ".lightbars.toml".toList (by decide) (by decide) (by decide)
      (by decide)
  · exact isFile_deepTree_root "lightbars.toml".toList (by decide) (by decide) (by decide)
      (by decide)
  · exact isFile_deepTree_root "pyproject.toml".toList (by decide) (by decide) (by decide)
      (by decide)

/-- By its resolved place, the template cannot be opened. -/
theorem readBelow_deepTree : deepTree.readBelow deepPlace deepTemplate = .error .nameTooLong := by
  have hwalk := walk_deepPlace 0 (List.prefix_rfl (l := deepPlace ++ [deepTemplate]))
  have hresolved : deepTree.resolved ⟨1, deepPlace ++ [deepTemplate]⟩ =
      .ok (deepPlace ++ [deepTemplate]) := by
    refine FileTree.resolved_of_resolve ?_ (FileTree.resolve_of_walk hwalk)
    rw [Path.mem_toText_iff (by decide) (by decide)]
    rintro ⟨name, hname, hmem⟩
    exact (names_deepPlace List.prefix_rfl name hname).2.2.1 hmem
  refine FileTree.readBelow_of_long (p := deepPlace ++ [deepTemplate]) hresolved
    (List.prefix_append ..) ?_
  have hjoined : Text.joined ['/'] (deepPlace ++ [deepTemplate]) ++ ['/'] =
      (deepPlace ++ [deepTemplate]).flatMap (· ++ ['/']) :=
    Text.joined_append_separator (List.append_ne_nil_of_right_ne_nil _ (List.cons_ne_nil _ _))
  have hlength : ((deepPlace ++ [deepTemplate]).flatMap (· ++ ['/'])).length = 4100 := by decide +kernel
  have hbytes := FileTree.length_le_size ('/' :: Text.joined ['/'] (deepPlace ++ [deepTemplate]))
  rw [← hjoined, List.length_append, List.length_singleton] at hlength
  rw [List.length_cons, hlength] at hbytes
  exact Nat.lt_of_lt_of_le (by decide) hbytes

theorem deepTree_parts :
    Posed deepSurroundings none none ['l'] deepTemplate ∧ Opens deepSurroundings none none ∧
      Asked deepSurroundings none none ['l'] deepTemplate ["check", "l/unusually-long.html"]
        ["render", deepTemplate, "-d", ['l']] (renderingOf ['l'] deepTemplate none [] []) ∧
      ¬ Predicts deepSurroundings none none ['l'] deepTemplate ["check", "l/unusually-long.html"]
        ["render", deepTemplate, "-d", ['l']] (renderingOf ['l'] deepTemplate none [] []) := by
  have hlink : deepTree.walk FileTree.mostLinks [] [['l']] = .ok deepPlace := by
    have h := walk_linkTo (List.nil_prefix (l := [deepTemplate]))
    rwa [List.append_nil] at h
  have htemplate := walk_linkTo (List.prefix_rfl (l := [deepTemplate]))
  have hstatLink : deepTree.stat ['l'] = .ok .directory := by
    refine bind_eq_ok_iff.mpr ⟨deepPlace, hlink, ?_⟩
    rw [directory_deepTree List.prefix_rfl]
    rfl
  have hstat : deepTree.stat "l/unusually-long.html" = .ok (.file (Text.encoded strayText)) := by
    refine bind_eq_ok_iff.mpr ⟨_, htemplate, ?_⟩
    rw [file_deepTree]
    rfl
  have htext : deepTree.readText (templatePath ['l'] deepTemplate).toText = .ok strayText := by
    refine bind_eq_ok_iff.mpr ⟨_, hstat, bind_eq_ok_iff.mpr ⟨_, rfl, ?_⟩⟩
    cbv
  have hdir : deepTree.resolved (.ofText ['l']) = .ok deepPlace :=
    FileTree.resolved_of_resolve (by decide) (FileTree.resolve_of_walk hlink)
  have hplace : deepTree.resolved (templatePath ['l'] deepTemplate) =
      .ok (deepPlace ++ [deepTemplate]) :=
    FileTree.resolved_of_resolve (by decide) (FileTree.resolve_of_walk htemplate)
  have hs : deepSurroundings.settings none (depthOption none) = .ok .default :=
    settings_of_load load_deepTree
  have hposed : Posed deepSurroundings none none ['l'] deepTemplate :=
    { sound := sound_deepTree
      suffix := by decide
      text := ⟨strayText, htext⟩
      below := ⟨deepPlace, _, hdir, hplace, List.prefix_append ..⟩
      configured := ⟨.default, hs⟩ }
  have hstore : ∃ store, deepSurroundings.store .default = .ok store := by
    have htemplates : deepTree.resolved (.ofText "templates") = .ok ["templates".toList] := by
      have hwalk := walk_deepTree_root "templates".toList (by decide) 0 (by decide)
        (by decide)
      exact FileTree.resolved_of_resolve (by decide) (FileTree.resolve_of_walk hwalk)
    exact ⟨_, store_of_templateDir htemplates⟩
  have hopens : Opens deepSurroundings none none := by
    intro s h
    cases hs.symm.trans h
    exact hstore
  have hasked : Asked deepSurroundings none none ['l'] deepTemplate ["check", "l/unusually-long.html"]
      ["render", deepTemplate, "-d", ['l']] (renderingOf ['l'] deepTemplate none [] []) :=
    asked_of_stat (Text.encoded strayText) (by decide) (by decide) hstat hstatLink
  refine ⟨hposed, hopens, hasked, fun hpredicts => ?_⟩
  obtain ⟨store, hstore⟩ := hstore
  have hreports := reports_of_settings hs hstore htext rfl
  rw [fault?_strayText] at hreports
  have hrun := run_of_reports (w := deepSurroundings) hasked.check hreports
  have hraises : (renderingOf ['l'] deepTemplate none [] []).Raises deepSurroundings none
      (deepTemplate ++ ":1:1: " ++ strayDetail) :=
    ((hpredicts.faulty 1 1 strayDetail).mp
      ⟨hreports, by rw [hrun]; rfl, by rw [hrun]; rfl⟩).1
  exact not_raises_of_unread hs hdir hposed.suffix readBelow_deepTree Context.build_nil _ hraises

/-- What the two commands say of a template parts where the configured directory cannot be looked for, and
where the place of the template is too long. -/
theorem check_and_render_part :
    (Posed loopSurroundings none none ['t'] "p.html" ∧
      Fits loopSurroundings (templatePath ['t'] "p.html") ∧
      Asked loopSurroundings none none ['t'] "p.html" ["check", "t/p.html"]
        ["render", "p.html", "-d", ['t']] (renderingOf ['t'] "p.html" none [] []) ∧
      ¬ Predicts loopSurroundings none none ['t'] "p.html" ["check", "t/p.html"]
        ["render", "p.html", "-d", ['t']] (renderingOf ['t'] "p.html" none [] [])) ∧
    Posed deepSurroundings none none ['l'] deepTemplate ∧ Opens deepSurroundings none none ∧
      Asked deepSurroundings none none ['l'] deepTemplate ["check", "l/unusually-long.html"]
        ["render", deepTemplate, "-d", ['l']] (renderingOf ['l'] deepTemplate none [] []) ∧
      ¬ Predicts deepSurroundings none none ['l'] deepTemplate ["check", "l/unusually-long.html"]
        ["render", deepTemplate, "-d", ['l']] (renderingOf ['l'] deepTemplate none [] []) :=
  ⟨loopTree_parts, deepTree_parts⟩

end CommandLine

end Stencil
