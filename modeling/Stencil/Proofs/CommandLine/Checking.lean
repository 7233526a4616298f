import Stencil.Proofs.CommandLine.Delivery
import Stencil.Proofs.Engine.Loading
import Stencil.Proofs.Files.Walking

/-!
# What a check and a rendering come to

A check takes a file by its path and asks what is wrong with its text (`reports_of_settings`). A rendering
takes a template by its name from a directory and asks for its output in a context, which is refused for
the same reason (`symbols_of_settings`). Both start from the settings that the configuration makes: a
rendering has them with another template directory (`settings_renderingOf`), and a check looks for the
configured one although it takes nothing from there.

Each stage is followed here on its own, as long as nothing fails before it.
-/

namespace Stencil

namespace Context

/-- No files and no variables make an empty context. -/
theorem build_nil {t : FileTree} : build t [] [] = .ok [] := by rfl

end Context

namespace Template

/-- What is wrong with a source, if anything. -/
def fault? (limit : Int) (source : Text) : Option SyntaxError :=
  match parse limit source with
  | .ok _ => none
  | .error e => some e

/-- A source is refused for what is wrong with it, in every context. -/
theorem process_eq_reported_iff (context : Dict) {limit : Int} {source : Text} {e : SyntaxError} :
    process limit context source = .error (.reported e) ↔ fault? limit source = some e := by
  unfold process fault?
  cases parse limit source with
  | ok nodes =>
    have hrendered : (rendered context nodes : Except (Failure SyntaxError) Symbols) ≠
        .error (.reported e) := by
      unfold rendered
      split <;> exact fun h => nomatch h
    simpa only [reduceCtorEq, iff_false] using hrendered
  | error other => simp only [Except.error.injEq, Failure.reported.injEq, Option.some.injEq]

end Template

namespace Settings

/-- Under a limit that is a number, a template is refused for what is wrong with it and for nothing
else. -/
theorem process_of_limit {s : Settings} {limit : Int} (h : s.maxDepth = some limit)
    (name source : Text) (context : Dict) :
    s.process name source context =
      (Template.process limit context source).mapError (·.map (TemplateError.malformed name)) := by
  have hcompile : s.compile name source = match Template.parse limit source with
      | .ok nodes => .ok nodes
      | .error e => .error (.reported (.malformed name e)) := by
    simp only [compile, h, Option.getD_some, Option.isNone_some, Bool.false_and]
    rfl
  unfold process Template.process
  rw [hcompile]
  cases Template.parse limit source with
  | error e => rfl
  | ok nodes =>
    show Template.rendered context nodes = (Template.rendered context nodes).mapError _
    unfold Template.rendered
    cases Template.render context nodes <;> rfl

end Settings

namespace Store

variable {store : Store} {s : Settings} {environment : Option Text} {template : Text}

/-- A template with a suffix is read from the store under its own name, where nothing is kept yet. -/
theorem load_of_suffix (hsuffix : (Path.ofText template).suffix ≠ []) :
    (store.load s environment .empty template).1.result =
      match store.read template with
      | .ok source => .ok ⟨template, source⟩
      | .error e => .error (readFailure s template template e) := by
  have hresolve : (store.resolve s template).result = .ok template := by
    rw [resolve, Settings.candidates, if_pos hsuffix]
  have hends := store.ends_load s environment .empty template
  generalize store.load s environment .empty template = answer at hends
  cases hends with
  | unresolved h => cases hresolve.symm.trans h
  | kept _ _ hget => cases hget
  | unread h hread | readToKeep h _ _ hread | readOnly h _ hread =>
    cases hresolve.symm.trans h
    rw [hread]

/-- A template with a suffix is rendered from what is read under its own name. -/
theorem render_of_suffix (hsuffix : (Path.ofText template).suffix ≠ []) (context : Dict) :
    (store.render s environment .empty template context).1.result =
      match store.read template with
      | .ok source => s.process template source context
      | .error e => .error (readFailure s template template e) := by
  have hrender : (store.render s environment .empty template context).1.result =
      (store.load s environment .empty template).1.result.bind
        fun l => s.process l.resolved l.source context := rfl
  rw [hrender, load_of_suffix hsuffix]
  cases store.read template <;> rfl

end Store

namespace CommandLine

/-! ## The two commands -/

/-- The path of a template in a directory. -/
def templatePath (directory template : Text) : Path := (Path.ofText directory).within (.ofText template)

/-- A request for a template of a directory, with a context. -/
def renderingOf (directory template : Text) (maxDepth : Option Int) (contextFiles : List Path)
    (vars : List Text) : Rendering :=
  { template, templateDir := some (.ofText directory), maxDepth, contextFiles, vars }

/-- What a check finds, before it is printed. -/
def reports (w : Surroundings) (profile : Option Text) (files : List Path) (maxDepth : Option Int) :
    Run (List (Path × Option Text)) := do
  let s ← w.settings profile (depthOption maxDepth)
  discard (w.store s)
  complaints w s files

/-- A check prints what it finds. -/
theorem checkOutcome_of_reports {w : Surroundings} {profile : Option Text} {files : List Path}
    {maxDepth : Option Int} {results : List (Path × Option Text)}
    (h : reports w profile files maxDepth = .ok results) :
    checkOutcome w profile files maxDepth =
      .ok (.printing w (if results.any (·.2.isSome) then 1 else 0)
        (results.flatMap fun (path, complaint) => checkReport w.width path complaint)) := by
  obtain ⟨s, hs, h⟩ := bind_eq_ok_iff.mp h
  obtain ⟨⟨⟩, hstore, h⟩ := bind_eq_ok_iff.mp h
  refine bind_eq_ok_iff.mpr ⟨s, hs, bind_eq_ok_iff.mpr ⟨(), hstore, ?_⟩⟩
  exact bind_eq_ok_iff.mpr ⟨results, h, rfl⟩

/-- A rendering is ended by a syntax error with this message. -/
def Rendering.Raises (r : Rendering) (w : Surroundings) (profile : Option Text) (message : Text) :
    Prop :=
  ∃ fault, r.outcome w profile = .error (.reported (.fault fault)) ∧
    (Report.fault fault).message = message

section

variable {w : Surroundings} {profile : Option Text} {maxDepth : Option Int} {directory template : Text}

/-- Beside the depth limit, a rendering chooses the directory. -/
theorem optionLayer_renderingOf {given : Layer} (directory template : Text) (contextFiles : List Path)
    (vars : List Text)
    (h : Config.optionLayer (depthOption maxDepth) = .ok given) :
    given .templateDir = none ∧
      Config.optionLayer (renderingOf directory template maxDepth contextFiles vars).options =
        .ok fun x =>
          if x = .templateDir then (given x).or (some (.text (Path.ofText directory).toText))
          else given x := by
  cases maxDepth <;> cases h <;> exact ⟨rfl, rfl⟩

/-- Where nothing is configured and nothing chosen, settings are the default. -/
theorem settings_of_load (h : Config.load w.files w.userFile ⟨1, w.files.workingDirectory⟩ = .ok []) :
    w.settings none (depthOption none) = .ok .default :=
  bind_eq_ok_iff.mpr ⟨[], mapError_eq_ok_iff.mpr h, rfl⟩

/-- The settings for a rendering are those for a check, with the directory that is asked for. -/
theorem settings_renderingOf {s : Settings} {contextFiles : List Path} {vars : List Text}
    (h : w.settings profile (depthOption maxDepth) = .ok s) :
    w.settings profile (renderingOf directory template maxDepth contextFiles vars).options =
      .ok { s with templateDir := (Path.ofText directory).toText } := by
  obtain ⟨table, htable, hbuild⟩ := bind_eq_ok_iff.mp h
  obtain ⟨layer, hlayer, hbuild⟩ := bind_eq_ok_iff.mp (mapError_eq_ok_iff.mp hbuild)
  obtain ⟨chosen, hchosen, hlayer⟩ := bind_eq_ok_iff.mp hlayer
  obtain ⟨given, hgiven, hlayer⟩ := bind_eq_ok_iff.mp hlayer
  cases hlayer
  have htakes := Config.settings_eq_ok_iff.mp hbuild
  obtain ⟨hopen, hrendering⟩ := optionLayer_renderingOf directory template contextFiles vars hgiven
  refine bind_eq_ok_iff.mpr ⟨table, htable, mapError_eq_ok_iff.mpr ?_⟩
  refine bind_eq_ok_iff.mpr
    ⟨_, bind_eq_ok_iff.mpr ⟨chosen, hchosen, bind_eq_ok_iff.mpr ⟨_, hrendering, rfl⟩⟩, ?_⟩
  rw [Config.settings_eq_ok_iff]
  intro x
  by_cases hx : x = .templateDir
  · rw [hx]
    have hnormal := (Path.normal_ofText directory).ofText_toText
    simp only [Layer.atop, if_true, hopen, Option.none_or, Option.some_or]
    refine ⟨_, rfl, ?_⟩
    rw [hnormal, Symbols.text?_ofText]
  · have hsame := (htakes x).congr (b := { s with templateDir := (Path.ofText directory).toText })
      (by cases x with
        | templateDir => exact absurd rfl hx
        | extensions | policy | maxDepth => rfl)
    simpa only [Layer.atop, if_neg hx] using hsame

/-- The store over the template directory, where that is resolved. -/
theorem store_of_templateDir {s : Settings} {dir : Place}
    (h : w.files.resolved (.ofText s.templateDir) = .ok dir) : w.store s = .ok (w.files.store dir) :=
  bind_eq_ok_iff.mpr ⟨dir, mapError_eq_ok_iff.mpr h, rfl⟩

/-- The store of a directory that is resolved. -/
theorem store_of_resolved {s : Settings} {path : Path} {dir : Place} (hpath : path.Normal)
    (h : w.files.resolved path = .ok dir) :
    w.store { s with templateDir := path.toText } = .ok (w.files.store dir) := by
  refine store_of_templateDir ?_
  rw [hpath.ofText_toText]
  exact h

/-- What a check finds in a file that is read. -/
theorem complaint?_of_source {s : Settings} {path : Path} {source : Text} {limit : Int}
    (hread : w.files.readText path.toText = .ok source) (hlimit : s.maxDepth = some limit) :
    (do
      let source ← w.readTemplate path
      return (path, ← complaint? s path source)) =
      (.ok (path, (Template.fault? limit source).map complaint) : Run (Path × Option Text)) := by
  have hcomplaint : complaint? s path source = .ok ((Template.fault? limit source).map complaint) := by
    simp only [complaint?, Settings.compile, hlimit, Option.getD_some, Option.isNone_some,
      Bool.false_and, Template.fault?]
    cases Template.parse limit source <;> rfl
  have hsource : w.readTemplate path = .ok source := mapError_eq_ok_iff.mpr hread
  exact bind_eq_ok_iff.mpr ⟨source, hsource, bind_eq_ok_iff.mpr ⟨_, hcomplaint, rfl⟩⟩

/-- What a check of files finds, where all of them are read: in each what is wrong with it. -/
theorem reports_of_sources {α : Type} {files : List α} (path : α → Path)
    (found : α → Option Template.SyntaxError) {s : Settings} {store : Store} {limit : Int}
    (hs : w.settings profile (depthOption maxDepth) = .ok s) (hstore : w.store s = .ok store)
    (hlimit : s.maxDepth = some limit)
    (hread : ∀ file ∈ files, ∃ source, w.files.readText (path file).toText = .ok source ∧
      Template.fault? limit source = found file) :
    reports w profile (files.map path) maxDepth =
      .ok (files.map fun file => (path file, (found file).map complaint)) := by
  refine bind_eq_ok_iff.mpr ⟨s, hs, bind_eq_ok_iff.mpr ⟨(), ?_, ?_⟩⟩
  · rw [hstore]
    rfl
  · refine mapM_eq_ok_iff.mpr (List.forall₂_map_left_iff.mpr (List.forall₂_map_right_iff.mpr
      (List.forall₂_same.mpr ?_)))
    intro file hfile
    obtain ⟨source, hsource, hfound⟩ := hread file hfile
    rw [← hfound]
    exact complaint?_of_source hsource hlimit

/-- What a check of one file finds. -/
theorem reports_of_settings {s : Settings} {store : Store} {path : Path} {source : Text} {limit : Int}
    (hs : w.settings profile (depthOption maxDepth) = .ok s) (hstore : w.store s = .ok store)
    (hread : w.files.readText path.toText = .ok source) (hlimit : s.maxDepth = some limit) :
    reports w profile [path] maxDepth =
      .ok [(path, (Template.fault? limit source).map complaint)] := by
  have hone := reports_of_sources (fun _ : Unit => path) (fun _ => Template.fault? limit source) hs hstore
    hlimit fun file (_ : file ∈ [()]) => ⟨source, hread, rfl⟩
  exact hone

/-- What a rendering comes to, where nothing fails before the template is loaded. -/
theorem symbols_of_parts {r : Rendering} {s : Settings} {context : Dict} {store : Store}
    (hs : w.settings profile r.options = .ok s)
    (hcontext : Context.build w.files r.contextFiles r.vars = .ok context)
    (hstore : w.store s = .ok store) :
    r.symbols w profile =
      (store.render s w.environment .empty r.template context).1.result.mapError
        (·.map TemplateError.report) := by
  simp only [Rendering.symbols, hs, hcontext]
  show (w.store s >>= _) = _
  rw [hstore]
  rfl

/-- What a rendering of a template from a directory comes to. -/
theorem symbols_of_settings {s : Settings} {dir : Place} {source : Text} {limit : Int} {context : Dict}
    {contextFiles : List Path} {vars : List Text}
    (hs : w.settings profile (depthOption maxDepth) = .ok s) (hlimit : s.maxDepth = some limit)
    (hdir : w.files.resolved (.ofText directory) = .ok dir)
    (hsuffix : (Path.ofText template).suffix ≠ [])
    (hread : w.files.readBelow dir template = .ok source)
    (hcontext : Context.build w.files contextFiles vars = .ok context) :
    (renderingOf directory template maxDepth contextFiles vars).symbols w profile =
      (Template.process limit context source).mapError (·.map (Report.ofSyntaxError template)) := by
  have hstore := store_of_resolved (s := s) (Path.normal_ofText directory) hdir
  rw [symbols_of_parts (settings_renderingOf hs) hcontext hstore]
  let chosen : Settings := { s with templateDir := (Path.ofText directory).toText }
  have hrender : ((w.files.store dir).render chosen w.environment .empty template context).1.result =
      (Template.process limit context source).mapError (·.map (TemplateError.malformed template)) := by
    have hserved : (w.files.store dir).read template = .ok source := hread
    rw [Store.render_of_suffix hsuffix, hserved, ← chosen.process_of_limit hlimit]
  show Except.mapError _ ((w.files.store dir).render chosen w.environment .empty template
    context).1.result = _
  rw [hrender]
  cases Template.process limit context source with
  | ok s => rfl
  | error e => cases e <;> rfl

/-- A rendering whose template cannot be read is not ended by a syntax error. -/
theorem not_raises_of_unread {s : Settings} {dir : Place} {e : Escape} {context : Dict}
    {contextFiles : List Path} {vars : List Text}
    (hs : w.settings profile (depthOption maxDepth) = .ok s)
    (hdir : w.files.resolved (.ofText directory) = .ok dir)
    (hsuffix : (Path.ofText template).suffix ≠ [])
    (hread : w.files.readBelow dir template = .error e)
    (hcontext : Context.build w.files contextFiles vars = .ok context) (message : Text) :
    ¬ (renderingOf directory template maxDepth contextFiles vars).Raises w profile message := by
  let chosen : Settings := { s with templateDir := (Path.ofText directory).toText }
  have hstore := store_of_resolved (s := s) (Path.normal_ofText directory) hdir
  have hserved : (w.files.store dir).read template = .error e := hread
  have hrender : ((w.files.store dir).render chosen w.environment .empty template context).1.result =
      .error (Store.readFailure chosen template template e) := by
    rw [Store.render_of_suffix hsuffix, hserved]
  have hother (fault : Report.Fault) :
      (Store.readFailure chosen template template e).map TemplateError.report ≠
        .reported (.fault fault) := by
    intro h
    unfold Store.readFailure at h
    split at h
    next => cases h
    next => split at h <;> cases h
  rintro ⟨fault, houtcome, -⟩
  rw [Rendering.outcome, symbols_of_parts (settings_renderingOf hs) hcontext hstore] at houtcome
  change (Except.mapError _ ((w.files.store dir).render chosen w.environment .empty template
    context).1.result).map _ = _ at houtcome
  rw [hrender] at houtcome
  exact hother fault (Except.error.inj houtcome)

/-- A run that checks files prints what it finds, in their order. -/
theorem run_of_results {words : List Text} {paths : List Path} {results : List (Path × Option Text)}
    (hwords : Request.ofWords w.files words = .ok (.command profile (.check paths maxDepth)))
    (h : reports w profile paths maxDepth = .ok results) :
    run w words = .printing w (if results.any (·.2.isSome) then 1 else 0)
      (results.flatMap fun (path, complaint) => checkReport w.width path complaint) := by
  simp only [run, hwords, Request.outcome, Command.outcome, checkOutcome_of_reports h]

/-- A run that checks one file prints what it finds. -/
theorem run_of_reports {words : List Text} {path : Path} {finding : Option Text}
    (hwords : Request.ofWords w.files words = .ok (.command profile (.check [path] maxDepth)))
    (h : reports w profile [path] maxDepth = .ok [(path, finding)]) :
    run w words = .printing w (if finding.isSome then 1 else 0) (checkReport w.width path finding) := by
  rw [run_of_results hwords h]
  simp

/-- A run that checks files ends where the template directory cannot be looked for. -/
theorem run_of_unopened {s : Settings} {words : List Text} {paths : List Path} {e : Failure Report}
    (hwords : Request.ofWords w.files words = .ok (.command profile (.check paths maxDepth)))
    (hs : w.settings profile (depthOption maxDepth) = .ok s) (hstore : w.store s = .error e) :
    run w words = .failing w e := by
  have hcheck : checkOutcome w profile paths maxDepth = .error e := by
    refine bind_eq_error_iff.mpr (.inr ⟨s, hs, bind_eq_error_iff.mpr (.inl ?_)⟩)
    rw [hstore]
    rfl
  simp only [run, hwords, Request.outcome, Command.outcome, hcheck]

end

/-! ## Words for both commands -/

theorem readWords_singleton {κ : Type} (forms : List (OptionForm κ)) {word : Text}
    (hword : givesOptions word = false) : readWords forms true [word] = .ok ⟨[], [word]⟩ := by
  have hdash : word ≠ ['-', '-'] := by
    rintro rfl
    cases hword
  rw [readWords, if_neg hdash, hword]
  rfl

/-- Words that ask for a check of one file. -/
theorem ofWords_checkOne {t : FileTree} {word : Text} (bytes : ByteArray)
    (hword : givesOptions word = false) (hstat : t.stat word = .ok (.file bytes)) :
    Request.ofWords t ["check".toList, word] = .ok (.command none (.check [.ofText word] none)) := by
  have hpath : Request.readPath t .file word = .ok (.ofText word) := by
    rw [Request.readPath, hstat]
    rfl
  have hcommand : Request.readCheck t ⟨[], [word]⟩ = .ok (.check [.ofText word] none) := by
    unfold Request.readCheck
    rw [List.mapM_cons, hpath]
    rfl
  have hread : Request.readCommand t ["check".toList, word] =
      .ok (some (.check [.ofText word] none)) := by
    show (Request.commandWords [depthForm, helpForm] [word] >>= _) = _
    rw [Request.commandWords, readWords_singleton _ hword]
    show (Request.readCheck t ⟨[], [word]⟩ >>= _) = _
    rw [hcommand]
    rfl
  show (Request.readCommand t ["check".toList, word] >>= _) = _
  rw [hread]
  rfl

/-- Words that ask for a template of a directory, without a context. -/
theorem ofWords_renderBelow {t : FileTree} {template word : Text}
    (htemplate : givesOptions template = false) (hstat : t.stat word = .ok .directory) :
    Request.ofWords t ["render".toList, template, "-d".toList, word] =
      .ok (.command none (.render (renderingOf word template none [] []))) := by
  have hwords : readWords renderForms true [template, "-d".toList, word] =
      .ok ⟨[⟨.templateDir, word⟩], [template]⟩ := by
    have hdash : template ≠ ['-', '-'] := by
      rintro rfl
      cases htemplate
    rw [readWords, if_neg hdash, htemplate]
    rfl
  have hpath : Request.readPath t .directory word = .ok (.ofText word) := by
    rw [Request.readPath, hstat]
    rfl
  have hoption : Request.readOption t ⟨[⟨.templateDir, word⟩], [template]⟩ {} .templateDir =
      .ok { templateDir := some (.ofText word) } := by
    show (Request.optional (Request.readPath t .directory) (some word) >>= _) = _
    rw [Request.optional, hpath]
    rfl
  have hcommand : Request.readRendering t ⟨[⟨.templateDir, word⟩], [template]⟩ =
      .ok (.render (renderingOf word template none [] [])) := by
    show ((Request.readOption t _ {} .templateDir >>= _) >>= _) = _
    rw [hoption]
    rfl
  have hread : Request.readCommand t ["render".toList, template, "-d".toList, word] =
      .ok (some (.render (renderingOf word template none [] []))) := by
    show (Request.commandWords renderForms [template, "-d".toList, word] >>= _) = _
    rw [Request.commandWords, hwords]
    show (Request.readRendering t _ >>= _) = _
    rw [hcommand]
    rfl
  show (Request.readCommand t _ >>= _) = _
  rw [hread]
  rfl

end CommandLine

end Stencil
