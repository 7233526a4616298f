import Stencil.Config.Layers
import Stencil.Engine.Loading

/-!
# Sessions

Engines at work beside one another. A session holds the templates in memory, the files, the stores
that come from outside, the name of the environment, the engines by name and the caches, which engines
may share. A step changes the session and gives an answer: what came out, and the calls to a store
that were made for it.

Of a store from outside only its answers are known. A step gives it other answers, so it may be any
store whatever, one more map of templates among them, and change in any way.

Only `load` and `render` put texts into a cache, unless a step writes into a cache directly.
-/

namespace Stencil

/-- Which store an engine reads from. -/
inductive StoreRef where
  /-- The templates in memory, which all such engines share. -/
  | memory
  /-- The files below a directory. -/
  | directory (dir : Place)
  /-- The store from outside that has this label. -/
  | outside (label : Text)
deriving DecidableEq, Repr

/-- Which cache an engine uses. -/
inductive CacheRef where
  /-- A cache shared by all engines that give this label. -/
  | shared (label : Text)
  /-- A cache of its own, told apart by a number. -/
  | own (number : Nat)
deriving DecidableEq, Repr

/-- An engine. -/
structure Engine where
  settings : Settings
  store : StoreRef
  cache : CacheRef
deriving DecidableEq, Repr

/-- Everything that later answers can depend on. -/
structure Session where
  templates : Templates
  files : FileTree
  /-- The stores from outside, as they answer now. -/
  outside : Text → Store
  environment : Option Text
  engines : List (Text × Engine)
  caches : List (CacheRef × Cache)
  /-- How many engines have been made. -/
  made : Nat

/-- Where a new engine reads its templates. -/
inductive StoreChoice where
  | memory
  /-- The template directory of its settings. -/
  | templateDir
  /-- This directory. -/
  | directory (path : Path)
  /-- The store from outside that has this label. -/
  | outside (label : Text)

/-- A new value for one setting of an engine. -/
inductive Assignment where
  | templateDir (dir : Text)
  | extensions (exts : List Text)
  | policy (p : Policy)
  | maxDepth (limit : Option Int)

/-- What is asked of an engine. -/
inductive Action where
  | set (a : Assignment)
  | candidates (name : Text)
  | resolve (name : Text)
  | load (name : Text)
  | render (name : Text) (context : Dict)
  | process (sourceName source : Text) (context : Dict)
  | compile (sourceName source : Text)
  | probe (path : Text)
  | read (path : Text)
  | clear
  | cachePut (name source : Text)
  | cacheGet (name : Text)

/-- A step of a session. -/
inductive Step where
  | engine (name : Text) (choices : Choices) (cache : Option Text) (store : StoreChoice)
  | environment (value : Option Text)
  | putTemplate (path content : Text)
  | deleteTemplate (path : Text)
  | putFile (path content : Text)
  | deleteFile (path : Text)
  /-- The store from outside that has this label answers as `store` from now on. -/
  | change (label : Text) (store : Store)
  | ask (engine : Text) (action : Action)

/-- What came out of a step. -/
inductive Reply where
  | done
  | settings (s : Settings)
  | text (s : Text)
  | output (s : Symbols)
  | names (names : List Text)
  | nodes (nodes : List Template.Node)
  | loaded (l : Store.Loaded)
  | truth (b : Bool)
  | kept (source : Option Text)

/-- Why a step came to nothing. -/
inductive StepError where
  | config (e : ConfigError)
  | template (e : TemplateError)
  /-- No engine has the given name. -/
  | noEngine (name : Text)

namespace StepError

/-- The failure as a report. -/
def report : StepError → Report
  | .config e => e.report
  | .template e => e.report
  | .noEngine name => .plain .general ("no engine named '" ++ name ++ "'")

end StepError

/-- The outcome of a step. -/
abbrev Outcome := Except (Failure StepError) Reply

/-- A result as the outcome of a step. -/
def outcomeOf {ε α : Type} (f : ε → StepError) (g : α → Reply) :
    Except (Failure ε) α → Outcome
  | .ok a => .ok (g a)
  | .error e => .error (e.map f)

/-- An answer of a store as the outcome of a step. -/
def storeOutcome {α : Type} (g : α → Reply) : Except Escape α → Outcome
  | .ok a => .ok (g a)
  | .error e => .error (.escaped e)

namespace Session

/-- A session before its first step. The stores from outside have nothing yet. -/
def start (templates : Templates) (files : FileTree) (environment : Option Text) : Session :=
  ⟨templates, files, fun _ => Templates.store [], environment, [], [], 0⟩

/-- The engine of a name, among engines. -/
def findEngine (name : Text) : List (Text × Engine) → Option Engine
  | [] => none
  | (n, e) :: rest => if n = name then some e else findEngine name rest

/-- The engine of a name. -/
def engine? (s : Session) (name : Text) : Option Engine := findEngine name s.engines

/-- The cache that a reference means, among caches. -/
def findCache (r : CacheRef) : List (CacheRef × Cache) → Cache
  | [] => .empty
  | (q, c) :: rest => if q = r then c else findCache r rest

/-- The cache that a reference means; empty until something is put into it. -/
def cache (s : Session) (r : CacheRef) : Cache := findCache r s.caches

/-- The session with another cache behind a reference. -/
def setCache (s : Session) (r : CacheRef) (c : Cache) : Session :=
  { s with caches := (r, c) :: s.caches.filter fun (q, _) => q ≠ r }

/-- The session with an engine under a name, in the place of the one that had it. -/
def setEngine (s : Session) (name : Text) (e : Engine) : Session :=
  { s with engines := (s.engines.filter fun (n, _) => n ≠ name) ++ [(name, e)] }

/-- The store that a reference means now. -/
def store (s : Session) : StoreRef → Store
  | .memory => s.templates.store
  | .directory dir => s.files.store dir
  | .outside label => s.outside label

/-- The store that a new engine reads from. A directory is resolved once, when the engine is made. -/
def openStore (s : Session) (settings : Settings) : StoreChoice → Except Escape StoreRef
  | .memory => .ok .memory
  | .templateDir => (s.files.resolved (.ofText settings.templateDir)).map .directory
  | .directory path => (s.files.resolved path).map .directory
  | .outside label => .ok (.outside label)

/-- A new engine. -/
def makeEngine (s : Session) (choices : Choices) (cache : Option Text) (store : StoreChoice) :
    Except (Failure StepError) Engine :=
  match Settings.ofChoices choices with
  | .error e => .error (e.map .config)
  | .ok settings =>
    match s.openStore settings store with
    | .error e => .error (.escaped e)
    | .ok ref => .ok ⟨settings, ref, match cache with
      | some label => .shared label
      | none => .own s.made⟩

end Session

namespace Settings

/-- The settings after an assignment, which is not checked. -/
def assign (s : Settings) : Assignment → Settings
  | .templateDir dir => { s with templateDir := dir }
  | .extensions exts => { s with extensions := exts }
  | .policy p => { s with policy := p }
  | .maxDepth limit => { s with maxDepth := limit }

end Settings

namespace Session

/-- What an engine does when it is asked, and the session afterwards. -/
def act (s : Session) (name : Text) (e : Engine) : Action → Traced Outcome × Session
  | .set a =>
    let settings := e.settings.assign a
    (⟨[], .ok (.settings settings)⟩, s.setEngine name { e with settings })
  | .candidates template => (⟨[], .ok (.names (e.settings.candidates template))⟩, s)
  | .resolve template =>
    let found := (s.store e.store).resolve e.settings template
    (⟨found.calls, outcomeOf .template .text found.result⟩, s)
  | .load template =>
    let (loaded, cache) :=
      (s.store e.store).load e.settings s.environment (s.cache e.cache) template
    (⟨loaded.calls, outcomeOf .template .loaded loaded.result⟩, s.setCache e.cache cache)
  | .render template context =>
    let (rendered, cache) :=
      (s.store e.store).render e.settings s.environment (s.cache e.cache) template context
    (⟨rendered.calls, outcomeOf .template .output rendered.result⟩, s.setCache e.cache cache)
  | .process sourceName source context =>
    (⟨[], outcomeOf .template .output (e.settings.process sourceName source context)⟩, s)
  | .compile sourceName source =>
    (⟨[], outcomeOf .template .nodes (e.settings.compile sourceName source)⟩, s)
  | .probe path => (⟨[.probe path], storeOutcome .truth ((s.store e.store).probe path)⟩, s)
  | .read path => (⟨[.read path], storeOutcome .text ((s.store e.store).read path)⟩, s)
  | .clear => (⟨[], .ok .done⟩, s.setCache e.cache .empty)
  | .cachePut entry source =>
    (⟨[], .ok .done⟩, s.setCache e.cache ((s.cache e.cache).put entry source))
  | .cacheGet entry => (⟨[], .ok (.kept ((s.cache e.cache).get? entry))⟩, s)

/-- A file that holds a text, with the directories on the way to it. -/
def putFile (files : FileTree) (path content : Text) : FileTree :=
  let files := files.makeParents path
  (files.write path content).toOption.getD files

/-- One step: its answer, and the session afterwards. -/
def step (s : Session) : Step → Traced Outcome × Session
  | .engine name choices cache store =>
    let s := { s with made := s.made + 1 }
    match s.makeEngine choices cache store with
    | .error e => (⟨[], .error e⟩, s)
    | .ok e => (⟨[], .ok (.settings e.settings)⟩, s.setEngine name e)
  | .environment value => (⟨[], .ok .done⟩, { s with environment := value })
  | .putTemplate path content =>
    (⟨[], .ok .done⟩, { s with templates := s.templates.put path content })
  | .deleteTemplate path =>
    (⟨[], .ok .done⟩, { s with templates := s.templates.erase path })
  | .putFile path content =>
    (⟨[], .ok .done⟩, { s with files := putFile s.files path content })
  | .deleteFile path => (⟨[], .ok .done⟩, { s with files := s.files.delete path })
  | .change label store =>
    (⟨[], .ok .done⟩,
      { s with outside := fun other => if other = label then store else s.outside other })
  | .ask name action =>
    match s.engine? name with
    | none => (⟨[], .error (.reported (.noEngine name))⟩, s)
    | some e => s.act name e action

/-- The answers of steps in order, each with the session after it. -/
def run (s : Session) : List Step → List (Traced Outcome × Session)
  | [] => []
  | step :: rest =>
    let answer := s.step step
    answer :: run answer.2 rest

/-- The names that the cache of an engine keeps. -/
def cachedNames (s : Session) (name : Text) : List Text :=
  match s.engine? name with
  | none => []
  | some e => (s.cache e.cache).names

end Session

end Stencil
