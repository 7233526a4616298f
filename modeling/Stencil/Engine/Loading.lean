import Stencil.Config.Settings
import Stencil.Engine.Cache
import Stencil.Engine.Store
import Stencil.Template.Render

/-!
# Loading templates

A template is asked for by a name. A name with a suffix is the only candidate for itself; any other
name is tried with each extension in turn, and the first candidate that the store has is taken. A
single candidate is taken without asking the store. The source is then taken from the cache, where
the policy keeps sources, or read from the store and kept.

Every operation answers which calls it made to the store, because that is what the cache is for.
-/

namespace Stencil

/-- A call to a store. -/
inductive Call where
  | probe (path : Text)
  | read (path : Text)
deriving DecidableEq, Repr

/-- A result and the calls that were made for it. -/
structure Traced (α : Type) where
  calls : List Call
  result : α

/-- Why a template is not rendered. -/
inductive TemplateError where
  | notFound (name : Text) (attempted : List Text)
  /-- The file that was found is not text. -/
  | undecodable (resolved : Text)
  /-- The source is not a template. -/
  | malformed (source : Text) (e : Template.SyntaxError)
deriving DecidableEq, Repr

namespace TemplateError

/-- The failure as a report. -/
def report : TemplateError → Report
  | .notFound name attempted => .missing name attempted
  | .undecodable resolved =>
    .plain .template ("Template '" ++ resolved ++ "' is not valid utf-8: " ++ ConfigError.foreignCause)
  | .malformed source e => .ofSyntaxError source e

end TemplateError

/-- What loading and rendering can answer instead of a result. -/
abbrev TemplateFailure := Failure TemplateError

namespace Settings

/-- The names to try for a template. -/
def candidates (s : Settings) (name : Text) : List Text :=
  if (Path.ofText name).suffix ≠ [] then [name] else s.extensions.map (name ++ ·)

/-- The nodes of a source, under the depth limit. Where the limit is empty the first block cannot be
counted against it. -/
def compile (s : Settings) (sourceName source : Text) : Except TemplateFailure (List Template.Node) :=
  match Template.parse (s.maxDepth.getD 0) source with
  | .ok nodes => .ok nodes
  | .error e =>
    if s.maxDepth.isNone && e.misuse.isNesting then .error (.escaped .noNumber)
    else .error (.reported (.malformed sourceName e))

/-- The output of a source in a context, under the depth limit. -/
def process (s : Settings) (sourceName source : Text) (context : Dict) :
    Except TemplateFailure Symbols := do
  Template.rendered context (← s.compile sourceName source)

end Settings

namespace Store

/-- The first of some paths that the store has, asking for one after the other. -/
def firstPresent (store : Store) : List Text → Traced (Except Escape (Option Text))
  | [] => ⟨[], .ok none⟩
  | path :: rest =>
    match store.probe path with
    | .error e => ⟨[.probe path], .error e⟩
    | .ok true => ⟨[.probe path], .ok (some path)⟩
    | .ok false =>
      let later := firstPresent store rest
      ⟨.probe path :: later.calls, later.result⟩

/-- The candidate that a name stands for. -/
def resolve (store : Store) (s : Settings) (name : Text) : Traced (Except TemplateFailure Text) :=
  match s.candidates name with
  | [only] => ⟨[], .ok only⟩
  | candidates =>
    let found := store.firstPresent candidates
    ⟨found.calls, match found.result with
      | .ok (some path) => .ok path
      | .ok none => .error (.reported (.notFound name candidates))
      | .error e => .error (.escaped e)⟩

/-- What a read that failed means for the template `name`, found as `resolved`. -/
def readFailure (s : Settings) (name resolved : Text) (e : Escape) : TemplateFailure :=
  if e.isAccess then .reported (.notFound name (s.candidates name))
  else if e = .undecodable then .reported (.undecodable resolved)
  else .escaped e

/-- A template that was found and its source. -/
structure Loaded where
  resolved : Text
  source : Text
deriving DecidableEq, Repr

/-- Reads a candidate from the store, and keeps its source when `keep` says so. -/
def fetch (store : Store) (s : Settings) (keep : Bool) (cache : Cache) (name resolved : Text) :
    Traced (Except TemplateFailure Loaded) × Cache :=
  match store.read resolved with
  | .error e => (⟨[.read resolved], .error (readFailure s name resolved e)⟩, cache)
  | .ok source =>
    (⟨[.read resolved], .ok ⟨resolved, source⟩⟩, if keep then cache.put resolved source else cache)

/-- The source of a template, and the cache afterwards. -/
def load (store : Store) (s : Settings) (environment : Option Text) (cache : Cache) (name : Text) :
    Traced (Except TemplateFailure Loaded) × Cache :=
  let found := store.resolve s name
  match found.result with
  | .error e => (⟨found.calls, .error e⟩, cache)
  | .ok resolved =>
    let keep := s.policy.isEnabled environment
    match if keep then cache.get? resolved else none with
    | some source => (⟨found.calls, .ok ⟨resolved, source⟩⟩, cache)
    | none =>
      let (fetched, cache) := store.fetch s keep cache name resolved
      (⟨found.calls ++ fetched.calls, fetched.result⟩, cache)

/-- The output of a template in a context, and the cache afterwards. -/
def render (store : Store) (s : Settings) (environment : Option Text) (cache : Cache) (name : Text)
    (context : Dict) : Traced (Except TemplateFailure Symbols) × Cache :=
  let (loaded, cache) := store.load s environment cache name
  (⟨loaded.calls, loaded.result.bind fun l => s.process l.resolved l.source context⟩, cache)

end Store

end Stencil
