import Stencil.Config.Settings

/-!
# Layers of configuration

Settings are chosen in layers: the configuration table, above it the profile that was asked for, and
on top the options given to the program. In each layer a setting may be chosen or left open, and the
highest layer that chooses it wins, so a bad value does no harm where a higher layer chooses another.

A table may spell the depth limit in two ways, of which `max_depth` is the stronger.
-/

namespace Stencil

/-- The settings that can be chosen. -/
inductive Setting where
  | templateDir
  | extensions
  | policy
  | maxDepth
deriving DecidableEq, Repr

namespace Setting

/-- The name of a setting. -/
def name : Setting → Text
  | .templateDir => "template_dir"
  | .extensions => "extensions"
  | .policy => "cache_policy"
  | .maxDepth => "max_nesting_depth"

/-- All settings. -/
def all : List Setting := [.templateDir, .extensions, .policy, .maxDepth]

/-- The setting of the given name. -/
def ofName? (name : Text) : Option Setting := all.find? fun s => s.name = name

/-- The keys under which a table chooses a setting, the strongest first. -/
def keys : Setting → List Text
  | .maxDepth => ["max_depth".toList, Setting.maxDepth.name]
  | s => [s.name]

end Setting

/-- A layer: what it chooses for each setting. -/
abbrev Layer := Setting → Option Value

namespace Layer

/-- The layer that chooses nothing. -/
def empty : Layer := fun _ => none

/-- What a table chooses. -/
def ofTable (table : Dict) : Layer := fun s => s.keys.findSome? fun key => Dict.get? key table

/-- A layer on top of another. -/
def atop (upper lower : Layer) : Layer := fun s => (upper s).or (lower s)

end Layer

namespace Config

/-- The key under which a table keeps its profiles. -/
def profilesKey : Text := "profiles"

/-- What the named profile chooses. No name, or an empty one, asks for no profile. -/
def profileLayer (table : Dict) (profile : Option Text) : Except ConfigFailure Layer :=
  match profile with
  | none | some [] => .ok .empty
  | some name =>
    match (Dict.get? profilesKey table).getD (.dict []) with
    | .dict profiles =>
      match Dict.get? name profiles with
      | some (.dict chosen) => .ok (.ofTable chosen)
      | _ => .error (.reported (.profileMissing name))
    | _ => .error (.escaped .notTable)

/-- What options choose. An option given as nothing is left open, but its name is still checked. -/
def optionLayer : List (Text × Value) → Except ConfigFailure Layer
  | [] => .ok .empty
  | (name, v) :: rest =>
    match Setting.ofName? name with
    | none => .error (.reported (.unknownOption name))
    | some s => do
      let layer ← optionLayer rest
      match v with
      | .null => return layer
      | v => return fun t => if t = s then (layer t).or (some v) else layer t

/-- A policy word must be known where tables and options are layered. -/
def checkPolicy : Option Value → Except ConfigFailure Unit
  | some (.text word) =>
    if (Policy.ofName? word).isNone then .error (.reported (.unknownPolicy word)) else .ok ()
  | some (.broken s) => .error (.reported (.unknownPolicy s.spelled))
  | _ => .ok ()

/-- The depth limit that is chosen: a whole number above zero, or nothing. -/
def readDepth : Option Value → Except ConfigFailure (Option (Option Int))
  | none => .ok none
  | some .null => .ok (some none)
  | some (.int n) =>
    if n < 1 then .error ((Value.int n).refused .badDepth) else .ok (some (some n))
  | some v => .error (v.refused .badDepth)

/-- The settings that a layer chooses, as they are configured. -/
def configured (layer : Layer) : Except ConfigFailure Configured := do
  checkPolicy (layer .policy)
  let maxDepth ← readDepth (layer .maxDepth)
  Settings.configured
    ⟨layer .templateDir, layer .extensions, layer .policy, maxDepth⟩

/-- The settings that a layer chooses. -/
def settings (layer : Layer) : Except ConfigFailure Settings := do
  (← configured layer).settings.mapError .escaped

/-- A table, a profile and options, each on top of the one before. -/
def layers (table : Dict) (profile : Option Text) (options : List (Text × Value)) :
    Except ConfigFailure Layer := do
  let chosen ← profileLayer table profile
  let given ← optionLayer options
  return given.atop (chosen.atop (.ofTable table))

/-- What is configured by a table, a profile and options. -/
def configure (table : Dict) (profile : Option Text) (options : List (Text × Value)) :
    Except ConfigFailure Configured := do
  configured (← layers table profile options)

/-- The settings for a table, a profile and options. -/
def build (table : Dict) (profile : Option Text) (options : List (Text × Value)) :
    Except ConfigFailure Settings := do
  settings (← layers table profile options)

end Config

end Stencil
