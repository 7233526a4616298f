import Stencil.Template.Block

/-!
# Reports

What the user is told when something fails. Each capability has its own causes of failure; all of
them end up as one of these reports, whose message is the text that is shown.
-/

namespace Stencil

/-- The families of failure. -/
inductive Report.Family where
  | general
  | config
  | context
  | template
  | output
deriving DecidableEq, Repr

/-- A syntax fault of a source, where the place may be unknown. -/
structure Report.Fault where
  nesting : Bool
  detail : Text
  source : Text
  line : Option Int
  column : Option Int
deriving DecidableEq, Repr

/-- A report. -/
inductive Report where
  | plain (family : Report.Family) (message : Text)
  /-- A template that the store does not have, under any of the attempted names. -/
  | notFound (name : Text) (attempted : List Text)
  | fault (fault : Report.Fault)
deriving DecidableEq, Repr

namespace Report

/-- The name that a source has when it was given none. -/
def unnamedSource : Text := "<string>"

/-- A number as a place is written. -/
def Fault.number : Option Int → Text
  | none => "None"
  | some n => Text.ofInt n

/-- Where a fault is: the source alone when the line is unknown. -/
def Fault.place (f : Fault) : Text :=
  match f.line with
  | none => f.source
  | some line => f.source ++ ":" ++ Text.ofInt line ++ ":" ++ number f.column

/-- A missing template. Where nothing was attempted the name itself counts as attempted. -/
def missing (name : Text) (attempted : List Text) : Report :=
  .notFound name (if attempted = [] then [name] else attempted)

/-- The report of a syntax error in a source of the given name. -/
def ofSyntaxError (source : Text) (e : Template.SyntaxError) : Report :=
  .fault ⟨e.misuse.isNesting, e.misuse.message, source, some e.position.line, some e.position.column⟩

/-- The text of a report. -/
def message : Report → Text
  | .plain _ message => message
  | .notFound name attempted =>
    "template not found: '" ++ name ++ "' (tried: " ++ Text.joined [',', ' '] attempted ++ ")"
  | .fault f => f.place ++ ": " ++ f.detail

end Report

end Stencil
