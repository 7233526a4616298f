import Stencil.Text.Blank

/-!
# Cache policies

When the source of a template is kept after it has been read: always, never, or only in production,
which is what the environment says when its name is `production` in any case and with any blanks
around it.
-/

namespace Stencil

/-- When template sources are kept. -/
inductive Policy where
  | enabled
  | disabled
  | environment
deriving DecidableEq, Repr, Inhabited

namespace Policy

/-- The word for a policy. -/
def name : Policy → Text
  | .enabled => "enabled"
  | .disabled => "disabled"
  | .environment => "environment"

/-- The policies in the order in which they are listed. -/
def all : List Policy := [.enabled, .disabled, .environment]

/-- The words for all policies, in a list for the reader. -/
def names : Text := Text.joined [',', ' '] (all.map name)

/-- The policy that a word names, in any case. -/
def ofName? (word : Text) : Option Policy := all.find? fun p => p.name = word.lowered

/-- The environment in which sources are kept. -/
def production : Text := "production"

/-- Whether sources are kept, under the given name of the environment. -/
def isEnabled (p : Policy) (environment : Option Text) : Bool :=
  match p with
  | .enabled => true
  | .disabled => false
  | .environment => (environment.getD []).stripped.lowered = production

end Policy

end Stencil
