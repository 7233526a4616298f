import Stencil.Text.Basic

/-!
# Paths

A path is what its text means as a list of names: repeated slashes, a slash at the end and the name
`.` say nothing and are left out, while `..` is kept, because a link may stand before it. A leading
slash makes the path absolute; exactly two of them stay two.
-/

namespace Stencil

/-- A path: how many slashes it begins with, and its names. -/
structure Path where
  slashes : Nat
  names : List Text
deriving DecidableEq, Repr, Inhabited

namespace Path

/-- The name of the directory itself. -/
def here : Text := ['.']

/-- The name of the enclosing directory. -/
def up : Text := ['.', '.']

/-- The leading slashes of a text that count. -/
def leading (s : Text) : Nat :=
  match (s.takeWhile (· == '/')).length with
  | 0 => 0
  | 2 => 2
  | _ => 1

/-- The path that a text means. -/
def ofText (s : Text) : Path :=
  ⟨leading s, (Text.parts '/' s).filter fun name => name ≠ [] ∧ name ≠ here⟩

/-- The path as text, in its normal form. -/
def toText (p : Path) : Text :=
  if p.slashes = 0 ∧ p.names = [] then here
  else List.replicate p.slashes '/' ++ Text.joined ['/'] p.names

/-- Whether the path starts at the root. -/
def isAbsolute (p : Path) : Bool := p.slashes != 0

/-- The path read from inside `base`; an absolute path stays as it is. -/
def within (base p : Path) : Path :=
  if p.isAbsolute then p else ⟨base.slashes, base.names ++ p.names⟩

/-- The last name; empty when there is none. -/
def name (p : Path) : Text := p.names.getLast?.getD []

/-- The last name from its last dot on. A name that has its only dot at one of its ends has none. -/
def suffix (p : Path) : Text :=
  let tail := p.name.reverse.takeWhile (· != '.')
  let head := p.name.reverse.dropWhile (· != '.')
  match tail, head with
  | _ :: _, _ :: _ :: _ => '.' :: tail.reverse
  | _, _ => []

end Path

end Stencil
