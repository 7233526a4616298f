/-!
# Failures

An operation fails in one of two ways. A failure that its own family of errors describes is
`reported`, and the command line turns it into a message. Any other failure `escapes`: it comes from
the file system, a decoder or a value of the wrong kind, and nothing on the way puts it into words.
-/

namespace Stencil

/-- What escapes without being described. -/
inductive Escape where
  /-- A file that is not there. -/
  | missingFile
  /-- A path that leads through something that is not a directory. -/
  | notDirectory
  /-- A directory where a file is wanted. -/
  | isDirectory
  /-- A name longer than the file system allows. -/
  | nameTooLong
  /-- Links that lead back to themselves, met on the way to a file. -/
  | linkLoop
  /-- Links that lead back to themselves, met where a path is resolved. -/
  | unresolvable
  /-- Bytes that are not text. -/
  | undecodable
  /-- A value that is not a table where a table is looked into. -/
  | notTable
  /-- A value that makes no sense, such as a day that no month has. -/
  | badValue
  /-- A place beyond the end of something. -/
  | outOfRange
  /-- A look into a value that has no parts. -/
  | noParts
  /-- A word that is in no list. -/
  | noEntry
  /-- A name that is left without the value it was to have. -/
  | noValue
  /-- A number too large for what it is to count. -/
  | overflow
  /-- A limit that is no number. -/
  | noNumber
  /-- Half of a pair where a text has to be written as bytes. -/
  | unencodable
  /-- A value that is looked for inside of itself without an end. -/
  | endless
deriving DecidableEq, Repr

namespace Escape

/-- Whether the failure is one of the file system. -/
def isAccess : Escape → Bool
  | .missingFile | .notDirectory | .isDirectory | .nameTooLong | .linkLoop => true
  | .unresolvable | .undecodable | .notTable | .badValue | .outOfRange | .noParts | .noEntry
  | .noValue | .overflow | .noNumber | .unencodable | .endless => false

end Escape

/-- A failure with described causes `ε`. -/
inductive Failure (ε : Type) where
  | reported (cause : ε)
  | escaped (e : Escape)
deriving DecidableEq, Repr

/-- A failure with its described cause seen as one of another family. -/
def Failure.map {ε δ : Type} (f : ε → δ) : Failure ε → Failure δ
  | .reported e => .reported (f e)
  | .escaped e => .escaped e

end Stencil
