import Stencil.Config.Settings
import Stencil.Files.Access

/-!
# Output

Where an output goes: into a file, as UTF-8, or to a stream whose characters may be fewer. What the
stream cannot write goes there as UTF-8 all the same, and as a whole, so that no part of it is written
in two ways; half of a pair is then a question mark.
-/

namespace Stencil

/-- Why a text is not written. -/
inductive OutputError where
  | unwritable (path : Path)
deriving DecidableEq, Repr

namespace OutputError

/-- The failure in words. -/
def message : OutputError → Text
  | .unwritable path =>
    "failed to write to file '" ++ path.toText ++ "': " ++ ConfigError.foreignCause

/-- The failure as a report. -/
def report (e : OutputError) : Report := .plain .output e.message

end OutputError

/-- The characters that a stream can write. -/
inductive Charset where
  | utf8
  | ascii
  | latin1
deriving DecidableEq, Repr

namespace Charset

/-- The least code point that a stream with one byte for each character cannot write. -/
def limit? : Charset → Option Nat
  | .utf8 => none
  | .ascii => some 128
  | .latin1 => some 256

/-- Whether a stream can write a symbol: half of a pair on none, a character on one that has it. -/
def has (cs : Charset) : Symbol → Bool
  | .char c => cs.limit?.all fun limit => c.toNat < limit
  | .half _ => false

/-- Whether a stream can write symbols. -/
def writes (cs : Charset) (s : Symbols) : Bool := s.all cs.has

/-- The bytes of a text on a stream that can write it. -/
def encode (cs : Charset) (s : Text) : ByteArray :=
  match cs.limit? with
  | none => s.encoded
  | some _ => ⟨(s.map fun c => UInt8.ofNat c.toNat).toArray⟩

end Charset

namespace Output

/-- What stands for half of a pair where it cannot be written. -/
def halfMark : Char := '?'

/-- The bytes that a stream is sent for symbols. -/
def sent (cs : Charset) (s : Symbols) : ByteArray :=
  (if cs.writes s then cs else .utf8).encode (s.filled halfMark)

/-- What a write that failed means. -/
def writeFailure (path : Path) (e : Escape) : Failure OutputError :=
  if e.isAccess then .reported (.unwritable path) else .escaped e

/-- The files after symbols were to be written into one of them, and how that went. Half of a pair
cannot be written into a file, and shows only when the file has been made empty for what comes. -/
def writeFile (t : FileTree) (path : Path) (s : Symbols) :
    FileTree × Except (Failure OutputError) Unit :=
  match t.write path.toText (s.text?.getD []) with
  | .error e => (t, .error (writeFailure path e))
  | .ok written => (written, if s.text?.isSome then .ok () else .error (.escaped .unencodable))

end Output

end Stencil
