import Stencil.Text.Basic

/-!
# Options

How a command line is cut into options and arguments. An option has a long name behind two hyphens,
and perhaps a letter behind one. Its value is attached to the long name by an equals sign, or to the
letter without one, or it is the next word, whatever that looks like. Letters of options without a
value may share a hyphen. A word of two hyphens ends the options.
-/

namespace Stencil.CommandLine

/-- How an option is written. -/
structure OptionForm (κ : Type) where
  key : κ
  name : Text
  letter : Option Char
  takesValue : Bool

/-- An option that was given. One without a value has the empty text. -/
structure Given (κ : Type) where
  key : κ
  value : Text
deriving DecidableEq, Repr

/-- Why words are not options and arguments. -/
inductive OptionError where
  | unknown (name : Text)
  | noValue (name : Text)
  | unwantedValue (name : Text)
deriving DecidableEq, Repr

/-- The options that a word gives, and the one that takes the next word for its value. -/
structure WordOptions (κ : Type) where
  given : List (Given κ)
  awaiting : Option κ

/-- The options that letters behind a hyphen give. -/
def readLetters {κ : Type} (forms : List (OptionForm κ)) :
    Text → Except OptionError (WordOptions κ)
  | [] => .ok ⟨[], none⟩
  | c :: rest =>
    match forms.find? fun f => f.letter = some c with
    | none => .error (.unknown ['-', c])
    | some f =>
      if f.takesValue then
        match rest with
        | [] => .ok ⟨[], some f.key⟩
        | value => .ok ⟨[⟨f.key, value⟩], none⟩
      else (readLetters forms rest).map fun w => { w with given := ⟨f.key, []⟩ :: w.given }

/-- The options that a word behind a hyphen gives. -/
def readWord {κ : Type} (forms : List (OptionForm κ)) (word : Text) :
    Except OptionError (WordOptions κ) :=
  let (name, attached) : Text × Option Text := match Text.cut '=' word with
    | some (name, value) => (name, some value)
    | none => (word, none)
  match forms.find? fun f => f.name = name with
  | some f =>
    match f.takesValue, attached with
    | true, some value => .ok ⟨[⟨f.key, value⟩], none⟩
    | true, none => .ok ⟨[], some f.key⟩
    | false, none => .ok ⟨[⟨f.key, []⟩], none⟩
    | false, some _ => .error (.unwantedValue name)
  | none =>
    match word with
    | '-' :: '-' :: _ => .error (.unknown name)
    | _ => readLetters forms (word.drop 1)

/-- Options and arguments, each in their order. -/
structure Words (κ : Type) where
  options : List (Given κ)
  arguments : List Text

/-- Whether a word gives options: it begins with a hyphen and is not just one. -/
def givesOptions : Text → Bool
  | '-' :: _ :: _ => true
  | _ => false

/-- Cuts words into options and arguments. Where options may not stand behind arguments, everything
from the first argument on is one. -/
def readWords {κ : Type} (forms : List (OptionForm κ)) (mixed : Bool) :
    List Text → Except OptionError (Words κ)
  | [] => .ok ⟨[], []⟩
  | word :: rest =>
    if word = ['-', '-'] then .ok ⟨[], rest⟩
    else if givesOptions word then
      match readWord forms word with
      | .error e => .error e
      | .ok w =>
        match w.awaiting, rest with
        | none, rest =>
          (readWords forms mixed rest).map fun ws => { ws with options := w.given ++ ws.options }
        | some _, [] => .error (.noValue word)
        | some key, value :: rest =>
          (readWords forms mixed rest).map fun ws =>
            { ws with options := w.given ++ ⟨key, value⟩ :: ws.options }
    else if mixed then
      (readWords forms mixed rest).map fun ws => { ws with arguments := word :: ws.arguments }
    else .ok ⟨[], word :: rest⟩

namespace Words

/-- The values given for an option. -/
def values {κ : Type} [DecidableEq κ] (ws : Words κ) (key : κ) : List Text :=
  (ws.options.filter fun g => g.key = key).map (·.value)

/-- The value given last for an option. -/
def value? {κ : Type} [DecidableEq κ] (ws : Words κ) (key : κ) : Option Text :=
  (ws.values key).getLast?

/-- Whether an option is given. -/
def has {κ : Type} [DecidableEq κ] (ws : Words κ) (key : κ) : Bool := (ws.value? key).isSome

end Words

end Stencil.CommandLine
