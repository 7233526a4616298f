import Stencil.Failure
import Stencil.Template.Block
import Stencil.Value.Display

/-!
# Rendering

A template is rendered in a scope: dictionaries in which a name is looked up one after the other. A
loop renders its body once for each element, in a scope where `item` is the element and the
element's own fields stand in front of everything outside.

What comes out is chunks, texts of the template and values of the context, which are put out in their
order. So nothing that a value holds is read as a template again.
-/

namespace Stencil

/-- The dictionaries in which a name is looked up, the nearest first. -/
abbrev Scope := List Dict

namespace Scope

/-- The value that a name is bound to: that of the nearest dictionary that has it. -/
def find? (scope : Scope) (name : Text) : Option Value := scope.findSome? (Dict.get? name)

/-- The name under which a loop binds its element. -/
def itemName : Text := ['i', 't', 'e', 'm']

/-- The scope inside a loop, for one element. -/
def within (scope : Scope) (element : Value) : Scope :=
  [(.text itemName, element)] :: element.entries?.getD [] :: scope

/-- Inside a loop `item` is the element, then come the element's fields, then what is outside. -/
theorem find?_within (scope : Scope) (element : Value) (name : Text) :
    (scope.within element).find? name =
      if name = itemName then some element
      else (element.entries?.bind (Dict.get? name)).or (scope.find? name) := by
  have hitem : Dict.get? name [(.text itemName, element)] =
      if name = itemName then some element else none := by
    simp only [Dict.get?, eq_comm]
  have hfields : Dict.get? name (element.entries?.getD []) =
      element.entries?.bind (Dict.get? name) := by
    cases element.entries? <;> rfl
  simp only [find?, within, List.findSome?_cons, hitem, hfields]
  by_cases hname : name = itemName
  · simp [hname]
  · simp only [hname, if_false]
    cases element.entries?.bind (Dict.get? name) <;> rfl

end Scope

namespace Template

/-- A part of an output. -/
inductive Chunk where
  /-- A text of the template, or the tag of a variable that is bound to nothing. -/
  | literal (s : Text)
  /-- A value of the context. -/
  | value (v : Value)

namespace Chunk

/-- A chunk as it is put out; nothing when it is a value that cannot be shown. -/
def shown : Chunk → Option Symbols
  | .literal s => some (.ofText s)
  | .value v => v.shown

/-- The output that chunks make up, if all of them can be shown. -/
def output (chunks : List Chunk) : Option Symbols := (chunks.mapM shown).map List.flatten

end Chunk

/-- What a variable puts out: its value, or its tag when it is bound to nothing. -/
def substituted (bound : Option Value) (raw : Text) : Chunk :=
  match bound with
  | none | some .null => .literal raw
  | some v => .value v

/-- Whether a conditional takes its then-part. -/
def holds (bound : Option Value) : Bool := bound.any Value.truthy

/-- The elements that a loop runs over; none when it is not bound to a sequence. -/
def loopElements (bound : Option Value) : List Value := (bound.bind Value.elements?).getD []

mutual

/-- The chunks of a node. -/
def renderNode (scope : Scope) : Node → List Chunk
  | .text content => [.literal content]
  | .variable name raw => [substituted (scope.find? name) raw]
  | .cond name thenPart elsePart =>
    if holds (scope.find? name) then renderNodes scope thenPart else renderNodes scope elsePart
  | .loop name body =>
    (loopElements (scope.find? name)).flatMap fun element => renderNodes (scope.within element) body

/-- The chunks of nodes in order. -/
def renderNodes (scope : Scope) : List Node → List Chunk
  | [] => []
  | node :: rest => renderNode scope node ++ renderNodes scope rest

end

/-- The output of nodes in a context; nothing when a value in it cannot be shown. -/
def render (context : Dict) (nodes : List Node) : Option Symbols :=
  Chunk.output (renderNodes [context] nodes)

/-- The output of nodes in a context, where nothing to show is a failure. -/
def rendered {ε : Type} (context : Dict) (nodes : List Node) : Except (Failure ε) Symbols :=
  match render context nodes with
  | some s => .ok s
  | none => .error (.escaped .badValue)

/-- The output of a template source in a context. -/
def process (limit : Int) (context : Dict) (source : Text) : Except (Failure SyntaxError) Symbols :=
  match parse limit source with
  | .ok nodes => rendered context nodes
  | .error e => .error (.reported e)

end Template

end Stencil
