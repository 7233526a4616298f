import Stencil.Proofs.Value.Dict
import Stencil.Template.Render

/-!
# Scopes are merged dictionaries

A loop looks names up in a chain of dictionaries, so that nothing is copied for an element. What the
chain stands for is one dictionary: that of the enclosing part, overwritten by the element's own
fields and then by the element itself under `item`. `mergedNodes` renders in such a dictionary and
makes a fresh one for every element; `render_eq_mergedNodes` says that the output is the same, for
all nodes and contexts, also where a value cannot be shown and there is no output at all.

The invariant is `Merges`: the chain and the dictionary bind every name alike. `Merges.within` says
that entering a loop keeps it. Nothing has to be said of leaving one, because both sides go on with
what they had.
-/

namespace Stencil

namespace Dict

/-- The dictionary overwritten by entries. They are put in from the last to the first, so that of
several with one key the first counts, as it does when a name is looked up. -/
def overwritten (d entries : Dict) : Dict := entries.foldr (fun (k, v) d => insert k v d) d

/-- The dictionary for one element of a loop: overwritten by the element's own fields, if it is a
dictionary, and then by the element itself under `item`. -/
def merged (d : Dict) (element : Value) : Dict :=
  insert (.text Scope.itemName) element
    (match element.entries? with
      | some fields => d.overwritten fields
      | none => d)

/-- An entry hides what was there before. -/
theorem get?_overwritten (name : Text) (d entries : Dict) :
    get? name (d.overwritten entries) = (get? name entries).or (get? name d) := by
  induction entries with
  | nil => rfl
  | cons entry entries ih =>
    obtain ⟨k, v⟩ := entry
    have hcons : d.overwritten ((k, v) :: entries) = insert k v (d.overwritten entries) := rfl
    rw [hcons, get?_insert, get?_cons, ih]
    split <;> rfl

/-- What a name finds in the dictionary for an element. -/
theorem get?_merged (name : Text) (d : Dict) (element : Value) :
    get? name (d.merged element) =
      if name = Scope.itemName then some element
      else (element.entries?.bind (get? name)).or (get? name d) := by
  rw [merged, get?_insert_text]
  cases element.entries? with
  | none => rfl
  | some fields =>
    rw [get?_overwritten]
    rfl

end Dict

/-- A chain of dictionaries and one dictionary bind every name alike. -/
def Scope.Merges (scope : Scope) (d : Dict) : Prop := ∀ name, scope.find? name = d.get? name

/-- The chain inside of a loop merges to the dictionary for the element. -/
theorem Scope.Merges.within {scope : Scope} {d : Dict} (h : scope.Merges d) (element : Value) :
    (scope.within element).Merges (d.merged element) := by
  intro name
  rw [find?_within, Dict.get?_merged, h name]

/-- A context alone is the chain of itself. -/
theorem Scope.merges_singleton (context : Dict) : Scope.Merges [context] context := by
  intro name
  simp [find?]

namespace Template

/-! ## Rendering in one dictionary -/

mutual

/-- The output of a node in one dictionary; nothing when a value in it cannot be shown. -/
def mergedNode (d : Dict) : Node → Option Symbols
  | .text content => some (.ofText content)
  | .variable name raw =>
    match d.get? name with
    | none | some .null => some (.ofText raw)
    | some v => v.shown
  | .cond name thenPart elsePart =>
    match (d.get? name).map Value.truthy with
    | some true => mergedNodes d thenPart
    | some false | none => mergedNodes d elsePart
  | .loop name body =>
    match (d.get? name).bind Value.elements? with
    | some elements =>
      (elements.mapM fun element => mergedNodes (d.merged element) body).map List.flatten
    | none => some []

/-- The output of nodes in order. -/
def mergedNodes (d : Dict) : List Node → Option Symbols
  | [] => some []
  | node :: rest => do return (← mergedNode d node) ++ (← mergedNodes d rest)

end

/-! ## Outputs of chunks -/

namespace Chunk

/-- Chunks behind one another are put out behind one another. -/
theorem output_append (chunks more : List Chunk) :
    output (chunks ++ more) = do return (← output chunks) ++ (← output more) := by
  simp only [output, List.mapM_append]
  cases chunks.mapM shown with
  | none => rfl
  | some front =>
    cases more.mapM shown with
    | none => rfl
    | some back => simp

/-- One chunk is put out as it is shown. -/
theorem output_singleton (chunk : Chunk) : output [chunk] = chunk.shown := by
  simp only [output, List.mapM_cons, List.mapM_nil]
  cases chunk.shown with
  | none => rfl
  | some s => simp

/-- The chunks that elements give are put out element by element. -/
theorem output_flatMap {α : Type} (f : α → List Chunk) (elements : List α) :
    output (elements.flatMap f) = (elements.mapM fun x => output (f x)).map List.flatten := by
  induction elements with
  | nil => rfl
  | cons x elements ih =>
    rw [List.flatMap_cons, output_append, ih, List.mapM_cons]
    cases output (f x) with
    | none => rfl
    | some s =>
      cases elements.mapM fun x => output (f x) with
      | none => rfl
      | some rest => rfl

end Chunk

/-! ## The two renderings agree -/

/-- A node and those behind it agree when each of the two does. -/
theorem output_renderNodes_cons {scope : Scope} {d : Dict} {node : Node} {rest : List Node}
    (hnode : Chunk.output (renderNode scope node) = mergedNode d node)
    (hrest : Chunk.output (renderNodes scope rest) = mergedNodes d rest) :
    Chunk.output (renderNodes scope (node :: rest)) = mergedNodes d (node :: rest) := by
  rw [renderNodes, Chunk.output_append, hnode, hrest, mergedNodes]

/-- Nodes are put out in a chain of dictionaries as in the dictionary that it merges to. -/
theorem output_renderNodes (nodes : List Node) : ∀ {scope : Scope} {d : Dict}, scope.Merges d →
    Chunk.output (renderNodes scope nodes) = mergedNodes d nodes := by
  induction nodes using nodesInduction with
  | nil =>
    intro scope d _
    rfl
  | text content rest ih =>
    intro scope d h
    refine output_renderNodes_cons ?_ (ih h)
    rw [renderNode, Chunk.output_singleton, mergedNode]
    rfl
  | «variable» name raw rest ih =>
    intro scope d h
    refine output_renderNodes_cons ?_ (ih h)
    rw [renderNode, Chunk.output_singleton, h name, mergedNode]
    cases d.get? name with
    | none => rfl
    | some v => cases v <;> rfl
  | cond name thenPart elsePart rest ihthen ihelse ih =>
    intro scope d h
    refine output_renderNodes_cons ?_ (ih h)
    rw [renderNode, holds, h name, mergedNode]
    cases d.get? name with
    | none => exact ihelse h
    | some v =>
      cases hv : v.truthy with
      | true => simpa [hv] using ihthen h
      | false => simpa [hv] using ihelse h
  | loop name body rest ihbody ih =>
    intro scope d h
    refine output_renderNodes_cons ?_ (ih h)
    rw [renderNode, loopElements, h name, mergedNode, Chunk.output_flatMap]
    cases (d.get? name).bind Value.elements? with
    | none => rfl
    | some elements =>
      have hbody : (fun element => Chunk.output (renderNodes (scope.within element) body)) =
          fun element => mergedNodes (d.merged element) body :=
        funext fun element => ihbody (h.within element)
      simp only [Option.getD_some, hbody]

/-- **Looking names up in a chain of dictionaries is rendering in merged dictionaries.** -/
theorem render_eq_mergedNodes (context : Dict) (nodes : List Node) :
    render context nodes = mergedNodes context nodes :=
  output_renderNodes nodes (Scope.merges_singleton context)

end Template

end Stencil
