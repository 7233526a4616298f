import Stencil.Formats.Yaml.Merge

/-!
# Reading YAML

The value of a document is the value of its node. Each node has one value, however often it is referred
to. A collection is made empty where it is met first, and filled when all that were met before it are,
so that it can hold itself; a scalar is read where it is met. The first fault on this way counts.

When every collection is filled, the value of the document is unfolded: a collection that comes back to
itself is a knot.
-/

namespace Stencil.Yaml

/-- The value of a node as it stands in the others: what it holds is meant by number. -/
inductive Made where
  | datum (v : Value)
  | list (elements : List Nat)
  /-- A list of pairs, each with a number of its own. -/
  | pairs (entries : List (Nat × Nat × Nat))
  | set (keys : List Nat)
  | dict (entries : Entries)

/-- The values of a document while they are made: the nodes, the value of each, the numbers that are in
use, and the collections that are still to be filled, the first one first. -/
structure Making where
  graph : Graph
  made : Array (Option Made)
  used : Nat
  waiting : List Nat

/-- A step of making values. -/
abbrev Maker := StateT Making (Except DocumentError)

namespace Maker

/-! ## Scalars -/

/-- The symbols of a node where a scalar is asked for. A mapping has those of its value entry. -/
def symbolsOf (g : Graph) : (fuel : Nat) → Nat → Except DocumentError Symbols
  | 0, _ => .error .endless
  | fuel + 1, id =>
    match (g.node id).content with
    | .scalar s => .ok s
    | .sequence _ => .error .malformed
    | .mapping entries =>
      match entries.find? fun (k, _) => g.hasTag .value k with
      | some (_, v) => symbolsOf g fuel v
      | none => .error .malformed

/-- The value of a node, if it is tagged as a scalar. A date is looked for in characters of the node's
own only. -/
def datumOf (g : Graph) (id : Nat) : Except DocumentError Value := do
  let n := g.node id
  if !n.tag.isScalar then throw .malformed
  let s ← symbolsOf g (g.size + 1) id
  match n.tag, n.content with
  | .timestamp, .mapping _ => throw .noParts
  | tag, _ => readScalar tag s

/-! ## Collections -/

/-- The empty collection of a tag; nothing for the tag of a scalar. -/
def emptyOf : Tag → Option Made
  | .list => some (.list [])
  | .pairs => some (.pairs [])
  | .set => some (.set [])
  | .map => some (.dict [])
  | _ => none

/-- What was made of a node, if anything. -/
def made? (id : Nat) : Maker (Option Made) := return (← get).made.getD id none

/-- Gives a node its value. -/
def setMade (id : Nat) (m : Made) : Maker Unit :=
  modify fun s => { s with made := s.made.setIfInBounds id (some m) }

/-- Makes the value of a node, unless it is made already. -/
def make (id : Nat) : Maker Unit := do
  if (← made? id).isSome then return
  let g := (← get).graph
  match emptyOf (g.node id).tag with
  | some collection =>
    setMade id collection
    modify fun s => { s with waiting := s.waiting ++ [id] }
  | none => setMade id (.datum (← datumOf g id))

/-- A number that is not in use. -/
def newNumber : Maker Nat := do
  let n := (← get).used
  modify fun s => { s with used := n + 1 }
  return n

/-- The value of a key. A collection is none. -/
def keyValue (id : Nat) : Maker Value := do
  match ← made? id with
  | some (.datum v) => return v
  | _ => throw .malformed

/-- Entries with one more, in the place of the entry with the same key or at the end. -/
def insertEntry (k v : Nat) : Entries → Maker Entries
  | [] => return [(k, v)]
  | (l, w) :: rest => do
    if k = l || (← keyValue k).sameKey (← keyValue l) then return (l, v) :: rest
    return (l, w) :: (← insertEntry k v rest)

/-- The entries of a mapping, merged, with their keys and values made. -/
def makeEntries (id : Nat) : Maker Entries := do
  let s ← get
  match (s.graph.node id).content with
  | .mapping _ =>
    let ((), graph) ← (mergeInto (s.graph.mergeKeys + 1) id).run s.graph
    set { s with graph }
    (graph.entries id).foldlM (fun entries (k, v) => do
      make k
      discard (keyValue k)
      make v
      insertEntry k v entries) []
  | _ => throw .malformed

/-- The one entry of a mapping among pairs, made. -/
def makePair (id : Nat) : Maker (Nat × Nat × Nat) := do
  match ((← get).graph.node id).content with
  | .mapping [(k, v)] =>
    make k
    make v
    return (← newNumber, k, v)
  | _ => throw .malformed

/-- The elements of a sequence. -/
def elementsOf (id : Nat) : Maker (List Nat) := do
  match ((← get).graph.node id).content with
  | .sequence elements => return elements
  | _ => throw .malformed

/-- Fills a collection. -/
def fill (id : Nat) : Maker Unit := do
  match ← made? id with
  | none | some (.datum _) => return
  | some (.list _) =>
    let elements ← elementsOf id
    elements.forM make
    setMade id (.list elements)
  | some (.pairs _) => setMade id (.pairs (← (← elementsOf id).mapM makePair))
  | some (.set _) => setMade id (.set ((← makeEntries id).map Prod.fst))
  | some (.dict _) => setMade id (.dict (← makeEntries id))

/-- Fills the collections that are waiting, as many as there are nodes. -/
def fillAll : (most : Nat) → Maker Unit
  | 0 => return
  | most + 1 => do
    match (← get).waiting with
    | [] => return
    | id :: rest =>
      modify fun s => { s with waiting := rest }
      fill id
      fillAll most

end Maker

/-! ## The value of a document -/

/-- A value, and the numbers of the collections around it that it comes back to. -/
abbrev Unfolded := Value × List Nat

/-- The integer that a value is. -/
def integerOf? : Value → Option Int
  | .int n => some n
  | _ => none

/-- The elements of a set as they are listed: integers from the smallest up, others as written. -/
def listed (elements : List Value) : List Value :=
  match elements.mapM integerOf? with
  | some numbers => (numbers.mergeSort (· ≤ ·)).map .int
  | none => elements

/-- A collection of which the inside comes back to some numbers. -/
def knotted (id : Nat) (v : Value) (backs : List Nat) : Unfolded :=
  if backs = [] then (v, []) else (.knot id v, backs.filter (· ≠ id))

/-- The value of a node inside of the collections in `around`. -/
def unfold (made : Array (Option Made)) : (fuel : Nat) → (around : List Nat) → Nat → Unfolded
  | 0, _, _ => (.null, [])
  | fuel + 1, around, id =>
    if id ∈ around then (.back id, [id])
    else
      let inside := unfold made fuel (id :: around)
      match made.getD id none with
      | none => (.null, [])
      | some (.datum v) => (v, [])
      | some (.list elements) =>
        let parts := elements.map inside
        knotted id (.list (parts.map Prod.fst)) (parts.flatMap Prod.snd)
      | some (.set keys) => (.set (listed (keys.map fun k => (inside k).1)), [])
      | some (.dict entries) =>
        let parts := entries.map fun (k, v) => (inside k, inside v)
        knotted id (.dict (parts.map fun (k, v) => (k.1, v.1))) (parts.flatMap fun (_, v) => v.2)
      | some (.pairs entries) =>
        let parts := entries.map fun (number, k, v) =>
          let (k, v) := (inside k, inside v)
          knotted number (.tuple [k.1, v.1]) (k.2 ++ v.2)
        knotted id (.list (parts.map Prod.fst)) (parts.flatMap Prod.snd)

/-- The value of a graph's node. -/
def Graph.value (g : Graph) (root : Nat) : Except DocumentError Value := do
  let steps : Maker Unit := do
    Maker.make root
    Maker.fillAll (g.size + 1)
  let ((), s) ← steps.run ⟨g, Array.replicate g.size none, g.size, []⟩
  return (unfold s.made (g.size + 1) [] root).1

/-- Reads a document. -/
def read (s : Text) : Except DocumentError Value := do
  match ← graphOf (tokens s) with
  | none => return .null
  | some (g, root) => g.value root

end Stencil.Yaml
