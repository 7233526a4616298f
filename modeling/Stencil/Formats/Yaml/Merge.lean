import Stencil.Formats.Yaml.Node

/-!
# Merge keys

A mapping may take in the entries of others by merge keys: they come before its own, and of several
mappings in a list the last comes first, so that entries of the mapping itself are the strongest, and
then those of the first in the list.

Merging changes the graph. A merge key is taken out before its source is looked at, so a mapping that is
its own source has one merge key less when it is met again, and the number of merge keys bounds how deep
sources lie inside of sources. The keys that stand for a whole mapping are plain texts afterwards.
-/

namespace Stencil.Yaml

/-- Something that is done to the nodes of a document. -/
abbrev GraphChange := StateT Graph (Except DocumentError)

/-- Entries of mappings. -/
abbrev Entries := List (Nat × Nat)

namespace Graph

/-- Whether a node has a tag. -/
def hasTag (g : Graph) (tag : Tag) (id : Nat) : Bool := (g.node id).tag == tag

/-- The first merge key among entries: its source, and the entries without it. -/
def mergeKey? (g : Graph) : Entries → Option (Nat × Entries)
  | [] => none
  | (k, v) :: rest =>
    if g.hasTag .merge k then some (v, rest)
    else (mergeKey? g rest).map fun (source, others) => (source, (k, v) :: others)

/-- How many merge keys a document has. -/
def mergeKeys (g : Graph) : Nat :=
  (g.toList.map fun n => match n.content with
    | .mapping entries => entries.countP fun (k, _) => g.hasTag .merge k
    | _ => 0).foldl (· + ·) 0

/-- The graph in which a key that stands for its whole mapping is a text. -/
def asText (g : Graph) (id : Nat) : Graph :=
  g.modify id fun n => if n.tag = .value then { n with tag := .text } else n

end Graph

/-- The entries of a mapping that has been merged by `merge`. -/
def mergedEntries (merge : Nat → GraphChange Unit) (id : Nat) : GraphChange Entries := do
  match ((← get).node id).content with
  | .mapping _ =>
    merge id
    return (← get).entries id
  | _ => throw .malformed

/-- The entries that the source of a merge key brings in, a mapping or a list of them. -/
def sourceEntries (merge : Nat → GraphChange Unit) (source : Nat) : GraphChange Entries := do
  match ((← get).node source).content with
  | .sequence elements =>
    elements.foldlM (fun later id => return (← mergedEntries merge id) ++ later) []
  | _ => mergedEntries merge source

/-- Takes at most `most` merge keys out of a mapping, and answers what they bring in. -/
def takeMergeKeys (merge : Nat → GraphChange Unit) (id : Nat) : (most : Nat) → GraphChange Entries
  | 0 => return []
  | most + 1 => do
    let g ← get
    match g.mergeKey? (g.entries id) with
    | none => return []
    | some (source, others) =>
      set (g.setContent id (.mapping others))
      let these ← sourceEntries merge source
      return these ++ (← takeMergeKeys merge id most)

/-- Merges what its merge keys ask for into a mapping. -/
def mergeInto : (fuel : Nat) → Nat → GraphChange Unit
  | 0, _ => throw .malformed
  | fuel + 1, id => do
    let merged ← takeMergeKeys (mergeInto fuel) id (fuel + 1)
    modify fun g =>
      let own := g.entries id
      let g := own.foldl (fun g (k, _) => g.asText k) g
      g.setContent id (.mapping (merged ++ own))

end Stencil.Yaml
