import Stencil.Formats.Yaml.Datum
import Stencil.Formats.Yaml.Token

/-!
# Nodes of a YAML document

A document is one node: a scalar, a sequence or a mapping. A place where a node is left out holds an
empty one. Every node with an anchor may be referred to by aliases behind it, also inside of itself,
and an alias is read as the node itself. So the nodes of a document make up a graph: each has a number,
and holds the numbers of others.
-/

namespace Stencil.Yaml

/-- What a node holds; other nodes by their numbers. -/
inductive Content where
  | scalar (s : Symbols)
  | sequence (elements : List Nat)
  | mapping (entries : List (Nat × Nat))

/-- A node with its tag. -/
structure Node where
  tag : Tag
  content : Content

/-- The node of a place where none is written. -/
def Node.empty : Node := ⟨.null, .scalar []⟩

instance : Inhabited Node := ⟨.empty⟩

/-- The nodes of a document, each at its number. -/
abbrev Graph := Array Node

namespace Graph

/-- The node of a number. -/
def node (g : Graph) (id : Nat) : Node := g.getD id .empty

/-- The graph with other content in a node. -/
def setContent (g : Graph) (id : Nat) (c : Content) : Graph :=
  g.modify id fun n => { n with content := c }

/-- The entries of a mapping; none of any other node. -/
def entries (g : Graph) (id : Nat) : List (Nat × Nat) :=
  match (g.node id).content with
  | .mapping entries => entries
  | _ => []

end Graph

/-- A document read up to some token: the tokens to come, what the handles of tags stand for, the nodes
so far, and their numbers by anchor. -/
structure Reading where
  rest : List Token
  handles : List (Text × Text)
  graph : Graph
  anchors : List (Text × Nat)

/-- Something that is read from tokens. -/
abbrev NodeReader := StateT Reading (Except DocumentError)

namespace NodeReader

/-- The next token; nothing at the end. -/
def peek : NodeReader (Option Token) := do
  match (← get).rest with
  | [] => return none
  | .fault e :: _ => throw e
  | t :: _ => return some t

/-- Passes the next token. -/
def advance : NodeReader Unit := modify fun r => { r with rest := r.rest.drop 1 }

/-- Whether the next token is of some kind. -/
def sees (kind : Token → Bool) : NodeReader Bool := return (← peek).any kind

/-- Passes the next token if it is of some kind, and answers whether it was. -/
def accepts (kind : Token → Bool) : NodeReader Bool := do
  if ← sees kind then
    advance
    return true
  return false

/-- Passes the next token, which has to be of some kind. -/
def expect (kind : Token → Bool) : NodeReader Unit := do
  if !(← accepts kind) then throw DocumentError.malformed

/-! ## Kinds of tokens -/

/-- The mark of a key. -/
def isKey : Token → Bool
  | .key => true
  | _ => false

/-- The mark of a value. -/
def isValue : Token → Bool
  | .value => true
  | _ => false

/-- The mark of an element in a block. -/
def isBlockEntry : Token → Bool
  | .blockEntry => true
  | _ => false

/-- The end of a block. -/
def isBlockEnd : Token → Bool
  | .blockEnd => true
  | _ => false

/-- The mark between two elements of a flow collection. -/
def isFlowEntry : Token → Bool
  | .flowEntry => true
  | _ => false

/-- The end of a flow sequence. -/
def isSequenceEnd : Token → Bool
  | .flowSequenceEnd => true
  | _ => false

/-- The end of a flow mapping. -/
def isMappingEnd : Token → Bool
  | .flowMappingEnd => true
  | _ => false

/-- The beginning of a document. -/
def isDocumentStart : Token → Bool
  | .documentStart => true
  | _ => false

/-- The end of a document. -/
def isDocumentEnd : Token → Bool
  | .documentEnd => true
  | _ => false

/-- A directive. -/
def isDirective : Token → Bool
  | .directive _ => true
  | _ => false

/-! ## Anchors and tags -/

/-- The node that an alias refers to. -/
def aliased (name : Text) : NodeReader Nat := do
  match (← get).anchors.lookup name with
  | some id => return id
  | none => throw DocumentError.malformed

/-- One more node, known under its anchor from now on. -/
def add (anchor : Option Text) (n : Node) : NodeReader Nat := do
  let id := (← get).graph.size
  modify fun r => { r with
    graph := r.graph.push n
    anchors := anchor.toList.map (fun name => (name, id)) ++ r.anchors }
  return id

/-- One more empty node. -/
def addEmpty : NodeReader Nat := add none .empty

/-- Whether no node has the anchor yet. -/
def isFree (anchor : Option Text) : NodeReader Bool := do
  let anchors := (← get).anchors
  return anchor.all fun name => (anchors.lookup name).isNone

/-- The full name of a tag. -/
def fullName (t : TagName) : NodeReader Text := do
  match t.handle with
  | none => return t.suffix
  | some handle =>
    match (← get).handles.lookup handle with
    | some meaning => return meaning ++ t.suffix
    | none => throw DocumentError.malformed

/-- The anchor and the tag before a node, in either order. -/
def properties : NodeReader (Option Text × Option Text) := do
  match ← peek with
  | some (.anchor name) =>
    advance
    match ← peek with
    | some (.tag t) =>
      advance
      return (some name, some (← fullName t))
    | _ => return (some name, none)
  | some (.tag t) =>
    advance
    match ← peek with
    | some (.anchor name) =>
      advance
      return (some name, some (← fullName t))
    | _ => return (none, some (← fullName t))
  | _ => return (none, none)

/-- The tag of a node: the one it is given, or else the one that its kind or its content suggests. A
lone exclamation mark asks for the suggestion. -/
def tagOr (suggested : Tag) (name : Option Text) : Tag :=
  match name with
  | none | some ['!'] => suggested
  | some name => .ofName name

/-- The tag of a scalar. Only a plain one without a tag, or one with a lone exclamation mark, is
looked at for its characters. -/
def scalarTag (content : Symbols) (isPlain : Bool) (name : Option Text) : Tag :=
  tagOr (if isPlain || name.isSome then .ofCharacters (content.filled halfMark) else .text) name

/-! ## Nodes -/

/-- A collection, which is known under its anchor before what it holds is read. -/
def addCollection {α : Type} (anchor : Option Text) (tag : Tag) (content : List α → Content)
    (read : NodeReader (List α)) : NodeReader Nat := do
  let id ← add anchor ⟨tag, content []⟩
  let inside ← read
  modify fun r => { r with graph := r.graph.setContent id (content inside) }
  return id

mutual

/-- A node. Blocks are read where they are allowed, and a sequence of a block without an indentation
of its own where `flush` says so. -/
def node : (fuel : Nat) → (inBlock flush : Bool) → NodeReader Nat
  | 0, _, _ => throw DocumentError.malformed
  | fuel + 1, inBlock, flush => do
    match ← peek with
    | some (.alias name) =>
      advance
      aliased name
    | _ =>
      let (anchor, tag) ← properties
      discard peek
      if !(← isFree anchor) then throw DocumentError.malformed
      content fuel inBlock flush anchor tag

/-- A node after its anchor and its tag. It may be left out when there is one of those. -/
def content : (fuel : Nat) → (inBlock flush : Bool) → (anchor tag : Option Text) → NodeReader Nat
  | 0, _, _, _, _ => throw DocumentError.malformed
  | fuel + 1, inBlock, flush, anchor, tag => do
    let emptyNode : NodeReader Nat :=
      if anchor.isSome || tag.isSome then add anchor ⟨scalarTag [] true tag, .scalar []⟩
      else throw DocumentError.malformed
    let sequence := addCollection anchor (tagOr .list tag) Content.sequence
    let mapping := addCollection anchor (tagOr .map tag) Content.mapping
    match ← peek with
    | some (.scalar s isPlain) =>
      advance
      add anchor ⟨scalarTag s isPlain tag, .scalar s⟩
    | some .flowSequenceStart =>
      advance
      sequence (flowSequence fuel true)
    | some .flowMappingStart =>
      advance
      mapping (flowMapping fuel true)
    | some .blockEntry => if flush then sequence (flushSequence fuel) else emptyNode
    | some .blockSequenceStart =>
      if inBlock then
        advance
        sequence (blockSequence fuel)
      else emptyNode
    | some .blockMappingStart =>
      if inBlock then
        advance
        mapping (blockMapping fuel)
      else emptyNode
    | _ => emptyNode

/-- A node, or the empty one where a token comes that cannot begin it. -/
def nodeUnless : (fuel : Nat) → (stops : Token → Bool) → (inBlock flush : Bool) → NodeReader Nat
  | 0, _, _, _ => throw DocumentError.malformed
  | fuel + 1, stops, inBlock, flush => do
    if ← sees stops then addEmpty else node fuel inBlock flush

/-- The elements of a sequence that is a block of its own. -/
def blockSequence : (fuel : Nat) → NodeReader (List Nat)
  | 0 => throw DocumentError.malformed
  | fuel + 1 => do
    if ← accepts isBlockEntry then
      let first ← nodeUnless fuel (fun t => isBlockEntry t || isBlockEnd t) true false
      return first :: (← blockSequence fuel)
    expect isBlockEnd
    return []

/-- The elements of a sequence that stands in the column of the keys around it. -/
def flushSequence : (fuel : Nat) → NodeReader (List Nat)
  | 0 => throw DocumentError.malformed
  | fuel + 1 => do
    if ← accepts isBlockEntry then
      let stops t := isBlockEntry t || isKey t || isValue t || isBlockEnd t
      let first ← nodeUnless fuel stops true false
      return first :: (← flushSequence fuel)
    return []

/-- The entries of a mapping that is a block. -/
def blockMapping : (fuel : Nat) → NodeReader (List (Nat × Nat))
  | 0 => throw DocumentError.malformed
  | fuel + 1 => do
    let stops t := isKey t || isValue t || isBlockEnd t
    if ← accepts isKey then
      let key ← nodeUnless fuel stops true true
      let value ← if ← accepts isValue then nodeUnless fuel stops true true else addEmpty
      return (key, value) :: (← blockMapping fuel)
    expect isBlockEnd
    return []

/-- The elements of a flow sequence. A key with its value is a mapping of one entry. -/
def flowSequence : (fuel : Nat) → (isFirst : Bool) → NodeReader (List Nat)
  | 0, _ => throw DocumentError.malformed
  | fuel + 1, isFirst => do
    if ← accepts isSequenceEnd then return []
    if !isFirst then expect isFlowEntry
    let ends t := isFlowEntry t || isSequenceEnd t
    if ← accepts isKey then
      let key ← nodeUnless fuel (fun t => isValue t || ends t) false false
      let value ← if ← accepts isValue then nodeUnless fuel ends false false else addEmpty
      let pair ← add none ⟨.map, .mapping [(key, value)]⟩
      return pair :: (← flowSequence fuel false)
    if ← accepts isSequenceEnd then return []
    let first ← node fuel false false
    return first :: (← flowSequence fuel false)

/-- The entries of a flow mapping. -/
def flowMapping : (fuel : Nat) → (isFirst : Bool) → NodeReader (List (Nat × Nat))
  | 0, _ => throw DocumentError.malformed
  | fuel + 1, isFirst => do
    if ← accepts isMappingEnd then return []
    if !isFirst then expect isFlowEntry
    let ends t := isFlowEntry t || isMappingEnd t
    if ← accepts isKey then
      let key ← nodeUnless fuel (fun t => isValue t || ends t) false false
      let value ← if ← accepts isValue then nodeUnless fuel ends false false else addEmpty
      return (key, value) :: (← flowMapping fuel false)
    if ← accepts isMappingEnd then return []
    let key ← node fuel false false
    let value ← addEmpty
    return (key, value) :: (← flowMapping fuel false)

end

/-! ## Documents -/

/-- The handles that stand for something in every document. -/
def commonHandles : List (Text × Text) := [(['!'], ['!']), (['!', '!'], Tag.common)]

/-- The directives at the head of a document. The version may be given once, and each handle once. -/
def directives : List Token → (hasVersion : Bool) → NodeReader Unit
  | .directive d :: rest, hasVersion => do
    advance
    match d with
    | .version major =>
      if hasVersion || major ≠ 1 then throw DocumentError.malformed
      directives rest true
    | .handle handle meaning =>
      if ((← get).handles.lookup handle).isSome then throw DocumentError.malformed
      modify fun r => { r with handles := (handle, meaning) :: r.handles }
      directives rest hasVersion
    | .other => directives rest hasVersion
  | _, _ => return ()

/-- Passes the ends of documents. -/
def documentEnds : List Token → NodeReader Unit
  | .documentEnd :: rest => do
    advance
    documentEnds rest
  | _ => return ()

/-- The one document of a text; nothing when the text is empty. -/
def document (fuel : Nat) : NodeReader (Option Nat) := do
  match ← peek with
  | none => return none
  | some first =>
    let n ←
      if isDirective first || isDocumentStart first then do
        directives (← get).rest false
        modify fun r => { r with handles := r.handles ++ commonHandles }
        expect isDocumentStart
        match ← peek with
        | none => addEmpty
        | some _ =>
          nodeUnless fuel (fun t => isDirective t || isDocumentStart t || isDocumentEnd t) true false
      else do
        modify fun r => { r with handles := commonHandles }
        node fuel true false
    documentEnds (← get).rest
    if (← peek).isSome then throw DocumentError.malformed
    return some n

end NodeReader

/-- The graph of a document and the number of its node; nothing when the document is empty. -/
def graphOf (tokens : List Token) : Except DocumentError (Option (Graph × Nat)) := do
  let (root, r) ← (NodeReader.document (4 * tokens.length + 8)).run ⟨tokens, [], #[], []⟩
  return root.map fun id => (r.graph, id)

end Stencil.Yaml
