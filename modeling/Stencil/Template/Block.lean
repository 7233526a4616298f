import Stencil.Template.Node
import Stencil.Template.Token

/-!
# Blocks

Tokens become nodes one at a time. What has been read so far is an `Unfinished` template: the blocks
that are still open, the innermost first, and the nodes of the part being read. A token either
extends it or is refused, so the first refused token is the first one that no continuation could
have saved, and refusing it there is what makes a syntax error point at the earliest offending tag.

The nesting limit is looked at where a block opens, before anything inside it is read.
-/

namespace Stencil.Template

/-! ## What can be wrong -/

/-- Why a source is not a template. An opener is quoted as it was written. -/
inductive Misuse where
  /-- An else mark outside of every block. -/
  | strayElse
  /-- A close tag outside of every block. -/
  | unopened (closer : Tag)
  /-- A second else mark in one conditional. -/
  | secondElse (opener : Text)
  /-- An else mark directly inside a loop. -/
  | elseInLoop (opener : Text)
  /-- A close tag of the other kind of block. -/
  | crossed (closer : Tag) (opener : Text) (openerLine : Nat) (expected : Tag)
  /-- A block that the source ends in. -/
  | unclosed (opener : Text) (expected : Tag)
  /-- A block inside of as many blocks as are allowed. -/
  | tooDeep (limit : Int)
deriving DecidableEq, Repr

/-- What is wrong with a source, and where. -/
structure SyntaxError where
  misuse : Misuse
  position : Position
deriving DecidableEq, Repr

namespace Misuse

/-- Whether the only thing wrong is the depth of nesting. -/
def isNesting : Misuse → Bool
  | .tooDeep _ => true
  | _ => false

/-- A text between single quotes. -/
def quote (s : Text) : Text := ['\''] ++ s ++ ['\'']

/-- The misuse in words. -/
def message : Misuse → Text
  | .strayElse =>
    quote Tag.elseMark.spelling ++ " outside of an " ++ quote "\x7b\x7b#if\x7d\x7d" ++ " block"
  | .unopened closer => quote closer.spelling ++ " has no matching opening tag"
  | .secondElse opener =>
    "second " ++ quote Tag.elseMark.spelling ++ " in " ++ quote opener ++ " block"
  | .elseInLoop opener =>
    quote Tag.elseMark.spelling ++ " directly inside " ++ quote opener ++ " loop"
  | .crossed closer opener openerLine expected =>
    quote closer.spelling ++ " closes " ++ quote opener ++ " (line " ++ Text.ofNat openerLine ++
      "); expected " ++ quote expected.spelling
  | .unclosed opener expected =>
    quote opener ++ " is never closed with " ++ quote expected.spelling
  | .tooDeep limit => "block nesting deeper than " ++ Text.ofInt limit ++ " levels"

end Misuse

/-! ## Open blocks -/

/-- The part of an open block that is being read. -/
inductive Part where
  | thenPart
  /-- The else-part, with the then-part already read. -/
  | elsePart (thenNodes : List Node)
  | body

namespace Part

/-- The tag that closes a block in this part. -/
def closer : Part → Tag
  | .thenPart | .elsePart _ => .ifClose
  | .body => .eachClose

/-- The node of a block that closes in this part, when `nodes` is what the part holds. -/
def close (name : Text) (nodes : List Node) : Part → Node
  | .thenPart => .cond name nodes []
  | .elsePart thenNodes => .cond name thenNodes nodes
  | .body => .loop name nodes

end Part

/-- A block that is open: its opener, the part being read, and the nodes before the block. -/
structure OpenBlock where
  name : Text
  opener : Token
  part : Part
  before : Array Node

namespace OpenBlock

/-- The complaint that a close tag of the other kind met this block. -/
def crossedBy (b : OpenBlock) (closer : Tag) (p : Position) : SyntaxError :=
  ⟨.crossed closer b.opener.raw b.opener.position.line b.part.closer, p⟩

end OpenBlock

/-- A template read up to some token: its open blocks, the innermost first, and the nodes of the
part being read. -/
structure Unfinished where
  blocks : List OpenBlock
  nodes : Array Node

namespace Unfinished

/-- Nothing read yet. -/
def empty : Unfinished := ⟨[], #[]⟩

/-- One more node in the part being read. -/
def push (u : Unfinished) (node : Node) : Unfinished := { u with nodes := u.nodes.push node }

/-- A block opens, unless as many are open as the limit allows. -/
def openBlock (limit : Int) (u : Unfinished) (name : Text) (part : Part) (opener : Token) :
    Except SyntaxError Unfinished :=
  if limit < u.blocks.length + 1 then .error ⟨.tooDeep limit, opener.position⟩
  else .ok ⟨⟨name, opener, part, u.nodes⟩ :: u.blocks, #[]⟩

/-- An else mark: it ends the then-part of the innermost block, and is wrong anywhere else. -/
def elseMark (u : Unfinished) (p : Position) : Except SyntaxError Unfinished :=
  match u.blocks with
  | [] => .error ⟨.strayElse, p⟩
  | b :: outer =>
    match b.part with
    | .thenPart => .ok ⟨{ b with part := .elsePart u.nodes.toList } :: outer, #[]⟩
    | .elsePart _ => .error ⟨.secondElse b.opener.raw, p⟩
    | .body => .error ⟨.elseInLoop b.opener.raw, p⟩

/-- A close tag: it must be the one that the innermost block waits for. -/
def closeBlock (u : Unfinished) (closer : Tag) (p : Position) : Except SyntaxError Unfinished :=
  match u.blocks with
  | [] => .error ⟨.unopened closer, p⟩
  | b :: outer =>
    if b.part.closer = closer then
      .ok ⟨outer, b.before.push (b.part.close b.name u.nodes.toList)⟩
    else .error (b.crossedBy closer p)

/-- One more token. -/
def read (limit : Int) (u : Unfinished) (t : Token) : Except SyntaxError Unfinished :=
  match t.piece with
  | .text content => .ok (u.push (.text content))
  | .tag (.variable name) => .ok (u.push (.variable name t.raw))
  | .tag (.ifOpen _ name) => u.openBlock limit name .thenPart t
  | .tag (.eachOpen _ name) => u.openBlock limit name .body t
  | .tag .elseMark => u.elseMark t.position
  | .tag .ifClose => u.closeBlock .ifClose t.position
  | .tag .eachClose => u.closeBlock .eachClose t.position

/-- The nodes of a template that ends here; no block may be open. -/
def finish (u : Unfinished) : Except SyntaxError (List Node) :=
  match u.blocks with
  | [] => .ok u.nodes.toList
  | b :: _ => .error ⟨.unclosed b.opener.raw b.part.closer, b.opener.position⟩

end Unfinished

/-- The nodes that a list of tokens stands for. -/
def parseTokens (limit : Int) (tokens : List Token) : Except SyntaxError (List Node) := do
  (← tokens.foldlM (Unfinished.read limit) .empty).finish

/-- The nodes of a template source, with at most `limit` blocks around any place. -/
def parse (limit : Int) (source : Text) : Except SyntaxError (List Node) :=
  parseTokens limit (tokenize source)

end Stencil.Template
