import Stencil.Interpolation
import Stencil.Tree.Element

/-!
# Template trees

A tree owns its nodes in a list, and nodes refer to one another by their positions in it.  Nothing
is ever removed, so a position stays valid.
-/

namespace Stencil

/-- A node of a template. -/
inductive Node where
  | element (e : Element)
  /-- Text with at least one interpolation. -/
  | expression (expression : String) (tokens : List Interpolation.Token) (text : String)
    (span : Option Span) (parent : Option NodeId)
  | text (text : String) (span : Option Span) (parent : Option NodeId)
  deriving DecidableEq

namespace Node

/-- The node that a node hangs under. -/
def parent : Node → Option NodeId
  | element e => e.parent
  | expression _ _ _ _ parent | text _ _ parent => parent

/-- Where a node stands in the source. -/
def span : Node → Option Span
  | element e => e.span
  | expression _ _ _ span _ | text _ span _ => span

/-- The element that a node is. -/
def element? : Node → Option Element
  | element e => some e
  | _ => none

/-- Hangs a node under another one. -/
def withParent (parent : NodeId) : Node → Node
  | element e => element { e with parent }
  | expression code tokens source span _ => expression code tokens source span (some parent)
  | text source span _ => text source span (some parent)

/-- Changes an element and leaves other nodes alone. -/
def mapElement (f : Element → Element) : Node → Node
  | element e => element (f e)
  | node => node

end Node

/-- A template as a tree of nodes. -/
structure Tree where
  nodes : List Node := []
  root : Option NodeId := none
  deriving DecidableEq

namespace Tree

/-- The node at a position. -/
def get? (t : Tree) (id : NodeId) : Option Node :=
  t.nodes[id.toNat]?

/-- The element at a position. -/
def element? (t : Tree) (id : NodeId) : Option Element :=
  (t.get? id).bind Node.element?

/-- Changes the node at a position. -/
def modify (t : Tree) (id : NodeId) (f : Node → Node) : Tree :=
  { t with nodes := t.nodes.modify id.toNat f }

/-- Changes the element at a position. -/
def modifyElement (t : Tree) (id : NodeId) (f : Element → Element) : Tree :=
  t.modify id (Node.mapElement f)

/-- The position of the next node. -/
def nextId (t : Tree) : NodeId :=
  offsetOfNat t.nodes.length

/-- Adds a node; the first part is its position. -/
def push (t : Tree) (node : Node) : NodeId × Tree :=
  (t.nextId, { t with nodes := t.nodes ++ [node] })

/-- Adds an element.  It knows its parent but is none of its children. -/
def createElement (t : Tree) (tag : String) (attributes : List Attribute)
    (parent : Option NodeId) : NodeId × Tree :=
  t.push (.element (Element.ofAttributes tag attributes parent))

/-- Makes a node the last child of another one. -/
def appendChild (t : Tree) (parent child : NodeId) : Tree :=
  match t.get? child with
  | none => t
  | some _ =>
    (t.modify child (Node.withParent parent)).modifyElement parent fun e =>
      { e with children := e.children ++ [child] }

/-- Makes a node the root. -/
def setRoot (t : Tree) (root : NodeId) : Tree :=
  { t with root }

end Tree

end Stencil
