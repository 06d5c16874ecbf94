import RecordBridge.Yaml.Token

/-
  Nodes — what the tokens of a document put together.

  A node is a scalar, a sequence or a mapping, or a reference to a node with an
  anchor. Anchors are known by number; the number of a name is settled where the
  anchor stands, and a reference refers to the last node of that number, wherever
  it stands in the document.
-/

namespace RecordBridge.Yaml

/-- What stands in front of a node. -/
structure Properties where
  /-- The number of the anchor. -/
  anchor : Option Nat
  tag : Option Bytes
  deriving DecidableEq, Repr

namespace Properties

/-- Nothing. -/
def none : Properties := ⟨.none, .none⟩

end Properties

/-- A node. -/
inductive Node
  | reference (anchor : Nat)
  | scalar (properties : Properties) (text : String) (plain : Bool)
  | sequence (properties : Properties) (items : List Node)
  | mapping (properties : Properties) (entries : List (Node × Node))

namespace Node

/-- A node of which nothing is written. -/
def empty : Node := .scalar .none "" true

/-- What stands in front of a node. -/
def properties : Node → Properties
  | .reference _ => .none
  | .scalar properties _ _ | .sequence properties _ | .mapping properties _ => properties

mutual

/-- A node and all nodes in it, in the order in which they start. -/
def nodes : Node → List Node
  | .reference anchor => [.reference anchor]
  | .scalar properties text plain => [.scalar properties text plain]
  | .sequence properties items => .sequence properties items :: nodesOfItems items
  | .mapping properties entries => .mapping properties entries :: nodesOfEntries entries

/-- The nodes of a row of items. -/
def nodesOfItems : List Node → List Node
  | [] => []
  | item :: rest => item.nodes ++ nodesOfItems rest

/-- The nodes of a row of entries. -/
def nodesOfEntries : List (Node × Node) → List Node
  | [] => []
  | (key, value) :: rest => key.nodes ++ value.nodes ++ nodesOfEntries rest

end

/-- The number of steps in which a node is read, without those of the nodes in it: a sequence
or a mapping has a start and an end. -/
def steps : Node → Nat
  | .reference _ | .scalar .. => 1
  | .sequence .. | .mapping .. => 2

/-- The number of steps in which a node and all nodes in it are read. -/
def allSteps (node : Node) : Nat := node.nodes.foldl (fun n inner => n + inner.steps) 0

/-- The nodes with anchors in a node, with their numbers; where two have the same, the last
one stands first. -/
def anchored (node : Node) : List (Nat × Node) :=
  (node.nodes.filterMap fun n => n.properties.anchor.map (·, n)).reverse

end Node

end RecordBridge.Yaml
