import OffloadBench.Yaml.Token

/-! # Nodes and documents

A document is a node, or nothing in an empty stream. An alias names the slot of the node it stands
for. Anchors may share a slot; it holds the node of the last one of them.
-/
namespace OffloadBench.Yaml

inductive Node
  | scalar (tag : Option Tag) (style : Style) (text : String)
  | sequence (items : List Node)
  | mapping (entries : List (Node × Node))
  | alias (slot : Nat)

namespace Node

/-- What stands where a node was left out. -/
def absent : Node := .scalar none .plain ""

end Node

structure Document where
  root : Option Node
  /-- The slot and the node of each anchor, in the order in which the nodes start. -/
  anchors : List (Nat × Node) := []

def Document.resolve (d : Document) : Node → Option Node
  | .alias slot => d.anchors.reverse.lookup slot
  | node => some node

end OffloadBench.Yaml
