import ProtocolBindings.Yaml.Fault
import ProtocolBindings.Yaml.Tag

/-!
# Nodes

The parts that a document is composed of.  Nodes have numbers, and a collection holds the numbers
of its items: so a node can stand in several places of a document, also inside itself.
-/

namespace ProtocolBindings.Yaml

/-- The number of a node in its document. -/
abbrev NodeId := Nat

/-- What a node holds. -/
inductive NodeBody where
  | scalar (text : String)
  | sequence (items : List NodeId)
  | mapping (entries : List (NodeId × NodeId))
deriving DecidableEq, Repr, Inhabited

/-- A node of a document, with its tag and its place. -/
structure Node where
  tag : Tag
  body : NodeBody
  mark : Mark
deriving DecidableEq, Repr, Inhabited

namespace Node

def kindName (node : Node) : String :=
  match node.body with
  | .scalar _ => "scalar"
  | .sequence _ => "sequence"
  | .mapping _ => "mapping"

/-- The node in place of a missing scalar. -/
def empty (mark : Mark) : Node :=
  ⟨.ofText "", .scalar "", mark⟩

end Node

/-- The nodes of a document and the number of the outermost one. -/
structure Graph where
  nodes : Array Node
  root : NodeId
deriving Repr, Inhabited

end ProtocolBindings.Yaml
