import ProtocolBindings.Datum.Key
import ProtocolBindings.Yaml.Content
import ProtocolBindings.Yaml.Graph
import ProtocolBindings.Yaml.Merge

/-!
# Reading YAML

The document of a text, which holds a single one or none.  Every character has to be one that may
occur in a text; then the text is divided into tokens, these are composed to nodes, and the nodes
are given their values.  A node has one value, wherever it stands.  The collections are filled
from the outside in, one after the other, so that the first fault in this order is reported.
-/

namespace ProtocolBindings.Yaml

/-- Whether a character may occur in a text. -/
def isAllowed (c : Char) : Bool :=
  let n := c.toNat
  n == 0x09 || n == 0x0A || n == 0x0D || (0x20 ≤ n && n ≤ 0x7E) || n == 0x85 ||
    (0xA0 ≤ n && n ≤ 0xD7FF) || (0xE000 ≤ n && n ≤ 0xFFFD) || 0x10000 ≤ n

/-- Fails if a text holds a character that may not occur. -/
def checkCharacters (cs : List Char) : Except Failure Unit :=
  let before := cs.takeWhile isAllowed
  match cs.drop before.length with
  | [] => .ok ()
  | c :: _ => .error (.forbiddenCharacter c before.length)

namespace Node

/-- Fails because a node is of the wrong kind. -/
def refuseKind {α : Type} (expected : String) (node : Node) : Except Failure α :=
  refuse ("expected a " ++ expected ++ " node, but found " ++ node.kindName) node.mark

end Node

/-- What a list of pairs is called in a fault. -/
def pairsContext : Tag → String
  | .orderedMap => "while constructing an ordered map"
  | _ => "while constructing pairs"

/-- The collection that a tag asks for, before it is filled. -/
def emptyCollection? : Tag → Option Datum
  | .sequence | .orderedMap | .pairs => some (.list [])
  | .mapping => some (.mapping [])
  | .set => some (.set [])
  | _ => none

/-- The text of a scalar.  A mapping with a default value stands for that value. -/
def scalarText (nodes : Array Node) : Nat → NodeId → Except Failure String
  | 0, _ => .error .tooDeep
  | chain + 1, id =>
    let node := nodes.getD id default
    match node.body with
    | .scalar text => .ok text
    | .sequence _ => node.refuseKind "scalar"
    | .mapping entries =>
      match entries.find? fun (key, _) => (nodes.getD key default).tag == .default with
      | some (_, value) => scalarText nodes chain value
      | none => node.refuseKind "scalar"

/-- The value that a tag gives to a scalar's text.  A time has to be written by a scalar itself. -/
def scalarDatum (node : Node) (text : String) : Except Failure Datum :=
  match node.tag with
  | .null => .ok .null
  | .boolean => do return .boolean (← readBoolean text)
  | .integer => do return .integer (← readInteger text)
  | .float => do return .float (← readFloat text)
  | .timestamp =>
    match node.body with
    | .scalar _ => readTimestamp text
    | _ => unreadable .timestampOfMapping
  | .binary =>
    match readBytes text with
    | .ok bytes => .ok (.bytes bytes)
    | .error problem => refuse problem node.mark
  | _ => .ok (.text text)

def isScalarTag : Tag → Bool
  | .null | .boolean | .integer | .float | .timestamp | .binary | .text => true
  | _ => false

/-- What is known while the nodes are given their values. -/
structure Reader where
  nodes : Array Node
  /-- The values of the nodes, as far as they have been read. -/
  known : Array (Option Datum)
  collections : Array Datum := #[]
  /-- The nodes of collections with the collections' numbers, in the order in which they are
  filled. -/
  order : Array (NodeId × Nat) := #[]

/-- A step in giving the nodes their values. -/
abbrev Reading := StateT Reader (Except Failure)

namespace Reading

variable [Host]

def node (id : NodeId) : Reading Node :=
  return (← get).nodes.getD id default

def addCollection (d : Datum) : Reading Nat :=
  modifyGet fun s => (s.collections.size, { s with collections := s.collections.push d })

/-- The value of a node that has not been read before. -/
def readNode (id : NodeId) : Reading Datum := do
  let node ← node id
  match emptyCollection? node.tag with
  | some d =>
    let number ← addCollection d
    modify fun s => { s with order := s.order.push (id, number) }
    return .shared number
  | none =>
    if isScalarTag node.tag then scalarDatum node (← scalarText (← get).nodes Host.yamlChain id)
    else
      refuse ("could not determine a constructor for the tag " ++ quoted node.tag.name) node.mark

def datum (id : NodeId) : Reading Datum := do
  match (← get).known.getD id none with
  | some d => return d
  | none =>
    let d ← readNode id
    modify fun s => { s with known := s.known.setIfInBounds id (some d) }
    return d

/-- The key that a node is in the mapping at `start`. -/
def key (start : Mark) (id : NodeId) : Reading Key := do
  let d ← datum id
  if d.canBeKey then
    let isWord := ((scalarText (← get).nodes Host.yamlChain id).map isNotANumberWord).toOption
    return { datum := d, origin := if isWord == some true then none else some id }
  else
    refuse "found unhashable key" (← node id).mark (some ("while constructing a mapping", start))

def entries (id : NodeId) : Reading (List (Datum × Datum)) := do
  let found ← node id
  match found.body with
  | .mapping _ =>
    let s ← get
    let ((), nodes) ← (mergeKeys Host.yamlChain id).run s.nodes
    set { s with nodes }
    match (← node id).body with
    | .mapping entries =>
      let pairs ← entries.mapM fun (k, v) => do return (← key found.mark k, ← datum v)
      return Key.unify pairs
    | _ => return []
  | _ => found.refuseKind "mapping"

/-- The pair that an item of a list of pairs at `start`, a mapping with one entry, stands for. -/
def pair (context : String) (start : Mark) (id : NodeId) : Reading Datum := do
  let found ← node id
  match found.body with
  | .mapping [(k, v)] =>
    let first ← datum k
    let second ← datum v
    return .shared (← addCollection (.pair first second))
  | .mapping entries =>
    refuse ("expected a single mapping item, but found " ++ toString entries.length ++ " items")
      found.mark (some (context, start))
  | _ =>
    refuse ("expected a mapping of length 1, but found " ++ found.kindName) found.mark
      (some (context, start))

def collection (id : NodeId) : Reading Datum := do
  let node ← node id
  match node.tag, node.body with
  | .mapping, _ => return .mapping (← entries id)
  | .set, _ => return .set ((← entries id).map (·.1))
  | .sequence, .sequence items => return .list (← items.mapM datum)
  | .sequence, _ => node.refuseKind "sequence"
  | tag, .sequence items => return .list (← items.mapM (pair (pairsContext tag) node.mark))
  | tag, _ =>
    refuse ("expected a sequence, but found " ++ node.kindName) node.mark
      (some (pairsContext tag, node.mark))

/-- Fills the collections from the given place in their order on.  A node is filled once, so
there are no more rounds than nodes. -/
def fillFrom : Nat → Nat → Reading Unit
  | 0, _ => return ()
  | rounds + 1, place => do
    match (← get).order[place]? with
    | none => return ()
    | some (id, number) =>
      let d ← collection id
      modify fun s => { s with collections := s.collections.setIfInBounds number d }
      fillFrom rounds (place + 1)

end Reading

variable [Host]

/-- The document that the nodes stand for. -/
def Graph.read (g : Graph) : Except Failure Document := do
  let reader : Reader := { nodes := g.nodes, known := Array.replicate g.nodes.size none }
  let read : Reading Datum := do
    let root ← Reading.datum g.root
    Reading.fillFrom (g.nodes.size + 1) 0
    return root
  let (datum, s) ← read.run reader
  return ⟨datum, s.collections⟩

def parse (text : String) : Except Failure Document := do
  let cs := text.toList
  checkCharacters cs
  match ← Graph.ofStream (.ofText cs) with
  | none => return { datum := .null }
  | some graph => graph.read

end ProtocolBindings.Yaml
