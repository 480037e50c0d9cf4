import ProtocolBindings.Host
import ProtocolBindings.Yaml.Node

/-!
# Merged mappings

The value of a merge key is a mapping or a sequence of mappings, and the entries of these become
entries of the mapping that has the key.  They come before its own entries, so that its own count
more; of a sequence the last mapping comes first.  The merged mappings are rid of their own merge
keys beforehand, and a mapping may be merged into itself: then it gives what it has besides the
key at hand.
-/

namespace ProtocolBindings.Yaml

/-- Fails because of a node. -/
def refuse {α : Type} (problem : String) (mark : Mark) (context : Option (String × Mark) := none) :
    Except Failure α :=
  .error (.invalid
    { context := context.map (·.1), contextMark := context.map (·.2), problem
      problemMark := mark })

/-- A step in merging mappings. -/
abbrev Merging := StateT (Array Node) (Except Failure)

namespace Merging

def node (id : NodeId) : Merging Node :=
  return (← get).getD id default

def entries (id : NodeId) : Merging (List (NodeId × NodeId)) := do
  match (← node id).body with
  | .mapping entries => return entries
  | _ => return []

/-- Gives a mapping other entries. -/
def setEntries (id : NodeId) (entries : List (NodeId × NodeId)) : Merging Unit :=
  modify fun nodes => nodes.modify id fun node => { node with body := .mapping entries }

/-- Fails because something else than a mapping is to be merged into the mapping `target`. -/
def refuseMerge {α : Type} (target : NodeId) (expected : String) (found : Node) :
    Merging α := do
  let context := ("while constructing a mapping", (← node target).mark)
  refuse ("expected " ++ expected ++ " for merging, but found " ++ found.kindName) found.mark
    (some context)

variable (merge : NodeId → Merging Unit) (target : NodeId)

/-- The entries of the mappings in a sequence, the last one's first. -/
def itemEntries : List NodeId → Merging (List (NodeId × NodeId))
  | [] => return []
  | item :: rest => do
    let found ← node item
    match found.body with
    | .mapping _ =>
      merge item
      let first ← entries item
      return (← itemEntries rest) ++ first
    | _ => refuseMerge target "a mapping" found

/-- The entries that the value of a merge key stands for. -/
def valueEntries (value : NodeId) : Merging (List (NodeId × NodeId)) := do
  let found ← node value
  match found.body with
  | .mapping _ =>
    merge value
    entries value
  | .sequence items => itemEntries merge target items
  | .scalar _ => refuseMerge target "a mapping or list of mappings" found

/-- Takes the merge keys out of a mapping, one after the other, and gives the entries that they
stand for; `rounds` is greater than their number. -/
def takeMerged : Nat → Merging (List (NodeId × NodeId))
  | 0 => return []
  | rounds + 1 => do
    let nodes ← get
    let all ← entries target
    let before := all.takeWhile fun (key, _) => (nodes.getD key default).tag != .merge
    match all.drop before.length with
    | [] => return []
    | (_, value) :: after =>
      setEntries target (before ++ after)
      let first ← valueEntries merge target value
      return first ++ (← takeMerged rounds)

/-- Makes texts of the keys that name a default value. -/
def plainKeys : Merging Unit := do
  for (key, _) in ← entries target do
    modify fun nodes => nodes.modify key fun node =>
      if node.tag == .default then { node with tag := .text } else node

end Merging

/-- Replaces the merge keys of a mapping by the entries that they stand for. -/
def mergeKeys : Nat → NodeId → Merging Unit
  | 0, _ => throw .tooDeep
  | chain + 1, target => do
    let own ← Merging.entries target
    let merged ← Merging.takeMerged (mergeKeys chain) target (own.length + 1)
    Merging.plainKeys target
    Merging.setEntries target (merged ++ (← Merging.entries target))

end ProtocolBindings.Yaml
