import ProtocolBindings.Yaml.Node
import ProtocolBindings.Yaml.TokenStream

/-!
# The nodes of a document

The nodes are composed from the tokens by descent; each kind of collection has its own rule for
what may stand between its items and where an item may be missing.  An alias stands for the node
that was labelled by its anchor, which may be a collection whose items are still being read.
-/

namespace ProtocolBindings.Yaml

/-! ## Reading tokens -/

/-- What is known while a document is read. -/
structure Composer where
  stream : TokenStream
  /-- What the handles of tags stand for. -/
  handles : List (String × String) := []
  nodes : Array Node := #[]
  /-- The nodes with an anchor, with the places where they begin. -/
  anchors : List (String × Mark × NodeId) := []

/-- A step in reading a document. -/
abbrev Composing := StateT Composer (Except Failure)

/-- A failure that no text can lead to; it stands where a stream without an end would end. -/
def outOfTokens : Failure :=
  .invalid { problem := "", problemMark := {} }

def peekToken : Composing Token := do
  match (← get).stream with
  | ⟨token :: _, _⟩ => return token
  | ⟨[], failure⟩ => throw (failure.getD outOfTokens)

def takeToken : Composing Token := do
  let token ← peekToken
  modify fun s => { s with stream := { s.stream with tokens := s.stream.tokens.drop 1 } }
  return token

def nextIs (kinds : List TokenKind) : Composing Bool := do
  return kinds.contains (← peekToken).kind

def failAt {α : Type} (context : Option (String × Mark)) (problem : String) (mark : Mark) :
    Composing α :=
  throw (.invalid
    { context := context.map (·.1), contextMark := context.map (·.2), problem
      problemMark := mark })

def failAtToken {α : Type} (context : Option (String × Mark)) (expected found : String) :
    Composing α := do
  let token ← peekToken
  failAt context ("expected " ++ expected ++ ", but " ++ found ++ " " ++ quoted token.kind.name)
    token.start

/-! ## Labels -/

/-- What stands in front of a node. -/
structure Labels where
  anchor : Option String := none
  tag : Option (Option String × String × Mark) := none
  start : Option Mark := none

/-- Takes an anchor and a tag, in either order, each at most once. -/
def takeLabels : Composing Labels := do
  let first ← peekToken
  match first.kind with
  | .anchor anchor =>
    let _ ← takeToken
    let labels : Labels := { anchor := some anchor, start := some first.start }
    let second ← peekToken
    match second.kind with
    | .tag handle suffix =>
      let _ ← takeToken
      return { labels with tag := some (handle, suffix, second.start) }
    | _ => return labels
  | .tag handle suffix =>
    let _ ← takeToken
    let labels : Labels :=
      { tag := some (handle, suffix, first.start), start := some first.start }
    let second ← peekToken
    match second.kind with
    | .anchor anchor =>
      let _ ← takeToken
      return { labels with anchor := some anchor }
    | _ => return labels
  | _ => return {}

/-- The full name of the tag in the labels of a node that begins at `start`. -/
def tagName (labels : Labels) (start : Mark) : Composing (Option String) := do
  match labels.tag with
  | none => return none
  | some (none, suffix, _) => return some suffix
  | some (some handle, suffix, mark) =>
    match (← get).handles.lookup handle with
    | some meaning => return some (meaning ++ suffix)
    | none =>
      failAt (some ("while parsing a node", start)) ("found undefined tag handle " ++ quoted handle)
        mark

/-- The tag of a collection: the one it names, or the ordinary one. -/
def collectionTag (name : Option String) (ordinary : Tag) : Tag :=
  match name with
  | none | some "!" => ordinary
  | some name => Tag.ofName name

/-- The tag of a scalar.  A plain one without a tag and one with an empty tag are read by their
form. -/
def scalarTag (name : Option String) (plain : Bool) (text : String) : Tag :=
  match name with
  | none => if plain then Tag.ofText text else .text
  | some "!" => Tag.ofText text
  | some name => Tag.ofName name

/-- Fails if an anchor was given to a node already. -/
def requireFresh (anchor : Option String) (mark : Mark) : Composing Unit := do
  match anchor with
  | none => return ()
  | some anchor =>
    match (← get).anchors.lookup anchor with
    | none => return ()
    | some (first, _) =>
      failAt (some ("found duplicate anchor " ++ quoted anchor ++ "; first occurrence", first))
        "second occurrence" mark

def addNode (node : Node) : Composing NodeId :=
  modifyGet fun s => (s.nodes.size, { s with nodes := s.nodes.push node })

/-- Adds a node in front of which there may be an anchor. -/
def addLabelled (anchor : Option String) (node : Node) : Composing NodeId := do
  requireFresh anchor node.mark
  let id ← addNode node
  if let some anchor := anchor then
    modify fun s => { s with anchors := (anchor, node.mark, id) :: s.anchors }
  return id

/-- Gives a node its items. -/
def fillNode (id : NodeId) (body : NodeBody) : Composing Unit :=
  modify fun s => { s with nodes := s.nodes.modify id fun node => { node with body } }

/-- The node that an alias stands for. -/
def aliased (name : String) (mark : Mark) : Composing NodeId := do
  match (← get).anchors.lookup name with
  | some (_, id) => return id
  | none => failAt none ("found undefined alias " ++ quoted name) mark

/-! ## Nodes -/

variable [Host]

/-- The kinds of collections, by what their items look like. -/
inductive Shape where
  | blockSequence
  /-- A sequence whose items begin in the column of the mapping it is a value of. -/
  | flushSequence
  | flowSequence
  | blockMapping
  | flowMapping
deriving DecidableEq

def Shape.ofKind? (inBlock flush : Bool) : TokenKind → Option Shape
  | .blockEntry => if flush then some .flushSequence else none
  | .flowSequenceStart => some .flowSequence
  | .flowMappingStart => some .flowMapping
  | .blockSequenceStart => if inBlock then some .blockSequence else none
  | .blockMappingStart => if inBlock then some .blockMapping else none
  | _ => none

def Shape.isMapping : Shape → Bool
  | .blockMapping | .flowMapping => true
  | _ => false

/-- A collection of this shape before its items are known. -/
def Shape.openNode (shape : Shape) (name : Option String) (mark : Mark) : Node :=
  if shape.isMapping then ⟨collectionTag name .mapping, .mapping [], mark⟩
  else ⟨collectionTag name .sequence, .sequence [], mark⟩

/-- Fails because a collection is not closed where its items end. -/
def unclosedBlock {α : Type} (context : String) (start : Mark) : Composing α :=
  failAtToken (some (context, start)) "<block end>" "found"

/-- Passes over the comma in front of an item between brackets; there is none in front of the
first one. -/
def takeComma (first : Bool) (context expected : String) (start : Mark) : Composing Unit := do
  if first then return ()
  else if ← nextIs [.flowEntry] then
    let _ ← takeToken
  else failAtToken (some (context, start)) expected "got"

mutual

/-- Composes a node that lies in `depth` collections.  `inBlock` tells whether collections in block
form may begin here, and `flush` whether the items of a sequence may. -/
def composeNode : Nat → Nat → Bool → Bool → Composing NodeId
  | 0, _, _, _ => throw outOfTokens
  | n + 1, depth, inBlock, flush => do
    let token ← peekToken
    match token.kind with
    | .alias name =>
      let _ ← takeToken
      aliased name token.start
    | _ =>
      if Host.yamlDepth ≤ depth then throw .tooDeep
      let labels ← takeLabels
      let start := labels.start.getD token.start
      let name ← tagName labels start
      let token ← peekToken
      match Shape.ofKind? inBlock flush token.kind, token.kind with
      | some shape, _ =>
        let id ← addLabelled labels.anchor (shape.openNode name start)
        if shape != .flushSequence then
          let _ ← takeToken
        let inner := depth + 1
        let body ←
          match shape with
          | .blockSequence => NodeBody.sequence <$> composeItems n inner token.start
          | .flushSequence => NodeBody.sequence <$> composeFlushItems n inner
          | .flowSequence => NodeBody.sequence <$> composeFlowItems n inner true token.start
          | .blockMapping => NodeBody.mapping <$> composeEntries n inner token.start
          | .flowMapping => NodeBody.mapping <$> composeFlowEntries n inner true token.start
        fillNode id body
        return id
      | none, .scalar text plain =>
        let _ ← takeToken
        addLabelled labels.anchor ⟨scalarTag name plain text, .scalar text, start⟩
      | none, _ =>
        if labels.anchor.isSome || labels.tag.isSome then
          addLabelled labels.anchor ⟨scalarTag name true "", .scalar "", start⟩
        else
          failAtToken
            (some ("while parsing a " ++ (if inBlock then "block" else "flow") ++ " node", start))
            "the node content" "found"

/-- Composes a node, or takes an empty one where the next token is one of those that end it. -/
def composeOrEmpty : Nat → Nat → Bool → Bool → List TokenKind → Mark → Composing NodeId
  | 0, _, _, _, _, _ => throw outOfTokens
  | n + 1, depth, inBlock, flush, ends, mark => do
    if ← nextIs ends then addNode (.empty mark) else composeNode n depth inBlock flush

def composeItems : Nat → Nat → Mark → Composing (List NodeId)
  | 0, _, _ => throw outOfTokens
  | n + 1, depth, start => do
    if ← nextIs [.blockEntry] then
      let token ← takeToken
      let item ← composeOrEmpty n depth true false [.blockEntry, .blockEnd] token.stop
      return item :: (← composeItems n depth start)
    else if ← nextIs [.blockEnd] then
      let _ ← takeToken
      return []
    else unclosedBlock "while parsing a block collection" start

/-- Composes the items of a sequence without a column of its own. -/
def composeFlushItems : Nat → Nat → Composing (List NodeId)
  | 0, _ => throw outOfTokens
  | n + 1, depth => do
    if ← nextIs [.blockEntry] then
      let token ← takeToken
      let ends := [.blockEntry, .key, .value, .blockEnd]
      let item ← composeOrEmpty n depth true false ends token.stop
      return item :: (← composeFlushItems n depth)
    else return []

def composeEntries : Nat → Nat → Mark → Composing (List (NodeId × NodeId))
  | 0, _, _ => throw outOfTokens
  | n + 1, depth, start => do
    if ← nextIs [.key] then
      let token ← takeToken
      let key ← composeOrEmpty n depth true true [.key, .value, .blockEnd] token.stop
      let value ←
        if ← nextIs [.value] then
          let token ← takeToken
          composeOrEmpty n depth true true [.key, .value, .blockEnd] token.stop
        else addNode (.empty (← peekToken).start)
      return (key, value) :: (← composeEntries n depth start)
    else if ← nextIs [.blockEnd] then
      let _ ← takeToken
      return []
    else unclosedBlock "while parsing a block mapping" start

/-- Composes the items of a sequence between brackets.  An item may be a single entry of a
mapping. -/
def composeFlowItems : Nat → Nat → Bool → Mark → Composing (List NodeId)
  | 0, _, _, _ => throw outOfTokens
  | n + 1, depth, first, start => do
    if ← nextIs [.flowSequenceEnd] then
      let _ ← takeToken
      return []
    else
      takeComma first "while parsing a flow sequence" "',' or ']'" start
      let token ← peekToken
      match token.kind with
      | .key =>
        let _ ← takeToken
        let inner := depth + 1
        let ends := [.value, .flowEntry, .flowSequenceEnd]
        let key ← composeOrEmpty n inner false false ends token.stop
        let value ← composeFlowValue n inner .flowSequenceEnd
        let item ← addNode ⟨.mapping, .mapping [(key, value)], token.start⟩
        return item :: (← composeFlowItems n depth false start)
      | .flowSequenceEnd =>
        let _ ← takeToken
        return []
      | _ =>
        let item ← composeNode n depth false false
        return item :: (← composeFlowItems n depth false start)

/-- Composes the value of an entry between brackets, which may be missing. -/
def composeFlowValue : Nat → Nat → TokenKind → Composing NodeId
  | 0, _, _ => throw outOfTokens
  | n + 1, depth, closing => do
    if ← nextIs [.value] then
      let token ← takeToken
      composeOrEmpty n depth false false [.flowEntry, closing] token.stop
    else addNode (.empty (← peekToken).start)

/-- Composes the entries of a mapping between brackets.  A key without an indicator has no
value. -/
def composeFlowEntries : Nat → Nat → Bool → Mark → Composing (List (NodeId × NodeId))
  | 0, _, _, _ => throw outOfTokens
  | n + 1, depth, first, start => do
    if ← nextIs [.flowMappingEnd] then
      let _ ← takeToken
      return []
    else
      takeComma first "while parsing a flow mapping" "',' or '\x7d'" start
      let token ← peekToken
      match token.kind with
      | .key =>
        let _ ← takeToken
        let ends := [.value, .flowEntry, .flowMappingEnd]
        let key ← composeOrEmpty n depth false false ends token.stop
        let value ← composeFlowValue n depth .flowMappingEnd
        return (key, value) :: (← composeFlowEntries n depth false start)
      | .flowMappingEnd =>
        let _ ← takeToken
        return []
      | _ =>
        let key ← composeNode n depth false false
        let value ← addNode (.empty (← peekToken).start)
        return (key, value) :: (← composeFlowEntries n depth false start)

end

/-! ## Documents -/

/-- The handles that need no directive. -/
def commonHandles : List (String × String) :=
  [("!", "!"), ("!!", tagFamily)]

/-- The directives in front of a document: what they say about handles. -/
def composeDirectives (seenVersion : Bool) (handles : List (String × String)) :
    Nat → Composing (List (String × String))
  | 0 => throw outOfTokens
  | n + 1 => do
    let token ← peekToken
    match token.kind with
    | .directive (.version major _) =>
      let _ ← takeToken
      if seenVersion then failAt none "found duplicate YAML directive" token.start
      else if major != 1 then
        failAt none "found incompatible YAML document (version 1.* is required)" token.start
      else composeDirectives true handles n
    | .directive (.tagHandle handle meaning) =>
      let _ ← takeToken
      if (handles.lookup handle).isSome then
        failAt none ("duplicate tag handle " ++ quoted handle) token.start
      else composeDirectives seenVersion (handles ++ [(handle, meaning)]) n
    | .directive .other =>
      let _ ← takeToken
      composeDirectives seenVersion handles n
    | _ => return handles ++ commonHandles

def skipDocumentEnds : Nat → Composing Unit
  | 0 => throw outOfTokens
  | n + 1 => do
    if ← nextIs [.documentEnd] then
      let _ ← takeToken
      skipDocumentEnds n
    else return ()

/-- Takes the mark at the start of a document with the directives in front of it, if the text
does not end here. -/
def openDocument (fuel : Nat) : Composing (Option Mark) := do
  skipDocumentEnds fuel
  let token ← peekToken
  if token.kind == .streamEnd then return none
  else
    let handles ← composeDirectives false [] fuel
    modify fun s => { s with handles }
    if ← nextIs [.documentStart] then
      let _ ← takeToken
      return some token.start
    else failAtToken none "'<document start>'" "found"

/-- Composes the only document of a stream; without one there is no node. -/
def composeDocument (fuel : Nat) : Composing (Option NodeId) := do
  let token ← peekToken
  let root ←
    match token.kind with
    | .directive _ | .documentStart | .streamEnd => do
      if (← openDocument fuel).isNone then pure none
      else
        let next ← peekToken
        match next.kind with
        | .directive _ | .documentStart | .documentEnd | .streamEnd =>
          some <$> addNode (.empty next.start)
        | _ => some <$> composeNode fuel 0 true false
    | _ => do
      modify fun s => { s with handles := commonHandles }
      some <$> composeNode fuel 0 true false
  match root with
  | none => return none
  | some root =>
    if ← nextIs [.documentEnd] then
      let _ ← takeToken
    match ← openDocument fuel with
    | none => return some root
    | some second =>
      let first := ((← get).nodes.getD root default).mark
      failAt (some ("expected a single document in the stream", first))
        "but found another document" second

/-- The nodes of a stream's document, if there is one.  Each step down takes a token or ends at
once, so three times as many steps as there are tokens are enough. -/
def Graph.ofStream (stream : TokenStream) : Except Failure (Option Graph) := do
  let fuel := 3 * stream.tokens.length + 8
  let (root, s) ← (composeDocument fuel).run { stream }
  return root.map fun root => ⟨s.nodes, root⟩

end ProtocolBindings.Yaml
