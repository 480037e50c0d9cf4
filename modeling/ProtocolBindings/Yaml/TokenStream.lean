import ProtocolBindings.Yaml.Label

/-!
# Token streams

A text is divided into tokens from the front.  Collections in block form follow from the columns
of their items; collections in flow form from their brackets.

A key needs no indicator of its own, so whether a node is one shows only at the colon behind it.
Until then its place is kept as that of a possible key, for each level of brackets.  Such a key
lies on one line and within a bounded length of its colon.  In a block it is required where a
line begins at the column of the collection's items.
-/

namespace ProtocolBindings.Yaml

/-- The place of a node that may turn out to be a key. -/
structure PossibleKey where
  /-- How many tokens come before the node. -/
  number : Nat
  required : Bool
  mark : Mark

/-- How far behind its start a key's colon may be. -/
def maxKeyLength : Nat := 1024

/-- A text that has been divided into tokens up to a place. -/
structure Scanner where
  cursor : Cursor
  /-- How many brackets are open. -/
  flowLevel : Nat := 0
  /-- The column of the items of the innermost collection in block form. -/
  indent : Int := -1
  /-- The columns of the collections around it. -/
  indents : List Int := []
  /-- Whether a key may begin here. -/
  allowKey : Bool := true
  /-- The possible keys by the level of brackets. -/
  keys : List (Nat × PossibleKey) := []
  /-- The tokens so far, the last one first. -/
  tokens : List Token := []
  finished : Bool := false

namespace Scanner

/-- Whether the text is outside all brackets. -/
def inBlock (s : Scanner) : Bool :=
  s.flowLevel == 0

/-- The place that has been reached. -/
def mark (s : Scanner) : Mark :=
  s.cursor.mark

def column (s : Scanner) : Int :=
  s.mark.column

def push (s : Scanner) (kind : TokenKind) (start stop : Mark) : Scanner :=
  { s with tokens := ⟨kind, start, stop⟩ :: s.tokens }

/-- Adds a token without characters. -/
def pushEmpty (s : Scanner) (kind : TokenKind) : Scanner :=
  s.push kind s.mark s.mark

def pushNext (s : Scanner) (kind : TokenKind) (length : Nat) : Scanner :=
  let cursor := s.cursor.advance length
  { s.push kind s.mark cursor.mark with cursor }

/-- Adds a token without characters at an earlier place. -/
def insert (s : Scanner) (number : Nat) (kind : TokenKind) (mark : Mark) : Scanner :=
  let later := s.tokens.length - number
  { s with tokens := s.tokens.take later ++ ⟨kind, mark, mark⟩ :: s.tokens.drop later }

def missingColon (s : Scanner) (key : PossibleKey) : Except Failure Scanner :=
  s.cursor.fault "while scanning a simple key" key.mark "could not find expected ':'"

def isStale (s : Scanner) (key : PossibleKey) : Bool :=
  key.mark.line != s.mark.line || maxKeyLength < s.mark.index - key.mark.index

/-- Gives up the possible keys that can no longer be keys. -/
def dropStaleKeys (s : Scanner) : Except Failure Scanner :=
  match s.keys.find? fun (_, key) => s.isStale key && key.required with
  | some (_, key) => s.missingColon key
  | none => .ok { s with keys := s.keys.filter fun (_, key) => !s.isStale key }

/-- Gives up the possible key of the current level. -/
def dropKey (s : Scanner) : Except Failure Scanner :=
  match s.keys.lookup s.flowLevel with
  | some key =>
    if key.required then s.missingColon key
    else .ok { s with keys := s.keys.filter (·.1 != s.flowLevel) }
  | none => .ok s

/-- Keeps the current place as that of a possible key, if one may begin here. -/
def saveKey (s : Scanner) : Except Failure Scanner := do
  if s.allowKey then
    let s ← s.dropKey
    let key : PossibleKey :=
      { number := s.tokens.length, required := s.inBlock && s.indent == s.column, mark := s.mark }
    return { s with keys := s.keys ++ [(s.flowLevel, key)] }
  else return s

/-- Closes the collections in block form whose items begin behind a column. -/
def unwind (column : Int) (s : Scanner) : Scanner :=
  if s.inBlock then go s.indents s else s
where
  /-- Closes collections, given the columns of those around them. -/
  go : List Int → Scanner → Scanner
    | [], s => s
    | outer :: rest, s =>
      if column < s.indent then
        go rest { s.pushEmpty .blockEnd with indent := outer, indents := rest }
      else s

/-- Opens a collection in block form at a column, if it lies behind the items of the innermost
one; `put` adds the token. -/
def openBlock (column : Int) (put : Scanner → Scanner) (s : Scanner) : Scanner :=
  if s.inBlock && s.indent < column then
    { put s with indent := column, indents := s.indent :: s.indents }
  else s

/-- Passes over white space, comments and line ends.  Outside brackets a key may begin on every
new line. -/
def skipToToken : Nat → Scanner → Scanner
  | 0, s => s
  | n + 1, s =>
    let c := s.cursor.skipBlanks.skipComment
    if isBreak c.next then
      skipToToken n { s with cursor := c.takeBreak.2, allowKey := s.allowKey || s.inBlock }
    else { s with cursor := c }

/-- Passes over a byte order mark at the very start. -/
def skipByteOrderMark (s : Scanner) : Scanner :=
  if s.mark.index == 0 && s.cursor.next == '\uFEFF' then { s with cursor := s.cursor.step } else s

/-- Fails in a block where no key or item may begin. -/
def requireStart (what : String) (s : Scanner) : Except Failure Unit :=
  if s.inBlock && !s.allowKey then s.cursor.plainFault (what ++ " are not allowed here")
  else .ok ()

/-- Takes the end of the text. -/
def fetchEnd (s : Scanner) : Except Failure Scanner := do
  let s ← (s.unwind (-1)).dropKey
  return { s.pushEmpty .streamEnd with allowKey := false, keys := [], finished := true }

def fetchDirective (s : Scanner) : Except Failure Scanner := do
  let s ← (s.unwind (-1)).dropKey
  let (kind, stop, cursor) ← scanDirective s.cursor
  return { s.push kind s.mark stop with allowKey := false, cursor }

/-- Takes a mark between documents. -/
def fetchSeparator (s : Scanner) : Except Failure Scanner := do
  let s ← (s.unwind (-1)).dropKey
  let kind := if s.cursor.next == '-' then TokenKind.documentStart else .documentEnd
  return { s.pushNext kind 3 with allowKey := false }

/-- Takes an opening bracket. -/
def fetchOpening (kind : TokenKind) (s : Scanner) : Except Failure Scanner := do
  let s ← s.saveKey
  return { s.pushNext kind 1 with flowLevel := s.flowLevel + 1, allowKey := true }

/-- Takes a closing bracket. -/
def fetchClosing (kind : TokenKind) (s : Scanner) : Except Failure Scanner := do
  let s ← s.dropKey
  return { s.pushNext kind 1 with flowLevel := s.flowLevel - 1, allowKey := false }

/-- Takes a comma between brackets. -/
def fetchComma (s : Scanner) : Except Failure Scanner := do
  let s ← s.dropKey
  return { s.pushNext .flowEntry 1 with allowKey := true }

/-- Takes the indicator of an item. -/
def fetchItem (s : Scanner) : Except Failure Scanner := do
  s.requireStart "sequence entries"
  let s ← (s.openBlock s.column (·.pushEmpty .blockSequenceStart)).dropKey
  return { s.pushNext .blockEntry 1 with allowKey := true }

/-- Takes the indicator of a key. -/
def fetchKey (s : Scanner) : Except Failure Scanner := do
  s.requireStart "mapping keys"
  let s ← (s.openBlock s.column (·.pushEmpty .blockMappingStart)).dropKey
  return { s.pushNext .key 1 with allowKey := s.inBlock }

/-- Takes the colon in front of a value.  If there is a possible key, it is one. -/
def fetchValue (s : Scanner) : Except Failure Scanner := do
  match s.keys.lookup s.flowLevel with
  | some key =>
    let s := { s with keys := s.keys.filter (·.1 != s.flowLevel) }
    let s := s.insert key.number .key key.mark
    let s := s.openBlock key.mark.column (·.insert key.number .blockMappingStart key.mark)
    return { s.pushNext .value 1 with allowKey := false }
  | none =>
    s.requireStart "mapping values"
    let s ← (s.openBlock s.column (·.pushEmpty .blockMappingStart)).dropKey
    return { s.pushNext .value 1 with allowKey := s.inBlock }

/-- Takes an anchor, an alias or a tag. -/
def fetchLabel (scan : Cursor → Except Failure (TokenKind × Cursor)) (s : Scanner) :
    Except Failure Scanner := do
  let s ← s.saveKey
  let (kind, cursor) ← scan s.cursor
  return { s.push kind s.mark cursor.mark with allowKey := false, cursor }

def pushScalar (scalar : Scalar) (plain : Bool) (s : Scanner) : Scanner :=
  { s.push (.scalar (String.ofList scalar.text) plain) s.mark scalar.stop with
    allowKey := scalar.brokeLine
    cursor := scalar.cursor }

/-- Takes a block of lines. -/
def fetchBlock (s : Scanner) : Except Failure Scanner := do
  let s ← s.dropKey
  return s.pushScalar (← scanBlock s.indent s.cursor) false

/-- Takes a quoted scalar. -/
def fetchQuoted (s : Scanner) : Except Failure Scanner := do
  let s ← s.saveKey
  return s.pushScalar (← scanQuoted s.cursor) false

/-- Takes a plain scalar. -/
def fetchPlain (s : Scanner) : Except Failure Scanner := do
  let s ← s.saveKey
  return s.pushScalar (scanPlain (!s.inBlock) (s.indent + 1) s.cursor) true

/-- Whether a plain scalar begins here. -/
def atPlain (s : Scanner) : Bool :=
  let ch := s.cursor.next
  !(isSpaceOrEnd ch || "-?:,[]\x7b\x7d#&*!|>'\"%@\x60".toList.contains ch) ||
    (!isSpaceOrEnd (s.cursor.peek 1) && (ch == '-' || (s.inBlock && (ch == '?' || ch == ':'))))

def fetchHere (s : Scanner) : Except Failure Scanner :=
  let ch := s.cursor.next
  let alone := isSpaceOrEnd (s.cursor.peek 1)
  let lineStart := s.mark.column == 0
  if ch == endChar then s.fetchEnd
  else if ch == '%' && lineStart then s.fetchDirective
  else if lineStart && s.cursor.atSeparator then s.fetchSeparator
  else if ch == '[' then s.fetchOpening .flowSequenceStart
  else if ch == '\x7b' then s.fetchOpening .flowMappingStart
  else if ch == ']' then s.fetchClosing .flowSequenceEnd
  else if ch == '\x7d' then s.fetchClosing .flowMappingEnd
  else if ch == ',' then s.fetchComma
  else if ch == '-' && alone then s.fetchItem
  else if ch == '?' && (alone || !s.inBlock) then s.fetchKey
  else if ch == ':' && (alone || !s.inBlock) then s.fetchValue
  else if ch == '*' || ch == '&' then s.fetchLabel scanAnchor
  else if ch == '!' then s.fetchLabel scanTag
  else if (ch == '|' || ch == '>') && s.inBlock then s.fetchBlock
  else if ch == '\'' || ch == '"' then s.fetchQuoted
  else if s.atPlain then s.fetchPlain
  else
    .error (.invalid
      { context := some "while scanning for the next token"
        problem := "found character " ++ Cursor.shown ch ++ " that cannot start any token"
        problemMark := s.mark })

/-- Takes the next token, with the ends of the collections in front of it. -/
def fetch (s : Scanner) : Except Failure Scanner := do
  let s ← (skipToToken s.cursor.rounds s.skipByteOrderMark).dropStaleKeys
  (s.unwind s.column).fetchHere

/-- The tokens that cannot change any more: those in front of the first possible key. -/
def settled (s : Scanner) : List Token :=
  let count := s.keys.foldl (fun n (_, key) => min n key.number) s.tokens.length
  s.tokens.reverse.take count

end Scanner

/-- The tokens of a text, and the failure that ends them, if one does. -/
structure TokenStream where
  tokens : List Token
  failure : Option Failure

namespace TokenStream

/-- Takes tokens to the end of the text or the first failure.  Every token but the last takes up
a character, which bounds their number. -/
def scan : Nat → Scanner → TokenStream
  | 0, s => ⟨s.settled, none⟩
  | n + 1, s =>
    if s.finished then ⟨s.tokens.reverse, none⟩
    else
      match s.fetch with
      | .ok s => scan n s
      | .error failure => ⟨s.settled, some failure⟩

def ofText (cs : List Char) : TokenStream :=
  scan (cs.length + 2) { cursor := { rest := cs } }

end TokenStream

end ProtocolBindings.Yaml
