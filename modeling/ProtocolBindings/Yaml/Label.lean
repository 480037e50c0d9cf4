import ProtocolBindings.Text.Utf8
import ProtocolBindings.Yaml.Scalar
import ProtocolBindings.Yaml.Token

/-!
# Labels

What stands in front of a node or a document and says how to take it: anchors and aliases, tags,
and directives.
-/

namespace ProtocolBindings.Yaml

/-- The problem of a name that has no character or goes on with a wrong one. -/
def noName (ch : Char) : String :=
  "expected alphabetic or numeric character, but found " ++ Cursor.shown ch

/-- Whether a character may follow an anchor's name. -/
def endsAnchor (c : Char) : Bool :=
  isSpaceOrEnd c || "?:,]\x7d%@`".toList.contains c

/-- Reads an anchor or alias; the cursor is at its indicator. -/
def scanAnchor (c : Cursor) : Except Failure (TokenKind × Cursor) := do
  let start := c.mark
  let isAlias := c.next == '*'
  let context := "while scanning an " ++ (if isAlias then "alias" else "anchor")
  let (name, c) := c.step.span isNameChar
  if name.isEmpty || !endsAnchor c.next then c.fault context start (noName c.next)
  else
    let name := String.ofList name
    return (if isAlias then .alias name else .anchor name, c)

/-- Whether a character may be part of a tag. -/
def isTagChar (c : Char) : Bool :=
  isNameChar c || ";/?:@&=+$,.!~*'()[]".toList.contains c

/-- The bytes of the escapes in front. -/
def tagBytes (context : String) (start : Mark) :
    Nat → Cursor → Except Failure (List UInt8 × Cursor)
  | 0, c => .ok ([], c)
  | n + 1, c =>
    if c.next != '%' then .ok ([], c)
    else
      let c := c.step
      match readHex [c.next, c.peek 1] with
      | .ok byte => do
        let (more, c) ← tagBytes context start n (c.advance 2)
        return (UInt8.ofNat byte :: more, c)
      | .error ch =>
        c.fault context start
          ("expected URI escape sequence of 2 hexadecimal numbers, but found " ++
            Cursor.shown ch)

/-- The characters of a tag with its escapes resolved. -/
def tagText (context : String) (start : Mark) :
    Nat → Cursor → Except Failure (List Char × Cursor)
  | 0, c => .ok ([], c)
  | n + 1, c => do
    let (text, c) := c.span isTagChar
    if c.next != '%' then return (text, c)
    else
      let escape := c
      let (bytes, c) ← tagBytes context start c.rounds c
      match Text.Utf8.decode ⟨bytes.toArray⟩ with
      | .ok decoded =>
        let (more, c) ← tagText context start n c
        return (text ++ decoded.toList ++ more, c)
      | .error fault => escape.fault context start fault.message

/-- Reads the text of a tag, which may not be empty. -/
def scanTagText (what : String) (start : Mark) (c : Cursor) :
    Except Failure (String × Cursor) := do
  let (text, c) ← tagText ("while scanning a " ++ what) start c.rounds c
  if text.isEmpty then
    c.fault ("while parsing a " ++ what) start ("expected URI, but found " ++ Cursor.shown c.next)
  else return (String.ofList text, c)

/-- Reads the handle of a tag: one exclamation mark, or a name between two. -/
def scanTagHandle (what : String) (start : Mark) (c : Cursor) :
    Except Failure (String × Cursor) := do
  let missing (c : Cursor) : Except Failure (String × Cursor) :=
    c.fault ("while scanning a " ++ what) start
      ("expected '!', but found " ++ Cursor.shown c.next)
  if c.next != '!' then missing c
  else
    let c := c.step
    if c.next == ' ' then return ("!", c)
    else
      let (name, c) := c.span isNameChar
      if c.next != '!' then missing c
      else return (String.ofList ('!' :: (name ++ ['!'])), c.step)

/-- Whether a second exclamation mark comes before the next blank. -/
def hasHandle (c : Cursor) : Bool :=
  (c.rest.takeWhile (!isBlankOrEnd ·)).contains '!'

def scanTag (c : Cursor) : Except Failure (TokenKind × Cursor) := do
  let start := c.mark
  let next := c.peek 1
  let (kind, c) ←
    if next == '<' then do
      let (text, c) ← scanTagText "tag" start (c.advance 2)
      if c.next != '>' then
        c.fault "while parsing a tag" start ("expected '>', but found " ++ Cursor.shown c.next)
      else pure (TokenKind.tag none text, c.step)
    else if isSpaceOrEnd next then pure (TokenKind.tag none "!", c.step)
    else do
      let (handle, c) ← if hasHandle c.step then scanTagHandle "tag" start c else pure ("!", c.step)
      let (text, c) ← scanTagText "tag" start c
      pure (TokenKind.tag (some handle) text, c)
  if isBlankOrEnd c.next then return (kind, c)
  else
    c.fault "while scanning a tag" start ("expected ' ', but found " ++ Cursor.shown c.next)

def scanVersionNumber (start : Mark) (c : Cursor) : Except Failure (Nat × Cursor) := do
  let (digits, behind) := c.span Char.isDigit
  if digits.isEmpty then
    c.fault "while scanning a directive" start
      ("expected a digit, but found " ++ Cursor.shown c.next)
  else return (Json.natOfDigits digits, behind)

def scanVersion (start : Mark) (c : Cursor) : Except Failure (Directive × Cursor) := do
  let context := "while scanning a directive"
  let (major, c) ← scanVersionNumber start c
  if c.next != '.' then
    c.fault context start ("expected a digit or '.', but found " ++ Cursor.shown c.next)
  else
    let (minor, c) ← scanVersionNumber start c.step
    if isBlankOrEnd c.next then return (.version major minor, c)
    else c.fault context start ("expected a digit or ' ', but found " ++ Cursor.shown c.next)

/-- Reads a handle and what it stands for. -/
def scanHandleMeaning (start : Mark) (c : Cursor) : Except Failure (Directive × Cursor) := do
  let missing {α : Type} (c : Cursor) : Except Failure α :=
    c.fault "while scanning a directive" start
      ("expected ' ', but found " ++ Cursor.shown c.next)
  let (handle, c) ← scanTagHandle "directive" start c
  if c.next != ' ' then missing c
  else
    let (meaning, c) ← scanTagText "directive" start c.skipBlanks
    if isBlankOrEnd c.next then return (.tagHandle handle meaning, c) else missing c

/-- Reads a directive with its line; the cursor is at its indicator. -/
def scanDirective (c : Cursor) : Except Failure (TokenKind × Mark × Cursor) := do
  let start := c.mark
  let context := "while scanning a directive"
  let (name, c) := c.step.span isNameChar
  if name.isEmpty || !isBlankOrEnd c.next then c.fault context start (noName c.next)
  else
    let (directive, c) ←
      if name == "YAML".toList then scanVersion start c.skipBlanks
      else if name == "TAG".toList then scanHandleMeaning start c.skipBlanks
      else pure (Directive.other, c.skip (!isBreakOrEnd ·))
    return (.directive directive, c.mark, ← c.skipIgnoredLine context start)

end ProtocolBindings.Yaml
