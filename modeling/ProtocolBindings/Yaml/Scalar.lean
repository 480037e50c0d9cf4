import ProtocolBindings.Json.Read
import ProtocolBindings.Yaml.Cursor

/-!
# Scalars

The three ways to write a text: plain, between quotes, and as a block of lines.  In the first two
a single line end counts as a blank, and of several the first is dropped.

All loops are bounded by fuel; every round but the last takes up a character, so the length of
the text is enough.
-/

namespace ProtocolBindings.Yaml

/-- A scalar that was read: its text, its end, and the cursor behind it. -/
structure Scalar where
  text : List Char
  stop : Mark
  cursor : Cursor
  /-- Whether the cursor has passed a line end that the scalar may have ended at. -/
  brokeLine : Bool := false

/-- Whether a character is a blank or a tabulator. -/
def isSpace (c : Char) : Bool :=
  c == ' ' || c == '\t'

/-- What a line end and the line ends `more` behind it stand for. -/
def foldBreaks (first more : List Char) : List Char :=
  (if first != ['\n'] then first else if more.isEmpty then [' '] else []) ++ more

/-- Rounds enough for any loop over the text behind a cursor. -/
def Cursor.rounds (c : Cursor) : Nat :=
  c.rest.length + 1

/-! ## Between quotes -/

/-- The characters that a backslash and one more character stand for. -/
def escaped? : Char → Option Char
  | '0' => some '\x00'
  | 'a' => some '\x07'
  | 'b' => some '\x08'
  | 't' | '\t' => some '\t'
  | 'n' => some '\n'
  | 'v' => some '\x0B'
  | 'f' => some '\x0C'
  | 'r' => some '\r'
  | 'e' => some '\x1B'
  | ' ' => some ' '
  | '"' => some '"'
  | '\\' => some '\\'
  | '/' => some '/'
  | 'N' => some '\x85'
  | '_' => some '\xA0'
  | 'L' => some '\u2028'
  | 'P' => some '\u2029'
  | _ => none

/-- How many digits follow the letter of an escape by number. -/
def codeLength? : Char → Option Nat
  | 'x' => some 2
  | 'u' => some 4
  | 'U' => some 8
  | _ => none

/-- The value of hexadecimal digits, or the first character that is none. -/
def readHex (digits : List Char) : Except Char Nat :=
  digits.foldlM (fun n c =>
    match Text.hexValue? c with
    | some d => .ok (16 * n + d)
    | none => .error c) 0

/-- The character with that number.  Half a pair of 16-bit units is none. -/
def charOfCode (n : Nat) : Except Failure Char :=
  if 0x7FFFFFFF < n then .error (.unreadable .characterTooLarge)
  else if 0x10FFFF < n then .error (.unreadable .character)
  else if 0xD800 ≤ n && n ≤ 0xDFFF then .error (.unreadable .halfPair)
  else .ok (Char.ofNat n)

/-- The character of a pair of 16-bit units, the first of which is `n`, if the escape of the second
one follows. -/
def charOfPair? (n : Nat) (c : Cursor) : Option Char :=
  if Json.isLeadingUnit n && c.next == '\\' && c.peek 1 == 'u' then
    match readHex ((List.range 4).map fun i => c.peek (i + 2)) with
    | .ok second =>
      if Json.isTrailingUnit second then some (Json.charOfPair n second) else none
    | .error _ => none
  else none

/-- The line ends and the white space around them in front of a quoted scalar's next text. -/
def quotedBreaks (start : Mark) : Nat → Cursor → Except Failure (List Char × Cursor)
  | 0, c => .ok ([], c)
  | n + 1, c =>
    if c.atSeparator then
      c.fault "while scanning a quoted scalar" start "found unexpected document separator"
    else do
      let c := c.skip isSpace
      if isBreak c.next then
        let (first, c) := c.takeBreak
        let (more, c) ← quotedBreaks start n c
        return (first ++ more, c)
      else return ([], c)

/-- The white space in a quoted scalar, with its lines joined. -/
def quotedSpaces (start : Mark) (c : Cursor) : Except Failure (List Char × Cursor) := do
  let (blanks, c) := c.span isSpace
  if c.next == endChar then
    c.fault "while scanning a quoted scalar" start "found unexpected end of stream"
  else if isBreak c.next then
    let (first, c) := c.takeBreak
    let (more, c) ← quotedBreaks start c.rounds c
    return (foldBreaks first more, c)
  else return (blanks, c)

/-- The text of the escape whose backslash has been passed. -/
def quotedEscape (start : Mark) (c : Cursor) : Except Failure (List Char × Cursor) := do
  let context := "while scanning a double-quoted scalar"
  match escaped? c.next, codeLength? c.next with
  | some ch, _ => return ([ch], c.step)
  | none, some length =>
    let c := c.step
    match readHex ((List.range length).map c.peek) with
    | .ok n =>
      let c := c.advance length
      match charOfPair? n c with
      | some ch => return ([ch], c.advance 6)
      | none => return ([← charOfCode n], c)
    | .error ch =>
      c.fault context start ("expected escape sequence of " ++ toString length ++
        " hexadecimal numbers, but found " ++ Cursor.shown ch)
  | none, none =>
    if isBreak c.next then
      let c := c.takeBreak.2
      quotedBreaks start c.rounds c
    else c.fault context start ("found unknown escape character " ++ Cursor.shown c.next)

/-- The text of a quoted scalar up to white space or the closing quote. -/
def quotedText (double : Bool) (start : Mark) :
    Nat → Cursor → Except Failure (List Char × Cursor)
  | 0, c => .ok ([], c)
  | n + 1, c => do
    let (text, c) := c.span fun ch =>
      !(isSpaceOrEnd ch || ch == '\'' || ch == '"' || ch == '\\')
    let ch := c.next
    if !double && ch == '\'' && c.peek 1 == '\'' then
      let (more, c) ← quotedText double start n (c.advance 2)
      return (text ++ '\'' :: more, c)
    else if (double && ch == '\'') || (!double && (ch == '"' || ch == '\\')) then
      let (more, c) ← quotedText double start n c.step
      return (text ++ ch :: more, c)
    else if double && ch == '\\' then
      let (inner, c) ← quotedEscape start c.step
      let (more, c) ← quotedText double start n c
      return (text ++ inner ++ more, c)
    else return (text, c)

/-- The rest of a quoted scalar up to its closing quote. -/
def quotedRest (double : Bool) (start : Mark) :
    Nat → Cursor → Except Failure (List Char × Cursor)
  | 0, c => .ok ([], c)
  | n + 1, c => do
    if c.next == (if double then '"' else '\'') then return ([], c)
    else
      let (spaces, c) ← quotedSpaces start c
      let (text, c) ← quotedText double start c.rounds c
      let (more, c) ← quotedRest double start n c
      return (spaces ++ text ++ more, c)

/-- Reads a quoted scalar; the cursor is at its opening quote. -/
def scanQuoted (c : Cursor) : Except Failure Scalar := do
  let start := c.mark
  let double := c.next == '"'
  let c := c.step
  let (text, c) ← quotedText double start c.rounds c
  let (more, c) ← quotedRest double start c.rounds c
  let c := c.step
  return { text := text ++ more, stop := c.mark, cursor := c }

/-! ## Plain -/

/-- The characters that end a key or item in a flow collection. -/
def isFlowIndicator (c : Char) : Bool :=
  c == ',' || c == '[' || c == ']' || c == '\x7b' || c == '\x7d'

/-- How many characters the next piece of a plain scalar without white space has. -/
def plainLength (inFlow : Bool) : List Char → Nat
  | [] => 0
  | ch :: rest =>
    let next := rest.headD endChar
    if isSpaceOrEnd ch then 0
    else if ch == ':' && (isSpaceOrEnd next || (inFlow && isFlowIndicator next)) then 0
    else if inFlow && (isFlowIndicator ch || ch == '?') then 0
    else plainLength inFlow rest + 1

/-- The line ends behind the first one in a plain scalar; nothing if a mark between documents is
met. -/
def plainBreaks : Nat → Cursor → Option (List Char) × Cursor
  | 0, c => (some [], c)
  | n + 1, c =>
    if c.atSeparator then (none, c)
    else
      let c := c.skipBlanks
      if isBreak c.next then
        let (first, c) := c.takeBreak
        let (more, c) := plainBreaks n c
        (more.map (first ++ ·), c)
      else (some [], c)

/-- The white space behind a piece of a plain scalar, with its lines joined, and whether it holds
a line end. -/
def plainSpaces (c : Cursor) : List Char × Cursor × Bool :=
  let (blanks, c) := c.span (· == ' ')
  if isBreak c.next then
    let (first, c) := c.takeBreak
    match plainBreaks c.rounds c with
    | (some more, c) => (foldBreaks first more, c, true)
    | (none, c) => ([], c, true)
  else (blanks, c, false)

/-- The pieces of a plain scalar, each with the white space `spaces` in front of it. -/
def plainPieces (inFlow : Bool) (column : Int) : Nat → List Char → Scalar → Scalar
  | 0, _, s => s
  | n + 1, spaces, s =>
    let c := s.cursor
    let length := if c.next == '#' then 0 else plainLength inFlow c.rest
    if length == 0 then s
    else
      let behind := c.advance length
      let (more, c', brokeLine) := plainSpaces behind
      let s := ⟨s.text ++ spaces ++ c.rest.take length, behind.mark, c', brokeLine⟩
      if more.isEmpty || c'.next == '#' || (!inFlow && c'.mark.column < column) then s
      else plainPieces inFlow column n more s

/-- Reads a plain scalar.  In a block, its further lines have to reach the given column. -/
def scanPlain (inFlow : Bool) (column : Int) (c : Cursor) : Scalar :=
  plainPieces inFlow column c.rounds [] ⟨[], c.mark, c, false⟩

/-! ## Blocks of lines -/

/-- What becomes of the line ends at the end of a block. -/
inductive Chomping where
  | strip
  | clip
  | keep
deriving DecidableEq, Repr

/-- How a sign is read behind the indicator of a block. -/
def chomping? : Char → Option Chomping
  | '+' => some .keep
  | '-' => some .strip
  | _ => none

/-- The depth that a digit behind the indicator of a block asks for. -/
def blockDepth (start : Mark) (c : Cursor) : Except Failure (Option Nat × Cursor) :=
  if c.next.isDigit then
    if c.next == '0' then
      c.fault "while scanning a block scalar" start
        "expected indentation indicator in the range 1-9, but found 0"
    else .ok (some (c.next.toNat - '0'.toNat), c.step)
  else .ok (none, c)

/-- The sign and the digit behind the indicator of a block, in either order. -/
def blockHeader (start : Mark) (c : Cursor) :
    Except Failure (Chomping × Option Nat × Cursor) := do
  let (chomping, depth, c) ←
    match chomping? c.next with
    | some chomping => do
      let (depth, c) ← blockDepth start c.step
      pure (chomping, depth, c)
    | none => do
      let (depth, c) ← blockDepth start c
      match depth, chomping? c.next with
      | some _, some chomping => pure (chomping, depth, c.step)
      | _, _ => pure (Chomping.clip, depth, c)
  if isBlankOrEnd c.next then return (chomping, depth, c)
  else
    c.fault "while scanning a block scalar" start
      ("expected chomping or indentation indicators, but found " ++ Cursor.shown c.next)

/-- The line ends in front of a block's first text, and the greatest column reached by blanks. -/
def blockLead : Nat → Nat → Cursor → List Char × Nat × Mark × Cursor
  | 0, deepest, c => ([], deepest, c.mark, c)
  | n + 1, deepest, c =>
    let stop := c.mark
    let blanks := c.skipBlanks
    let deepest := max deepest blanks.mark.column
    if isBreak blanks.next then
      let (first, c) := blanks.takeBreak
      let (more, deepest, stop, c) := blockLead n deepest c
      (first ++ more, deepest, stop, c)
    else ([], deepest, stop, blanks)

/-- Passes over blanks up to a column. -/
def skipToColumn (column : Nat) (c : Cursor) : Cursor :=
  let blanks := (c.rest.takeWhile (· == ' ')).length
  c.advance (min blanks (column - c.mark.column))

/-- The line ends in front of a block's next text, which begins at the given column. -/
def blockBreaks (column : Nat) : Nat → Cursor → List Char × Mark × Cursor
  | 0, c => ([], c.mark, c)
  | n + 1, c =>
    let stop := c.mark
    let c := skipToColumn column c
    if isBreak c.next then
      let (first, c) := c.takeBreak
      let (more, stop, c) := blockBreaks column n c
      (first ++ more, stop, c)
    else ([], stop, c)

/-- The lines of a block from the line ends `breaks` on, together with what remains open at its
end: its last line end, and the line ends behind it. -/
def blockLines (folded : Bool) (column : Nat) :
    Nat → List Char → Mark → Cursor → List Char × List Char × List Char × Mark × Cursor
  | 0, breaks, stop, c => ([], [], breaks, stop, c)
  | n + 1, breaks, stop, c =>
    if c.mark.column == column && c.next != endChar then
      let flush := !isSpace c.next
      let (line, c) := c.span (!isBreakOrEnd ·)
      let (lineEnd, c) := c.takeBreak
      let (more, stop, c) := blockBreaks column c.rounds c
      if c.mark.column == column && c.next != endChar then
        let joint :=
          if folded && lineEnd == ['\n'] && flush && !isSpace c.next then
            if more.isEmpty then [' '] else []
          else lineEnd
        let (rest, last, open_, stop, c) := blockLines folded column n more stop c
        (breaks ++ line ++ joint ++ rest, last, open_, stop, c)
      else (breaks ++ line, lineEnd, more, stop, c)
    else ([], [], breaks, stop, c)

/-- Reads a block of lines; the cursor is at its indicator, in a collection whose items begin at
column `indent`. -/
def scanBlock (indent : Int) (c : Cursor) : Except Failure Scalar := do
  let start := c.mark
  let folded := c.next == '>'
  let (chomping, depth, c) ← blockHeader start c.step
  let c ← c.skipIgnoredLine "while scanning a block scalar" start
  let least := (max (indent + 1) 1).toNat
  let (column, breaks, stop, c) :=
    match depth with
    | some depth =>
      let column := least + depth - 1
      (column, blockBreaks column c.rounds c)
    | none =>
      let (breaks, deepest, stop, c) := blockLead c.rounds 0 c
      (max least deepest, breaks, stop, c)
  let (text, lineEnd, open_, stop, c) := blockLines folded column c.rounds breaks stop c
  let ending :=
    match chomping with
    | .strip => []
    | .clip => lineEnd
    | .keep => lineEnd ++ open_
  return { text := text ++ ending, stop, cursor := c, brokeLine := true }

end ProtocolBindings.Yaml
