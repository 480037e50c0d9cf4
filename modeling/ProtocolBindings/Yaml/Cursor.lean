import ProtocolBindings.Yaml.Fault

/-!
# Cursors

A cursor is a place in a text together with the characters behind it.  The end of the text reads
as a null character, which no text holds.
-/

namespace ProtocolBindings.Yaml

/-- A place in a text and the characters behind it. -/
structure Cursor where
  rest : List Char
  mark : Mark := {}
deriving Inhabited

/-- What reads as the end of a text. -/
def endChar : Char := '\x00'

/-- Whether a character ends a line or the text. -/
def isBreakOrEnd (c : Char) : Bool :=
  isBreak c || c == endChar

/-- Whether a character is a blank or ends a line or the text. -/
def isBlankOrEnd (c : Char) : Bool :=
  c == ' ' || isBreakOrEnd c

/-- Whether a character is a blank or tabulator or ends a line or the text. -/
def isSpaceOrEnd (c : Char) : Bool :=
  c == '\t' || isBlankOrEnd c

/-- Whether a character may be part of an anchor's or directive's name. -/
def isNameChar (c : Char) : Bool :=
  ('0' ≤ c && c ≤ '9') || ('A' ≤ c && c ≤ 'Z') || ('a' ≤ c && c ≤ 'z') || c == '-' || c == '_'

namespace Cursor

/-- The character `n` places further on. -/
def peek (c : Cursor) (n : Nat) : Char :=
  c.rest.getD n endChar

def next (c : Cursor) : Char :=
  c.peek 0

/-- The place behind a character that is followed by `rest`.  A byte order mark takes up no
column. -/
def markBehind (m : Mark) (ch : Char) (rest : List Char) : Mark :=
  if isBreak ch && !(ch == '\r' && rest.head? == some '\n') then ⟨m.index + 1, m.line + 1, 0⟩
  else if ch == '\uFEFF' then { m with index := m.index + 1 }
  else { m with index := m.index + 1, column := m.column + 1 }

/-- One character further on. -/
def step (c : Cursor) : Cursor :=
  match c.rest with
  | [] => c
  | ch :: rest => ⟨rest, markBehind c.mark ch rest⟩

/-- A number of characters further on. -/
def advance (c : Cursor) : Nat → Cursor
  | 0 => c
  | n + 1 => advance c.step n

/-- The characters in front that satisfy `p`, and the cursor behind them. -/
def span (c : Cursor) (p : Char → Bool) : List Char × Cursor :=
  let taken := c.rest.takeWhile p
  (taken, c.advance taken.length)

/-- The cursor behind the characters in front that satisfy `p`. -/
def skip (c : Cursor) (p : Char → Bool) : Cursor :=
  (c.span p).2

def skipBlanks (c : Cursor) : Cursor :=
  c.skip (· == ' ')

/-- The cursor at the end of a comment, if one begins here. -/
def skipComment (c : Cursor) : Cursor :=
  if c.next == '#' then c.skip (!isBreak ·) else c

/-- Takes a line's end, if one is here, in its normal form: a line feed for all but the line and
paragraph separators. -/
def takeBreak (c : Cursor) : List Char × Cursor :=
  let ch := c.next
  if ch == '\r' && c.peek 1 == '\n' then (['\n'], c.advance 2)
  else if ch == '\r' || ch == '\n' || ch == '\x85' then (['\n'], c.step)
  else if ch == '\u2028' || ch == '\u2029' then ([ch], c.step)
  else ([], c)

/-- Whether a mark between documents is here: three hyphens or points and then white space. -/
def atSeparator (c : Cursor) : Bool :=
  match c.rest with
  | '-' :: '-' :: '-' :: rest | '.' :: '.' :: '.' :: rest => isSpaceOrEnd (rest.headD endChar)
  | _ => false

/-- A character in quotes, as faults show it. -/
def shown (ch : Char) : String :=
  quoted (String.singleton ch)

def fault {α : Type} (c : Cursor) (context : String) (start : Mark) (problem : String) :
    Except Failure α :=
  .error (.invalid
    { context := some context, contextMark := some start, problem, problemMark := c.mark })

/-- A fault here without a context. -/
def plainFault {α : Type} (c : Cursor) (problem : String) : Except Failure α :=
  .error (.invalid { problem, problemMark := c.mark })

/-- Passes over the rest of a line that may hold only a comment. -/
def skipIgnoredLine (c : Cursor) (context : String) (start : Mark) : Except Failure Cursor :=
  let c := c.skipBlanks.skipComment
  if isBreakOrEnd c.next then .ok c.takeBreak.2
  else c.fault context start ("expected a comment or a line break, but found " ++ shown c.next)

end Cursor

end ProtocolBindings.Yaml
