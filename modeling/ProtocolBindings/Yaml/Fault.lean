import ProtocolBindings.Datum.Display

/-!
# Faults in YAML texts

A fault has a problem and the place where it was met, and often a context with the place where
that began.  Places are shown with a cut-out of their line.
-/

namespace ProtocolBindings.Yaml

/-- A place in a text, counted from zero. -/
structure Mark where
  index : Nat := 0
  line : Nat := 0
  column : Nat := 0
deriving DecidableEq, Repr, Inhabited

/-- The characters that end a line. -/
def isBreak (c : Char) : Bool :=
  c == '\r' || c == '\n' || c == '\x85' || c == '\u2028' || c == '\u2029'

namespace Mark

/-- How much of a line is shown before and behind a place. -/
def reach : Nat := 36

/-- The end of the line in front of a place: what is shown of it, and whether it was cut. -/
def shownBefore (cs : List Char) (m : Mark) : List Char × Bool :=
  let line := (cs.take m.index).reverse.takeWhile (!isBreak ·)
  if reach < line.length then ((line.take (reach + 1 - 5)).reverse, true) else (line.reverse, false)

/-- The rest of the line behind a place: what is shown of it, and whether it was cut. -/
def shownBehind (cs : List Char) (m : Mark) : List Char × Bool :=
  let line := (cs.drop m.index).takeWhile (!isBreak ·)
  if reach < line.length then (line.take (reach + 1 - 5), true) else (line, false)

/-- A place of the text `cs` with the part of the line around it. -/
def message (cs : List Char) (m : Mark) : String :=
  let (before, cutBefore) := m.shownBefore cs
  let (behind, cutBehind) := m.shownBehind cs
  let head := if cutBefore then " ... " else ""
  let tail := if cutBehind then " ... " else ""
  let pointer := String.ofList (List.replicate (4 + before.length + head.length) ' ')
  "  in \"<unicode string>\", line " ++ toString (m.line + 1) ++ ", column " ++
    toString (m.column + 1) ++ ":\n    " ++ head ++ String.ofList before ++
    String.ofList behind ++ tail ++ "\n" ++ pointer ++ "^"

end Mark

/-- A fault in the structure of a text. -/
structure Fault where
  context : Option String := none
  contextMark : Option Mark := none
  problem : String
  problemMark : Mark
deriving DecidableEq, Repr, Inhabited

/-- The text of a fault in `cs`.  A context that began at the place of the problem is named
without its place. -/
def Fault.message (cs : List Char) (fault : Fault) : String :=
  let contextPlace :=
    match fault.contextMark with
    | none => []
    | some m =>
      if m.line == fault.problemMark.line && m.column == fault.problemMark.column then []
      else [m.message cs]
  "\n".intercalate
    (fault.context.toList ++ contextPlace ++ [fault.problem, fault.problemMark.message cs])

/-- Why a scalar has no value of the kind its tag asks for. -/
inductive Unreadable where
  | number
  | emptyNumber
  /-- A number that is too large to count with. -/
  | numberTooLarge
  | boolean
  | timestamp
  /-- A mapping with a default value, where a time has to be a scalar. -/
  | timestampOfMapping
  | character
  /-- A number of a character that no word of 32 bits holds. -/
  | characterTooLarge
  /-- Half a pair of 16-bit units, which is no character. -/
  | halfPair
deriving DecidableEq, Repr

/-- Why a text has no value. -/
inductive Failure where
  /-- A character that may not occur in a text. -/
  | forbiddenCharacter (c : Char) (position : Nat)
  /-- The text is not built as it has to be. -/
  | invalid (fault : Fault)
  /-- A scalar has no value of the kind its tag asks for. -/
  | unreadable (reason : Unreadable)
  /-- The text is nested too deeply. -/
  | tooDeep
deriving DecidableEq, Repr, Inhabited

/-- A number in at least four hexadecimal digits. -/
def hexCode (n : Nat) : String :=
  let digits := Nat.toDigits 16 n
  String.ofList (List.replicate (4 - digits.length) '0' ++ digits)

def Failure.message (cs : List Char) : Failure → String
  | .forbiddenCharacter c position =>
    "unacceptable character #x" ++ hexCode c.toNat ++
      ": special characters are not allowed\n  in \"<unicode string>\", position " ++
      toString position
  | .invalid fault => fault.message cs
  | .unreadable _ | .tooDeep => ""

end ProtocolBindings.Yaml
