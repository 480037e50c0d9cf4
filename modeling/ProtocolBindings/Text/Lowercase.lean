import ProtocolBindings.Text.Lowercase.Table

/-!
# Lowercase

The full lowercase form of a text.  All characters but two are mapped one by one.  A dotted
capital I becomes two characters, and a capital sigma becomes the final form where a letter
stands before it and none after it; characters that carry no case of their own, such as
apostrophes and combining marks, are passed over in both searches.
-/

namespace ProtocolBindings.Text

/-- The code point a list of runs maps `n` to; one that no run holds stays. -/
def CaseRun.apply : List CaseRun → Nat → Nat
  | [], n => n
  | run :: rest, n =>
    if n < run.first then n
    else if n ≤ run.last && (n - run.first) % run.step == 0 then (n + run.shift).toNat
    else CaseRun.apply rest n

/-- The lowercase form of one character, its surroundings left aside. -/
def lowerChar (c : Char) : Char :=
  Char.ofNat (CaseRun.apply lowercaseTable c.toNat)

/-- Whether a search for a neighbouring letter passes over the character. -/
def isCaseIgnorable (c : Char) : Bool :=
  caseIgnorableTable.contains c.toNat

/-- Whether the character is a letter with case. -/
def isCased (c : Char) : Bool :=
  casedTable.contains c.toNat

/-- Whether the nearest character that is not passed over is a letter with case. -/
def meetsLetter (cs : List Char) : Bool :=
  match cs.dropWhile isCaseIgnorable with
  | [] => false
  | c :: _ => isCased c

/-- Lowercases `cs`, where `before` holds the characters in front of it, nearest first. -/
def lowerFrom (before : List Char) : List Char → List Char
  | [] => []
  | c :: rest =>
    (if c == 'Σ' then
      [if meetsLetter before && !meetsLetter rest then 'ς' else 'σ']
    else if c == 'İ' then ['i', '\u0307']
    else [lowerChar c]) ++ lowerFrom (c :: before) rest

/-- The lowercase form of a sequence of characters. -/
def lowerChars (cs : List Char) : List Char :=
  lowerFrom [] cs

def lower (text : String) : String :=
  String.ofList (lowerChars text.toList)

end ProtocolBindings.Text
