/-!
# Hosts and limits

What the program finds on the machine it runs on, apart from the files, and what its readers do not
take.  Nothing that is said of the program is said of one host only.
-/

namespace ProtocolBindings

/-- How many decimal digits an integer may have where it is read or shown. -/
def maxDigits : Nat := 4300

/-- What keeps a text that is written as it has to be from being read. -/
inductive Limit where
  /-- Its parts lie too deep inside one another. -/
  | depth
  /-- An integer has too many digits. -/
  | digits
  /-- It names half a pair of 16-bit units, which is no character. -/
  | pairs
deriving DecidableEq, Repr

def Limit.message : Limit → String
  | .depth => "The document is nested too deep"
  | .digits => "An integer has more than " ++ toString maxDigits ++ " digits"
  | .pairs => "Half a pair of units is no character"

/-- The machine that the program runs on: the shape of its console, how deep it lets readers go,
and what it knows of the calls in progress. -/
class Host where
  /-- The width of the console, in cells. -/
  width : Nat
  /-- How many arrays and objects of a JSON text may lie inside one another. -/
  jsonDepth : Nat
  /-- How many nodes of a type reference may lie inside one another. -/
  typeDepth : Nat
  /-- How many nodes of a YAML text may lie inside one another. -/
  yamlDepth : Nat
  /-- How long a chain of nodes of a YAML text may be that lead from one to the next. -/
  yamlChain : Nat
  /-- The calls in progress where a run has failed with a message, as they are shown to those who
  ask for them. -/
  traceback : String → String
  width_pos : 0 < width
  typeDepth_pos : 0 < typeDepth
  /-- Every manifest can be read. -/
  three_le_jsonDepth : 3 ≤ jsonDepth

/-- A host with a console of 80 cells that lets calls lie a thousand deep inside one another. -/
instance (priority := low) Host.usual : Host where
  width := 80
  jsonDepth := 985
  typeDepth := 490
  yamlDepth := 485
  yamlChain := 980
  traceback _ := ""
  width_pos := by decide
  typeDepth_pos := by decide
  three_le_jsonDepth := by decide

end ProtocolBindings
