import ProtocolBindings.Text.Alphanumeric.Table

/-!
# Word characters

A word character is a letter or number of any script, or a low line.
-/

namespace ProtocolBindings.Text

/-- Letters and numbers of every script. -/
def isAlphanumeric (c : Char) : Bool :=
  alphanumericTable.contains c.toNat

/-- Letters and numbers of every script, and the low line. -/
def isWordCharacter (c : Char) : Bool :=
  isAlphanumeric c || c == '_'

/-- The capital letters of the basic alphabet. -/
def isBasicUpper (c : Char) : Bool :=
  'A' ≤ c && c ≤ 'Z'

/-- The small letters of the basic alphabet. -/
def isBasicLower (c : Char) : Bool :=
  'a' ≤ c && c ≤ 'z'

def isBasicDigit (c : Char) : Bool :=
  '0' ≤ c && c ≤ '9'

end ProtocolBindings.Text
