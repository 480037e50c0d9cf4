import ProtocolBindings.Decimal.Binary64

/-!
# JSON values

Integers are unbounded and apart from floating-point numbers.  An object keeps its members in the
order of their first appearance; where a name is repeated, the later value takes the earlier
place.
-/

namespace ProtocolBindings

/-- A JSON value. -/
inductive Json where
  | null
  | bool (value : Bool)
  | integer (value : Int)
  | float (value : Binary64)
  | string (value : String)
  | array (items : List Json)
  | object (members : List (String × Json))
deriving Inhabited, Repr

namespace Json

/-- The member of that name; none if there is no such member or the value is not an object. -/
def get? (value : Json) (name : String) : Option Json :=
  match value with
  | .object members => members.lookup name
  | _ => none

def text? : Json → Option String
  | .string s => some s
  | _ => none

/-- Whether a value counts as true: everything but null, false, zeros and what is empty. -/
def isTruthy : Json → Bool
  | .null => false
  | .bool b => b
  | .integer n => n != 0
  | .float (.finite _ significand _) => significand != 0
  | .float _ => true
  | .string s => s != ""
  | .array items => !items.isEmpty
  | .object members => !members.isEmpty

def kindName : Json → String
  | .null => "NoneType"
  | .bool _ => "bool"
  | .integer _ => "int"
  | .float _ => "float"
  | .string _ => "str"
  | .array _ => "list"
  | .object _ => "dict"

end Json

end ProtocolBindings
