import ProtocolBindings.GenerationError
import ProtocolBindings.Text.Alphanumeric
import ProtocolBindings.Text.Blank

/-!
# Type references

What a property or an array element points at: a primitive, an array of another reference, or a
named type.  A named type is written as its identifier, alone or behind the name of its domain
and a dot.
-/

namespace ProtocolBindings

/-- A named type.  Without a domain it belongs to the domain that mentions it. -/
structure Reference where
  domain : Option String
  typeId : String
deriving DecidableEq, Repr

namespace Reference

/-- Whether the characters are a basic letter or low line with word characters behind it. -/
def isPart : List Char → Bool
  | [] => false
  | c :: rest =>
    (Text.isBasicUpper c || Text.isBasicLower c || c == '_') && rest.all Text.isWordCharacter

/-- Takes a written reference apart; none if it is not one or two parts joined by a dot. -/
def ofText? (ref : String) : Option Reference :=
  match Text.pieces (· == '.') ref.toList with
  | [typeId] => if isPart typeId then some ⟨none, String.ofList typeId⟩ else none
  | [domain, typeId] =>
    if isPart domain && isPart typeId then
      some ⟨some (String.ofList domain), String.ofList typeId⟩
    else none
  | _ => none

/-- The reference that a value of the document stands for. -/
def parse (ref : Json) : Except GenerationError Reference :=
  match ref.text?.bind ofText? with
  | some reference => .ok reference
  | none => .error { cause := .unresolvedReference ref.display }

def raw (reference : Reference) : String :=
  match reference.domain with
  | none => reference.typeId
  | some domain => if domain == "" then reference.typeId else domain ++ "." ++ reference.typeId

end Reference

/-- What a property or an array element points at. -/
inductive TypeRef where
  | primitive (name : String)
  | array (items : TypeRef)
  | named (reference : Reference)
deriving DecidableEq, Repr

namespace TypeRef

/-- The reference as the documentation shows it. -/
def label : TypeRef → String
  | .primitive name => name
  | .array items => "array[" ++ items.label ++ "]"
  | .named reference => reference.raw

/-- How many records lie inside one another in the record of the reference. -/
def depth : TypeRef → Nat
  | .primitive _ => 1
  | .array items => items.depth + 1
  | .named _ => 1

end TypeRef

end ProtocolBindings
