import ProtocolBindings.Naming
import ProtocolBindings.TypeRef

/-!
# TypeHints

The hint that the generated code gives to a type of the protocol.  It depends only on the
type and on the domain that mentions it: a named type is turned into the name of its declaration,
whether or not that declaration exists.
-/

namespace ProtocolBindings

/-- The hint of a type. -/
structure TypeHint where
  /-- The hint without the mark of an optional value. -/
  target : String
  /-- Whether the value may be absent. -/
  nullable : Bool := false
  /-- The other domains whose modules the hint names, in ascending order. -/
  domains : List String := []
  /-- Whether the hint names a declaration and so has to be quoted. -/
  forward : Bool := false
deriving DecidableEq, Repr

namespace TypeHint

/-- The text of a hint, with the mark of an optional value. -/
def text (a : TypeHint) : String :=
  if a.nullable then a.target ++ " | None" else a.target

/-- The hint as an expression that can be evaluated before every declaration exists. -/
def expression (a : TypeHint) : String :=
  if a.forward then "\"" ++ a.text ++ "\"" else a.text

/-- The hint of an optional value. -/
def orNone (a : TypeHint) : TypeHint :=
  { a with nullable := true }

def anyName : String := "Any"

/-- The hint of a primitive; an unknown one may be anything. -/
def primitiveName : String → String
  | "boolean" => "bool"
  | "integer" => "int"
  | "number" => "float"
  | "string" => "str"
  | "object" => "dict[str, Any]"
  | "array" => "list[Any]"
  | _ => anyName

def ofPrimitive (name : String) : TypeHint :=
  { target := primitiveName name }

/-- The hint of a named type as the domain `current` sees it: qualified by the module of
its domain if that is another one. -/
def ofReference (current : String) (reference : Reference) : TypeHint :=
  let name := Naming.typeName reference.typeId
  match reference.domain with
  | none => { target := name, forward := true }
  | some domain =>
    if domain == current then { target := name, forward := true }
    else
      { target := Naming.moduleName domain ++ "." ++ name
        domains := [domain]
        forward := true }

/-- The hint of any type reference as the domain `current` sees it. -/
def ofTypeRef (current : String) : TypeRef → TypeHint
  | .primitive name => ofPrimitive name
  | .named reference => ofReference current reference
  | .array items =>
    let inner := ofTypeRef current items
    { inner with target := "list[" ++ inner.text ++ "]" }

end TypeHint

end ProtocolBindings
