import ProtocolBindings.TypeHint
import ProtocolBindings.Ascending
import ProtocolBindings.Doc.Render
import ProtocolBindings.Entries
import ProtocolBindings.Json.Write
import ProtocolBindings.Text.Identifier

/-!
# Declarations

A type of the protocol is declared as an alias of its hint or, if it is an object, as a
record of its fields.  TypeHints that name other declarations are quoted, so declarations may
stand in any order.  The values a command returns are declared as a record too.
-/

namespace ProtocolBindings

namespace TypeHint

/-- The hint of a property, whether or not it is optional. -/
def ofRequired (current : String) (p : Property) : TypeHint :=
  ofTypeRef current p.typeRef

/-- The hint of a property as a field: one that is optional may be absent. -/
def ofProperty (current : String) (p : Property) : TypeHint :=
  if p.optional then (ofRequired current p).orNone else ofRequired current p

/-- The fields of a record with their hints.  Of two fields with one name the later one
counts, in the place of the earlier one. -/
def ofFields (current : String) (properties : List Property) : List (String × TypeHint) :=
  Entries.ofList (properties.map fun p => (p.name, ofProperty current p))

def ofTypeDef (current : String) (t : TypeDef) : TypeHint :=
  match t.shape with
  | .enumeration _ => ofPrimitive "string"
  | .object =>
    { target := "TypedDict"
      domains := Ascending.ofList ((ofFields current t.properties).flatMap (·.2.domains)) }
  | .primitive name => ofPrimitive name
  | .array items => ofTypeRef current (.array items)
  | .unresolved => { target := anyName }

end TypeHint

/-- A declaration in a generated module. -/
structure Declaration where
  name : String
  text : String
  /-- Whether it declares an alias. -/
  usesAlias : Bool := false
  /-- Whether it declares a record. -/
  usesRecord : Bool := false
  /-- The hints in it. -/
  hints : List TypeHint := []
deriving DecidableEq, Repr

namespace Declaration

def literal (text : String) : String :=
  String.ofList (Json.quote text.toList)

def recordField (field : String × TypeHint) : String :=
  "        " ++ literal field.1 ++ ": " ++ field.2.expression ++ ","

def recordText (name : String) (fields : List (String × TypeHint)) : String :=
  if fields.isEmpty then name ++ " = TypedDict(\"" ++ name ++ "\", \x7b\x7d)"
  else
    "\n".intercalate
      ([name ++ " = TypedDict(", "    \"" ++ name ++ "\",", "    \x7b"] ++
        fields.map recordField ++ ["    \x7d,", ")"])

/-- A type's declaration without the comment in front. -/
def bareOfTypeDef (domain : String) (t : TypeDef) : Declaration :=
  let name := Naming.typeName t.id
  match t.shape with
  | .object =>
    let fields := TypeHint.ofFields domain t.properties
    { name, text := recordText name fields, usesRecord := true, hints := fields.map (·.2) }
  | _ =>
    let hint := TypeHint.ofTypeDef domain t
    { name
      text := name ++ ": TypeAlias = " ++ hint.expression
      usesAlias := true
      hints := [hint] }

/-- The declaration of a type that `domain` owns, behind its comment.  The name has to be an
identifier. -/
def ofTypeDef (domain : String) (t : TypeDef) : Except GenerationError Declaration :=
  if Text.isIdentifier (Naming.typeName t.id) then
    let bare := bareOfTypeDef domain t
    .ok { bare with text := "\n".intercalate (Doc.typeComment t ++ [bare.text]) }
  else malformed (.badTypeId t.id)

/-- The declaration of the values that a command of `domain` returns, by their names on the
wire. -/
def ofResult (domain : String) (c : Command) (method : String) : Declaration :=
  let name := Naming.resultName c.name
  let fields := TypeHint.ofFields domain c.returns
  { name
    text := "#: Result of " ++ method ++ ".\n" ++ recordText name fields
    usesRecord := true
    hints := fields.map (·.2) }

end Declaration

end ProtocolBindings
