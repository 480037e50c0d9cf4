import ProtocolBindings.Digest.Sha256
import ProtocolBindings.Json.Write
import ProtocolBindings.Schema.Basic

/-!
# Fingerprints of schemas

A schema is recorded as a JSON value with all its fields, the members of every object in
ascending order of their names.  The fingerprint is a digest of that value's text.  A schema that
is nested too deep has no record and hence no fingerprint.
-/

namespace ProtocolBindings

def Json.ofText? : Option String → Json
  | none => .null
  | some s => .string s

def Json.ofTexts (texts : List String) : Json :=
  .array (texts.map .string)

def TypeRef.toJson : TypeRef → Json
  | .primitive name => .object [("name", .string name)]
  | .array items => .object [("items", items.toJson)]
  | .named reference =>
    .object [("domain", .ofText? reference.domain), ("type_id", .string reference.typeId)]

def allowedToJson : Option (List String) → Json
  | none => .null
  | some values => .ofTexts values

def Property.toJson (p : Property) : Json :=
  .object
    [("deprecated", .bool p.deprecated), ("description", .ofText? p.description),
      ("enum", allowedToJson p.allowed), ("experimental", .bool p.experimental),
      ("name", .string p.name), ("optional", .bool p.optional), ("type_ref", p.typeRef.toJson)]

def TypeDef.toJson (t : TypeDef) : Json :=
  .object
    [("deprecated", .bool t.deprecated), ("description", .ofText? t.description),
      ("enum", allowedToJson t.allowed), ("experimental", .bool t.experimental),
      ("id", .string t.id),
      ("items", match t.shape.items? with
        | none => .null
        | some items => items.toJson),
      ("kind", .string t.shape.kindName), ("primitive", .ofText? t.shape.primitive?),
      ("properties", .array (t.properties.map (·.toJson)))]

def Command.toJson (c : Command) : Json :=
  .object
    [("deprecated", .bool c.deprecated), ("description", .ofText? c.description),
      ("experimental", .bool c.experimental), ("name", .string c.name),
      ("parameters", .array (c.parameters.map (·.toJson))),
      ("returns", .array (c.returns.map (·.toJson)))]

def Domain.toJson (d : Domain) : Json :=
  .object
    [("commands", .array (d.commands.map (·.toJson))), ("dependencies", .ofTexts d.dependencies),
      ("deprecated", .bool d.deprecated), ("description", .ofText? d.description),
      ("experimental", .bool d.experimental), ("name", .string d.name),
      ("types", .array (d.types.map (·.toJson)))]

def Schema.toJson (s : Schema) : Json :=
  .object [("domains", .array (s.domains.map (·.toJson))), ("version", .string s.version)]

/-- How many records lie inside one another in the record of a property. -/
def Property.depth (p : Property) : Nat :=
  p.typeRef.depth + 1

/-- How many records may lie inside one another in a type or a command. -/
def Schema.maxDepth : Nat := 255

/-- Whether a type is not too deep for the record of a schema. -/
def TypeDef.isRecordable (t : TypeDef) : Bool :=
  (t.shape.items?.all fun items => items.depth ≤ Schema.maxDepth) &&
    t.properties.all fun p => p.depth ≤ Schema.maxDepth

/-- Whether a command is not too deep for the record of a schema. -/
def Command.isRecordable (c : Command) : Bool :=
  (c.parameters ++ c.returns).all fun p => p.depth ≤ Schema.maxDepth

def Schema.isRecordable (s : Schema) : Bool :=
  s.domains.all fun d => d.types.all (·.isRecordable) && d.commands.all (·.isRecordable)

def Schema.fingerprintText (s : Schema) : String :=
  s.toJson.toText

def Schema.fingerprint (s : Schema) : String :=
  Sha256.shortDigest s.fingerprintText

end ProtocolBindings
