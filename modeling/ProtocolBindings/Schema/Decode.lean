import ProtocolBindings.Schema.Basic

/-!
# Records of a schema

The parts of a schema as records that are read field by field.  The parts that a record holds
are read beforehand.
-/

namespace ProtocolBindings

def Document.asAllowedValues (d : Document) : Validated (Option (List String)) :=
  match d.datum with
  | .null => .valid none
  | _ => (d.asList Document.asText).map some

def Property.ofDocument (typeRef : TypeRef) (d : Document) : Validated Property :=
  (d.asRecord "Property").check fun record =>
    (fun name description optional experimental deprecated allowed =>
      { name, description, optional, experimental, deprecated, typeRef, allowed })
      <$> requiredField record "name" Document.asText
      <*> optionalField record "description" none Document.asOptionalText
      <*> optionalField record "optional" false Document.asBoolean
      <*> optionalField record "experimental" false Document.asBoolean
      <*> optionalField record "deprecated" false Document.asBoolean
      <*> optionalField record "enum" none Document.asAllowedValues

def TypeShape.kindNames : List String :=
  ["enum", "object", "primitive", "array", "unresolved"]

/-- One of the words for the shapes of a type. -/
def Document.asKindName (d : Document) : Validated String :=
  match d.datum with
  | .text s =>
    if TypeShape.kindNames.contains s then .valid s else .fail (.notAmong TypeShape.kindNames) d
  | _ => .fail (.notAmong TypeShape.kindNames) d

/-- The shape of that kind, which rests on the primitive or the elements. -/
def TypeShape.ofKind (id kind : String) (primitive : Option String) (items : Option TypeRef) :
    Except FieldFault TypeShape :=
  let unbacked : FieldFault := .rejected ("Type '" ++ id ++ "' has no backing primitive")
  match kind, primitive, items with
  | "array", _, some items => .ok (.array items)
  | "array", _, none => .error (.rejected ("Array type '" ++ id ++ "' has no element type"))
  | "enum", some name, _ => if name == "" then .error unbacked else .ok (.enumeration name)
  | "enum", none, _ => .error unbacked
  | "primitive", some name, _ => if name == "" then .error unbacked else .ok (.primitive name)
  | "primitive", none, _ => .error unbacked
  | "object", _, _ => .ok .object
  | _, _, _ => .ok .unresolved

/-- Reads a type with the given elements and properties. -/
def TypeDef.ofDocument (items : Option TypeRef) (properties : List Property) (d : Document) :
    Validated TypeDef :=
  (d.asRecord "TypeDef").check fun record =>
    ((fun (id : String) (description : Option String) (experimental deprecated : Bool)
        (kind : String) (primitive : Option String) (allowed : Option (List String)) =>
      (TypeShape.ofKind id kind primitive items).map fun shape =>
        ({ id, description, experimental, deprecated, shape, allowed, properties } : TypeDef))
      <$> requiredField record "id" Document.asText
      <*> optionalField record "description" none Document.asOptionalText
      <*> optionalField record "experimental" false Document.asBoolean
      <*> optionalField record "deprecated" false Document.asBoolean
      <*> optionalField record "kind" "unresolved" Document.asKindName
      <*> optionalField record "primitive" none Document.asOptionalText
      <*> optionalField record "enum" none Document.asAllowedValues).check fun result =>
    match result with
    | .ok t => .valid t
    | .error fault => .fail fault d

def Command.ofDocument (parameters returns : List Property) (d : Document) : Validated Command :=
  (d.asRecord "Command").check fun record =>
    (fun name description experimental deprecated =>
      { name, description, experimental, deprecated, parameters, returns })
      <$> requiredField record "name" Document.asText
      <*> optionalField record "description" none Document.asOptionalText
      <*> optionalField record "experimental" false Document.asBoolean
      <*> optionalField record "deprecated" false Document.asBoolean

/-- Reads a domain without its types and commands. -/
def Domain.ofDocument (d : Document) : Validated Domain :=
  (d.asRecord "Domain").check fun record =>
    (fun name description experimental deprecated =>
      { name, description, experimental, deprecated })
      <$> requiredField record "name" Document.asText
      <*> optionalField record "description" none Document.asOptionalText
      <*> optionalField record "experimental" false Document.asBoolean
      <*> optionalField record "deprecated" false Document.asBoolean

end ProtocolBindings
