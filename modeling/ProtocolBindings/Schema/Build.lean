import ProtocolBindings.Host
import ProtocolBindings.Schema.Basic
import ProtocolBindings.Version

/-!
# Building schemas

A schema is built from a decoded protocol document.  Fields of the wrong kind are faults, except
that flags take any value for its truth and lists of texts take any item for its display.  The
first fault ends the construction; it is located at the innermost named part it lies in.

A description that is not a text is a malformed document in a domain or a type.  In a property
or a command it is reported as an invalid record.
-/

namespace ProtocolBindings

/-- Why no schema could be built. -/
inductive BuildError where
  | generation (error : GenerationError)
  | invalidRecord (error : ValidationError)
  /-- More arrays lie inside one another than a schema may have. -/
  | tooDeep
deriving Repr

namespace BuildError

/-- Offers a location to an error; only one in the generation takes it. -/
def within (location : String) : BuildError → BuildError
  | .generation e => .generation (e.within location)
  | .invalidRecord e => .invalidRecord e
  | .tooDeep => .tooDeep

end BuildError

/-- The result of building a part of a schema. -/
abbrev Building (α : Type) := Except BuildError α

namespace Building

/-- Fails because of a malformed document. -/
def malformed {α : Type} (malformation : Malformation) : Building α :=
  .error (.generation { cause := .schemaMalformed malformation })

/-- Offers a location to an error that arises in `result`. -/
def located {α : Type} (location : String) (result : Building α) : Building α :=
  result.mapError (·.within location)

def requireObject (part : String) (data : Json) : Building Unit :=
  match data with
  | .object _ => .ok ()
  | other => malformed (.notAnObject part other.kindName)

/-- The text of a required field, which may not be empty. -/
def requireText (data : Json) (key : String) : Building String :=
  match data.get? key with
  | some (.string s) => if s == "" then malformed (.noField key) else .ok s
  | _ => malformed (.noField key)

/-- The items of a list; none if the field is absent or null. -/
def optionalList (data : Json) (key : String) : Building (List Json) :=
  match data.get? key with
  | none | some .null => .ok []
  | some (.array items) => .ok items
  | some _ => malformed (.notAList key)

def flag (data : Json) (key : String) : Bool :=
  ((data.get? key).map (·.isTruthy)).getD false

def allowedValues (data : Json) : Building (Option (List String)) :=
  match data.get? "enum" with
  | none | some .null => .ok none
  | some (.array items) => .ok (some (items.map (·.display)))
  | some _ => malformed (.notAList "enum")

/-- The description in a record, or the fault in it. -/
def description (data : Json) : Except FieldError (Option String) :=
  match data.get? "description" with
  | none | some .null => .ok none
  | some (.string s) => .ok (some s)
  | some other => .error ⟨.notText, [.name "description"], .ofJson other⟩

/-- The description in a domain or a type, where a fault makes the document malformed. -/
def documentDescription (data : Json) : Building (Option String) :=
  match description data with
  | .ok text => .ok text
  | .error e => malformed (.invalidField e.fault)

def recordDescription (title : String) (data : Json) : Building (Option String) :=
  match description data with
  | .ok text => .ok text
  | .error e => .error (.invalidRecord ⟨title, [e]⟩)

/-- The text of a member, or a location of its own if the member has none: `name` behind the
domain where it counts as true. -/
def partLocation (domain : String) (data : Json) (key : String) : String :=
  match data.get? key with
  | some value => if value.isTruthy then domain ++ "." ++ value.display else domain
  | none => domain

end Building

open Building

mutual

/-- The type that a node of the document points at.  A reference counts before a type, and a node
with neither may hold anything. -/
def TypeRef.ofJson (data : Json) : Building TypeRef :=
  match data with
  | .object members => TypeRef.ofMembers members members
  | _ => .ok (.primitive "any")

/-- The type that an object with the given members points at; `rest` holds the members that are
still to be searched for the elements of an array. -/
def TypeRef.ofMembers (members : List (String × Json)) (rest : List (String × Json)) :
    Building TypeRef :=
  match members.lookup "$ref" with
  | some ref => (Reference.parse ref).map .named |>.mapError .generation
  | none =>
    match members.lookup "type" with
    | some (.string "array") => (TypeRef.itemsOf rest).map .array
    | some (.string name) => .ok (.primitive name)
    | _ => .ok (.primitive "any")

/-- The elements of an array: what the first member named `items` points at, if it is an
object. -/
def TypeRef.itemsOf (members : List (String × Json)) : Building TypeRef :=
  match members with
  | [] => .ok (.primitive "any")
  | (name, value) :: rest =>
    if name == "items" then TypeRef.ofJson value else TypeRef.itemsOf rest

end

mutual

/-- How many nodes lie inside one another in the type that a node points at, itself included. -/
def TypeRef.nesting (data : Json) : Nat :=
  match data with
  | .object members =>
    match members.lookup "$ref", members.lookup "type" with
    | none, some (.string "array") => TypeRef.itemsNesting members + 1
    | _, _ => 1
  | _ => 1

/-- The same for the elements of an array. -/
def TypeRef.itemsNesting (members : List (String × Json)) : Nat :=
  match members with
  | [] => 1
  | (name, value) :: rest =>
    if name == "items" then TypeRef.nesting value else TypeRef.itemsNesting rest

end

variable [Host]

/-- Demands that the nodes of a type reference do not lie too deep inside one another.  This comes
before anything is read from the innermost one. -/
def TypeRef.requireShallow (nesting : Nat) : Building Unit :=
  if Host.typeDepth < nesting then .error .tooDeep else .ok ()

/-- The property that a parameter, returned value or field stands for. -/
def Property.ofJson (data : Json) : Building Property := do
  requireObject "property" data
  let name ← requireText data "name"
  TypeRef.requireShallow (TypeRef.nesting data)
  let typeRef ← TypeRef.ofJson data
  let allowed ← allowedValues data
  let description ← recordDescription "Property" data
  return {
    name
    description
    optional := flag data "optional"
    experimental := flag data "experimental"
    deprecated := flag data "deprecated"
    typeRef
    allowed }

def TypeRef.elementsOf (data : Json) : Building TypeRef :=
  match data with
  | .object members => do
    TypeRef.requireShallow (TypeRef.itemsNesting members)
    TypeRef.itemsOf members
  | _ => .ok (.primitive "any")

def TypeShape.ofJson (data : Json) : Building TypeShape :=
  match data.get? "type" with
  | some (.string name) =>
    if name == "string" && (data.get? "enum").isSome then .ok (.enumeration "string")
    else if name == "object" && (data.get? "properties").isSome then .ok .object
    else if name == "array" then (TypeRef.elementsOf data).map .array
    else .ok (.primitive name)
  | _ => .ok .unresolved

def TypeDef.shapeFault? (t : TypeDef) : Option FieldFault :=
  match t.shape.primitive? with
  | some "" => some (.rejected ("Type '" ++ t.id ++ "' has no backing primitive"))
  | _ => none

/-- The named type that an entry of a domain stands for. -/
def TypeDef.ofJson (data : Json) : Building TypeDef := do
  requireObject "type" data
  let id ← requireText data "id"
  let shape ← TypeShape.ofJson data
  let properties ← (← optionalList data "properties").mapM Property.ofJson
  let allowed ← allowedValues data
  let description ← documentDescription data
  let t : TypeDef :=
    { id
      description
      experimental := flag data "experimental"
      deprecated := flag data "deprecated"
      shape
      allowed
      properties }
  match t.shapeFault? with
  | some fault => Building.malformed (.invalidField fault)
  | none => return t

/-- The command that an entry of a domain stands for. -/
def Command.ofJson (data : Json) : Building Command := do
  requireObject "command" data
  let name ← requireText data "name"
  let parameters ← (← optionalList data "parameters").mapM Property.ofJson
  let returns ← (← optionalList data "returns").mapM Property.ofJson
  let description ← recordDescription "Command" data
  return {
    name
    description
    experimental := flag data "experimental"
    deprecated := flag data "deprecated"
    parameters
    returns }

/-- What is said of a name that a rule of distinct names forbids. -/
def repeatedFault (what name : String) : FieldFault :=
  .rejected ("Duplicate " ++ what ++ " '" ++ name ++ "'")

/-- The domain that an entry of the document stands for. -/
def Domain.ofJson (data : Json) : Building Domain := do
  requireObject "domain" data
  let name ← requireText data "domain"
  let types ← (← optionalList data "types").mapM fun t =>
    Building.located (partLocation name t "id") (TypeDef.ofJson t)
  let commands ← (← optionalList data "commands").mapM fun c =>
    Building.located (partLocation name c "name") (Command.ofJson c)
  let dependencies ← optionalList data "dependencies"
  let description ← documentDescription data
  let d : Domain :=
    { name
      description
      experimental := flag data "experimental"
      deprecated := flag data "deprecated"
      dependencies := dependencies.map (·.display)
      types
      commands }
  match d.repeatedTypeId? with
  | some id => Building.malformed (.invalidField (repeatedFault "type id" id))
  | none => return d

/-- The location of an entry of the document: its name, or its position if it has none. -/
def Domain.location (position : Nat) (data : Json) : String :=
  match data.get? "domain" with
  | some name =>
    if name.isTruthy then name.display else "domains[" ++ toString position ++ "]"
  | none => "domains[" ++ toString position ++ "]"

/-- The domains of a list of entries, the first of which has the given position. -/
def Domain.listOfJson (position : Nat) : List Json → Building (List Domain)
  | [] => .ok []
  | data :: rest => do
    let domain ← Building.located (Domain.location position data) (Domain.ofJson data)
    return domain :: (← Domain.listOfJson (position + 1) rest)

def Schema.ofJson (version : ProtocolVersion) (document : Json) : Building Schema :=
  match document.get? "domains" with
  | some (.array entries) => do
    let schema : Schema := { version := version.name, domains := ← Domain.listOfJson 0 entries }
    match schema.repeatedDomain? with
    | some name => Building.malformed (.invalidField (repeatedFault "domain" name))
    | none => return schema
  | _ => Building.malformed .noDomains

end ProtocolBindings
