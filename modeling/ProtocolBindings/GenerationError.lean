import ProtocolBindings.Validation

/-!
# Generation errors

Everything that ends a run for a reason that lies in the protocol: its file is missing, its
document is malformed, or a reference in it cannot be taken apart.  An error says where it arose.
Nested scopes may each offer a location; the innermost one that is not empty stays.
-/

namespace ProtocolBindings

/-- The ways a protocol document can be malformed. -/
inductive Malformation where
  /-- A description given from outside. -/
  | described (text : String)
  /-- The file does not hold JSON, for the reason given. -/
  | notJson (reason : String)
  /-- The document itself is not an object but a value of that kind. -/
  | rootNotObject (kind : String)
  /-- The document has no list of domains. -/
  | noDomains
  /-- A part of the document is not an object but a value of that kind. -/
  | notAnObject (part kind : String)
  /-- A required text is absent, empty or of another kind. -/
  | noField (key : String)
  /-- A field that should hold a list holds something else. -/
  | notAList (key : String)
  /-- A field of a record does not have the form that the record asks for. -/
  | invalidField (fault : FieldFault)
  | badDomainName (name : String)
  | badTypeId (id : String)
  | badCommandName (name : String)
  /-- Two definitions of one module would have the same name. -/
  | definedTwice (name : String)
deriving DecidableEq, Repr

/-- What is said about a malformed document. -/
def Malformation.message : Malformation → String
  | .described text => text
  | .notJson reason => "Invalid JSON: " ++ reason
  | .rootNotObject kind => "Expected an object at the document root, got " ++ kind
  | .noDomains => "Missing 'domains' list"
  | .notAnObject part kind => "Expected " ++ part ++ " object, got " ++ kind
  | .noField key => "Missing required field '" ++ key ++ "'"
  | .notAList key => "Field '" ++ key ++ "' must be a list"
  | .invalidField fault => fault.message
  | .badDomainName name => "Domain name '" ++ name ++ "' is not a valid module name"
  | .badTypeId id => "Type id '" ++ id ++ "' is not a valid Python identifier"
  | .badCommandName name => "Command name '" ++ name ++ "' is not a valid Python identifier"
  | .definedTwice name => "Generated name '" ++ name ++ "' is defined twice"

namespace GenerationError

/-- Why a run ended. -/
inductive Cause where
  /-- A reason of no particular class. -/
  | general (message : String)
  | schemaNotFound (version path : String)
  | schemaMalformed (malformation : Malformation)
  | unresolvedReference (ref : String)
deriving DecidableEq, Repr

/-- The reason in words, without the location. -/
def Cause.detail : Cause → String
  | .general message => message
  | .schemaNotFound version path =>
    "No protocol schema for version '" ++ version ++ "' at " ++ path
  | .schemaMalformed malformation => malformation.message
  | .unresolvedReference ref => "Cannot resolve reference '" ++ ref ++ "'"

end GenerationError

/-- A reason to end a run, with the place where it arose. -/
structure GenerationError where
  cause : GenerationError.Cause
  location : Option String := none
deriving DecidableEq, Repr

namespace GenerationError

/-- The reason in words, without the location. -/
def detail (e : GenerationError) : String :=
  e.cause.detail

/-- Whether the error has a location that is not empty. -/
def isLocated (e : GenerationError) : Bool :=
  match e.location with
  | none => false
  | some location => location != ""

/-- The text of an error: the location, if there is one that is not empty, and the reason. -/
def message (e : GenerationError) : String :=
  match e.location with
  | none => e.detail
  | some location => if location == "" then e.detail else location ++ ": " ++ e.detail

/-- Offers a location to an error.  One that has a location already keeps it. -/
def within (location : String) (e : GenerationError) : GenerationError :=
  if e.isLocated then e else { e with location := some location }

end GenerationError

def located {α : Type} (location : String) (result : Except GenerationError α) :
    Except GenerationError α :=
  result.mapError (·.within location)

/-- Fails because of a malformed document, with no location yet. -/
def malformed {α : Type} (malformation : Malformation) : Except GenerationError α :=
  .error { cause := .schemaMalformed malformation }

end ProtocolBindings
