import ProtocolBindings.Datum.Display

/-!
# Validating records

A record is read from a data document field by field.  All fields are looked at, and every fault
is reported with its place and the datum found there, in the order in which the record declares
its fields.
-/

namespace ProtocolBindings

/-- What is wrong with the datum of a field. -/
inductive FieldFault where
  | missing
  | notText
  | notTextBytes
  | notList
  | notRecord (model : String)
  | notBoolean
  | unreadableBoolean
  | notAmong (choices : List String)
  | rejected (reason : String)
deriving DecidableEq, Repr

namespace FieldFault

/-- The choices in quotes, with commas and a last `or` between them. -/
def listChoices : List String → String
  | [] => ""
  | [a] => "'" ++ a ++ "'"
  | [a, b] => "'" ++ a ++ "' or '" ++ b ++ "'"
  | a :: rest => "'" ++ a ++ "', " ++ listChoices rest

/-- What a fault is called in a report. -/
def kind : FieldFault → String
  | .missing => "missing"
  | .notText => "string_type"
  | .notTextBytes => "string_unicode"
  | .notList => "list_type"
  | .notRecord _ => "model_type"
  | .notBoolean => "bool_type"
  | .unreadableBoolean => "bool_parsing"
  | .notAmong _ => "enum"
  | .rejected _ => "value_error"

def message : FieldFault → String
  | .missing => "Field required"
  | .notText => "Input should be a valid string"
  | .notTextBytes =>
    "Input should be a valid string, unable to parse raw data as a unicode string"
  | .notList => "Input should be a valid list"
  | .notRecord model => "Input should be a valid dictionary or instance of " ++ model
  | .notBoolean => "Input should be a valid boolean"
  | .unreadableBoolean => "Input should be a valid boolean, unable to interpret input"
  | .notAmong choices => "Input should be " ++ listChoices choices
  | .rejected reason => "Value error, " ++ reason

end FieldFault

/-- One step on the way to a field. -/
inductive PathStep where
  | name (field : String)
  | index (position : Nat)
deriving DecidableEq, Repr

/-- A fault with its place and the datum found there. -/
structure FieldError where
  fault : FieldFault
  place : List PathStep
  found : Document
deriving Repr

/-- The faults of one record. -/
structure ValidationError where
  title : String
  errors : List FieldError
deriving Repr

/-- A value, or the faults for which there is none. -/
inductive Validated (α : Type) where
  | valid (value : α)
  | invalid (errors : List FieldError)
deriving Repr

namespace Validated

/-- Applies a function to the value. -/
def map {α β : Type} (f : α → β) : Validated α → Validated β
  | .valid a => .valid (f a)
  | .invalid errors => .invalid errors

/-- Applies a validated function to a validated value, collecting the faults of both. -/
def apply {α β : Type} : Validated (α → β) → Validated α → Validated β
  | .valid f, .valid a => .valid (f a)
  | .valid _, .invalid errors => .invalid errors
  | .invalid errors, .valid _ => .invalid errors
  | .invalid errors, .invalid more => .invalid (errors ++ more)

instance : Applicative Validated where
  pure := .valid
  map := map
  seq f a := apply f (a ())

/-- A single fault, at the place itself. -/
def fail {α : Type} (fault : FieldFault) (found : Document) : Validated α :=
  .invalid [⟨fault, [], found⟩]

/-- Moves the places of all faults one step further out. -/
def under {α : Type} (step : PathStep) : Validated α → Validated α
  | .valid a => .valid a
  | .invalid errors => .invalid (errors.map fun e => { e with place := step :: e.place })

/-- Validates every item of a list, from the given position on. -/
def items {α : Type} (validate : Document → Validated α) (position : Nat) :
    List Document → Validated (List α)
  | [] => .valid []
  | d :: rest =>
    apply (map List.cons ((validate d).under (.index position)))
      (items validate (position + 1) rest)

/-- A further condition on a value, looked at only if there is one. -/
def check {α β : Type} (v : Validated α) (f : α → Validated β) : Validated β :=
  match v with
  | .valid a => f a
  | .invalid errors => .invalid errors

/-- The value, or the report on the record of that title. -/
def toExcept {α : Type} (title : String) : Validated α → Except ValidationError α
  | .valid a => .ok a
  | .invalid errors => .error ⟨title, errors⟩

end Validated

namespace Document

/-- A text; bytes are taken for the text they encode. -/
def asText (d : Document) : Validated String :=
  match d.datum with
  | .text s => .valid s
  | .bytes b =>
    match String.fromUTF8? ⟨b.toArray⟩ with
    | some s => .valid s
    | none => .fail .notTextBytes d
  | _ => .fail .notText d

def asOptionalText (d : Document) : Validated (Option String) :=
  match d.datum with
  | .null => .valid none
  | _ => d.asText.map some

/-- The words that stand for a truth value, in small letters. -/
def booleanWord? : String → Option Bool
  | "1" | "t" | "true" | "y" | "yes" | "on" => some true
  | "0" | "f" | "false" | "n" | "no" | "off" => some false
  | _ => none

/-- Small letters for the capitals of the basic alphabet. -/
def basicLower (s : String) : String :=
  s.map Char.toLower

/-- The truth value of an integer: only zero and one have one. -/
def ofBit (found : Document) (n : Int) : Validated Bool :=
  if n == 0 then .valid false
  else if n == 1 then .valid true
  else .fail .unreadableBoolean found

/-- Whether an integer fits into a signed word of 64 bits. -/
def fitsWord (n : Int) : Bool :=
  -9223372036854775808 ≤ n && n ≤ 9223372036854775807

/-- A truth value: one itself, zero or one as a number, or one of the words for it. -/
def asBoolean (d : Document) : Validated Bool :=
  let ofWord (s : String) : Validated Bool :=
    match booleanWord? (basicLower s) with
    | some b => .valid b
    | none => .fail .unreadableBoolean d
  match d.datum with
  | .boolean b => .valid b
  | .text s => ofWord s
  | .bytes b =>
    match String.fromUTF8? ⟨b.toArray⟩ with
    | some s => ofWord s
    | none => .fail .unreadableBoolean d
  | .integer n => if fitsWord n then ofBit d n else .fail .notBoolean d
  | .float x =>
    match x.toInt? with
    | some n => if fitsWord n then ofBit d n else .fail .notBoolean d
    | none => .fail .notBoolean d
  | _ => .fail .notBoolean d

/-- A list with its items validated; a set or a pair counts as one. -/
def asList {α : Type} (validate : Document → Validated α) (d : Document) :
    Validated (List α) :=
  match d.items? with
  | some items => Validated.items validate 0 items
  | none => .fail .notList d

def asRecord (model : String) (d : Document) : Validated Document :=
  match d.content with
  | .mapping _ => .valid d
  | _ => .fail (.notRecord model) d

end Document

def requiredField {α : Type} (record : Document) (name : String)
    (validate : Document → Validated α) : Validated α :=
  match record.field? name with
  | some d => (validate d).under (.name name)
  | none => .invalid [⟨.missing, [.name name], record⟩]

/-- A field with a value for its absence. -/
def optionalField {α : Type} (record : Document) (name : String) (default : α)
    (validate : Document → Validated α) : Validated α :=
  match record.field? name with
  | some d => (validate d).under (.name name)
  | none => .valid default

namespace ValidationError

end ValidationError

end ProtocolBindings
