import ProtocolBindings.Json.Value

/-!
# Data of a document

The values that a data document can hold: those of JSON, and the further kinds of a YAML
document (byte strings, dates, sets, pairs, keys of any kind).  A collection can stand in several
places of a document, also inside itself; such a place holds the collection's number, and the
document lists the collections.
-/

namespace ProtocolBindings

/-- A calendar date with a time of day. -/
structure Timestamp where
  year : Nat
  month : Nat
  day : Nat
  hour : Nat
  minute : Nat
  second : Nat
  microsecond : Nat
  /-- The distance from universal time in minutes, if there is one. -/
  offset : Option Int
deriving DecidableEq, Repr, Inhabited

/-- A value of a data document. -/
inductive Datum where
  | null
  | boolean (value : Bool)
  | integer (value : Int)
  | float (value : Binary64)
  | text (value : String)
  | bytes (value : List UInt8)
  | date (year month day : Nat)
  | timestamp (value : Timestamp)
  | list (items : List Datum)
  | mapping (entries : List (Datum × Datum))
  | set (items : List Datum)
  | pair (first second : Datum)
  /-- The collection of that number in the document. -/
  | shared (number : Nat)
deriving Inhabited, Repr

namespace Datum

mutual

def ofJson : Json → Datum
  | .null => .null
  | .bool b => .boolean b
  | .integer n => .integer n
  | .float x => .float x
  | .string s => .text s
  | .array items => .list (ofJsonItems items)
  | .object members => .mapping (ofJsonMembers members)

/-- The items of an array as data. -/
def ofJsonItems : List Json → List Datum
  | [] => []
  | item :: rest => ofJson item :: ofJsonItems rest

/-- The members of an object as entries. -/
def ofJsonMembers : List (String × Json) → List (Datum × Datum)
  | [] => []
  | (name, value) :: rest => (.text name, ofJson value) :: ofJsonMembers rest

end

/-- The value of the entry with that text as its key. -/
def lookupText (name : String) : List (Datum × Datum) → Option Datum
  | [] => none
  | (.text key, value) :: rest => if key == name then some value else lookupText name rest
  | _ :: rest => lookupText name rest

def kindName : Datum → String
  | .null => "NoneType"
  | .boolean _ => "bool"
  | .integer _ => "int"
  | .float _ => "float"
  | .text _ => "str"
  | .bytes _ => "bytes"
  | .date .. => "date"
  | .timestamp _ => "datetime"
  | .list _ => "list"
  | .mapping _ => "dict"
  | .set _ => "set"
  | .pair .. => "tuple"
  | .shared _ => "object"

end Datum

/-- A datum of a document, together with the numbered collections of the document. -/
structure Document where
  datum : Datum
  collections : Array Datum := #[]
deriving Inhabited, Repr

namespace Document

def ofJson (value : Json) : Document :=
  { datum := .ofJson value }

def part (d : Document) (datum : Datum) : Document :=
  { d with datum }

/-- The datum itself: in place of a number, the collection of that number. -/
def content (d : Document) : Datum :=
  match d.datum with
  | .shared number => d.collections.getD number .null
  | datum => datum

def kindName (d : Document) : String :=
  d.content.kindName

/-- The value of the entry with that text as its key, if the datum is a mapping with one. -/
def field? (d : Document) (name : String) : Option Document :=
  match d.content with
  | .mapping entries => (Datum.lookupText name entries).map d.part
  | _ => none

/-- The items of a list; a set or a pair counts as one. -/
def items? (d : Document) : Option (List Document) :=
  match d.content with
  | .list items | .set items => some (items.map d.part)
  | .pair first second => some [d.part first, d.part second]
  | _ => none

end Document

end ProtocolBindings
