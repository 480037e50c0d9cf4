import ProtocolBindings.Validation

/-!
# Reports on records

The text of the faults of a record, each with its place, the datum found there and the address of
a page about faults of its kind.  A long datum is shown by its beginning and its end.
-/

namespace ProtocolBindings

namespace ValidationReport

def shownBytes : Nat := 50

/-- How many bytes are kept at the beginning of a datum that is too long. -/
def headBytes : Nat := 25

/-- How many bytes are kept at the end of a datum that is too long. -/
def tailBytes : Nat := 24

/-- The characters at the front that take up at most a number of bytes. -/
def takeBytes : Nat → List Char → List Char
  | _, [] => []
  | budget, c :: rest =>
    if c.utf8Size ≤ budget then c :: takeBytes (budget - c.utf8Size) rest else []

/-- A datum as it is shown in a report.  One that cannot be shown is named by its kind. -/
def shown (d : Document) : String :=
  let cs :=
    if d.isShowable then d.displayPart else ("<unprintable " ++ d.kindName ++ " object>").toList
  let text := String.ofList cs
  if text.utf8ByteSize ≤ shownBytes then text
  else
    String.ofList (takeBytes headBytes cs) ++ "..." ++
      String.ofList (takeBytes tailBytes cs.reverse).reverse

def stepText : PathStep → String
  | .name field => field
  | .index position => toString position

/-- The host of the pages about faults. -/
def helpHost : String := "errors.pydantic.dev"

/-- The address of the page about a kind of fault. -/
def helpAddress (kind : String) : String :=
  "https:" ++ "//" ++ helpHost ++ "/2.14/v/" ++ kind

/-- The lines about a fault. -/
def faultText (e : FieldError) : String :=
  let place := ".".intercalate (e.place.map stepText)
  let kind := e.fault.kind
  (if e.place.isEmpty then "" else place ++ "\n") ++ "  " ++ e.fault.message ++ " [type=" ++ kind ++
    ", input_value=" ++ shown e.found ++ ", input_type=" ++ e.found.kindName ++
    "]\n    For further information visit " ++ helpAddress kind

end ValidationReport

/-- The text of the faults of a record. -/
def ValidationError.message (e : ValidationError) : String :=
  let count := e.errors.length
  let noun := if count == 1 then " validation error for " else " validation errors for "
  "\n".intercalate
    ((toString count ++ noun ++ e.title) :: e.errors.map ValidationReport.faultText)

end ProtocolBindings
