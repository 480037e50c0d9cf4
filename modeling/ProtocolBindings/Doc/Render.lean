import ProtocolBindings.Doc.Description
import ProtocolBindings.Schema.Basic

/-!
# Documentation of a schema

The documentation of domains, types and commands as plain text.  A part that is missing is left
out; sections are separated by an empty line.
-/

namespace ProtocolBindings.Doc

/-- Stands in for the listing of a command without parameters. -/
def noParameters : String := "No parameters."

/-- Stands in for the listing of a command without return values. -/
def noReturnValue : String := "No return value."

/-- One line on a property: its name, its type and its description. -/
def property (p : Property) : String :=
  let words := oneLine (description p.description)
  let words :=
    if p.optional then (if words == "" then "(optional)" else "(optional) " ++ words) else words
  let head := p.name ++ " - <" ++ p.typeRef.label ++ ">"
  if words == "" then head else head ++ " - " ++ words

def listing (title : String) (properties : List Property) (empty : String) : String :=
  if properties.isEmpty then title ++ ":\n    " ++ empty
  else title ++ ":\n" ++ "\n".intercalate (properties.map fun p => "    " ++ property p)

/-- The notes on the status of a part, one a line. -/
def statusNotes (part : String) (experimental deprecated : Bool) : List String :=
  (if experimental then ["Experimental: This " ++ part ++ " is experimental."] else []) ++
    (if deprecated then ["Deprecated: This " ++ part ++ " is deprecated."] else [])

/-- The notes on the status of a part as a section, if there are any. -/
def statusSection (part : String) (experimental deprecated : Bool) : List String :=
  match statusNotes part experimental deprecated with
  | [] => []
  | notes => ["\n".intercalate notes]

def descriptionSection (text : Option String) : List String :=
  let s := description text
  if s == "" then [] else [s]

def command (c : Command) : String :=
  "\n\n".intercalate
    (descriptionSection c.description ++
      [listing "Parameters" c.parameters noParameters, listing "Returns" c.returns noReturnValue] ++
      statusSection "command" c.experimental c.deprecated)

/-- The documentation of a domain, with the version of the protocol it was taken from. -/
def domain (d : Domain) (version : String) : String :=
  let head := description d.description
  "\n\n".intercalate
    ([if head == "" then d.name ++ " domain." else head] ++
      statusSection "domain" d.experimental d.deprecated ++
      ["Generated from Chrome DevTools Protocol version '" ++ version ++ "'. Do not edit."])

/-- The note on the values a text may have, if some are listed. -/
def allowedSection (allowed : Option (List String)) : List String :=
  match allowed with
  | none | some [] => []
  | some values =>
    ["Allowed values: " ++ ", ".intercalate (values.map fun v => "\"" ++ v ++ "\"") ++ "."]

def typeParagraphs (t : TypeDef) : List String :=
  descriptionSection t.description ++ allowedSection t.allowed ++
    statusSection "type" t.experimental t.deprecated

/-- A line of text as a comment in front of a declaration. -/
def commentLine (line : String) : String :=
  if line == "" then "#:" else "#: " ++ line

/-- Adds a paragraph to comment lines, behind an empty comment unless it is the first. -/
def appendParagraph (comment : List String) (paragraph : String) : List String :=
  (if comment.isEmpty then [] else comment ++ ["#:"]) ++ (lines paragraph).map commentLine

/-- The comment lines in front of the declaration of a type. -/
def typeComment (t : TypeDef) : List String :=
  (typeParagraphs t).foldl appendParagraph []

end ProtocolBindings.Doc
