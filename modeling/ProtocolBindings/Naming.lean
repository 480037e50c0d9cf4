import ProtocolBindings.Text.Alphanumeric
import ProtocolBindings.Text.Blank
import ProtocolBindings.Text.Lowercase

/-!
# Names of generated definitions

The protocol writes its identifiers in mixed case (`FrameId`, `getDOMCounters`); the generated
names are words joined by low lines.  Type names carry a mark in front, so that they differ from
functions and from the names of the language.
-/

namespace ProtocolBindings.Naming

open Text (isBasicUpper isBasicLower isBasicDigit)

/-- Turns a final `ID` into a word of its own. -/
def splitFinalId (cs : List Char) : List Char :=
  match cs.reverse with
  | 'D' :: 'I' :: stem => stem.reverse ++ ['_', 'i', 'd']
  | _ => cs

/-- Walks over the characters with the run of capitals just read, nearest first.  When a small
letter ends a run of two or more, a low line goes before the last capital of the run. -/
def splitAcronymsFrom (run : List Char) : List Char → List Char
  | [] => run.reverse
  | c :: rest =>
    if isBasicUpper c then splitAcronymsFrom (c :: run) rest
    else
      match run with
      | last :: before :: others =>
        if isBasicLower c then
          (before :: others).reverse ++ '_' :: last :: c :: splitAcronymsFrom [] rest
        else run.reverse ++ c :: splitAcronymsFrom [] rest
      | _ => run.reverse ++ c :: splitAcronymsFrom [] rest

/-- Separates a run of capitals from the capitalised word behind it. -/
def splitAcronyms (cs : List Char) : List Char :=
  splitAcronymsFrom [] cs

/-- Puts a low line between a small letter or digit and the capital behind it. -/
def splitWords : List Char → List Char
  | [] => []
  | [c] => [c]
  | a :: b :: rest =>
    if (isBasicLower a || isBasicDigit a) && isBasicUpper b then a :: '_' :: b :: splitWords rest
    else a :: splitWords (b :: rest)

/-- Turns hyphens into low lines. -/
def replaceHyphens (cs : List Char) : List Char :=
  cs.map fun c => if c == '-' then '_' else c

/-- Turns every run of low lines into a single one. -/
def mergeLowLines : List Char → List Char
  | [] => []
  | c :: rest =>
    if c == '_' && rest.head? == some '_' then mergeLowLines rest else c :: mergeLowLines rest

/-- Joins the words of an identifier by low lines, in small letters. -/
def underscoreChars (cs : List Char) : List Char :=
  Text.lowerChars (Text.trimWhile (· == '_')
    (mergeLowLines (replaceHyphens (splitWords (splitAcronyms (splitFinalId cs))))))

/-- Joins the words of an identifier by low lines, in small letters: `FrameId` and `FrameID` both
become `frame_id`, and `getDOMCounters` becomes `get_dom_counters`. -/
def underscore (name : String) : String :=
  String.ofList (underscoreChars name.toList)

def typeMark : String := "cdp_"

def typeName (typeId : String) : String :=
  typeMark ++ underscore typeId

/-- The words that the generated language keeps for itself. -/
def keywords : List String :=
  ["False", "None", "True", "and", "as", "assert", "async", "await", "break", "class", "continue",
    "def", "del", "elif", "else", "except", "finally", "for", "from", "global", "if", "import",
    "in", "is", "lambda", "nonlocal", "not", "or", "pass", "raise", "return", "try", "while",
    "with", "yield"]

/-- The names that every generated module defines or imports itself. -/
def reservedNames : List String :=
  ["annotations", "experimental", "overload", "Any", "TYPE_CHECKING", "TypeAlias", "TypedDict"]

/-- The name of the function of a command; one that is already taken gets a low line behind. -/
def functionName (command : String) : String :=
  let name := underscore command
  if keywords.contains name || reservedNames.contains name then name ++ "_" else name

/-- The name of the record of a command's return values. -/
def resultName (command : String) : String :=
  underscore command ++ "_result"

/-- The name of a domain's module.  The case of the protocol is kept, so that a qualified type
name reads `Page.cdp_frame_id`. -/
def moduleName (domain : String) : String :=
  domain

end ProtocolBindings.Naming
