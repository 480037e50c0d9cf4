import ProtocolBindings.Text.Lines

/-!
# Descriptions

The protocol describes its parts in free text.  A description is normalised before it is shown:
white space is cut from both ends of the text and from the end of every line, and lines are
separated by line feeds only.
-/

namespace ProtocolBindings.Doc

/-- The normal form of a description. -/
def normalize (cs : List Char) : List Char :=
  Text.joinLines ((Text.splitLines (Text.trim cs)).map Text.trimEnd)

/-- The normal form of a description; the empty text if there is none. -/
def description (text : Option String) : String :=
  match text with
  | none => ""
  | some s => String.ofList (normalize s.toList)

def oneLine (text : String) : String :=
  " ".intercalate ((Text.words text.toList).map String.ofList)

def lines (text : String) : List String :=
  (Text.splitLines text.toList).map String.ofList

/-- Puts `margin` before every line that is not empty. -/
def indent (margin text : String) : String :=
  String.ofList (Text.indent margin.toList text.toList)

end ProtocolBindings.Doc
