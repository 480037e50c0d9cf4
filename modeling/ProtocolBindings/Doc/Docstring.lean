import ProtocolBindings.Doc.Description

/-!
# Docstrings

Documentation is written into the generated code between triple quotes.  Backslashes are doubled,
three quotes in a row are escaped, and so is a quote at the very end, where it would run into the
closing ones.
-/

namespace ProtocolBindings.Doc

def doubleBackslashes (cs : List Char) : List Char :=
  cs.flatMap fun c => if c == '\\' then ['\\', '\\'] else [c]

def escapeFinalQuote (cs : List Char) : List Char :=
  if cs.getLast? == some '"' then cs.dropLast ++ ['\\', '"'] else cs

/-- Escapes three quotes in a row, from the left. -/
def escapeTripleQuotes : List Char → List Char
  | '"' :: '"' :: '"' :: rest =>
    '\\' :: '"' :: '\\' :: '"' :: '\\' :: '"' :: escapeTripleQuotes rest
  | c :: rest => c :: escapeTripleQuotes rest
  | [] => []

/-- The characters of a text as they stand between triple quotes. -/
def escapeChars (cs : List Char) : List Char :=
  escapeTripleQuotes (escapeFinalQuote (doubleBackslashes cs))

/-- A text as it stands between triple quotes. -/
def escape (text : String) : String :=
  String.ofList (escapeChars text.toList)

def tripleQuote : String := "\"\"\""

/-- The docstring of a function: on one line if the text has no line feed, and otherwise with
its lines indented and the closing quotes on a line of their own. -/
def functionDocstring (text : String) : String :=
  let body := escape text
  if body.toList.contains '\n' then
    "    " ++ tripleQuote ++
      String.ofList (Text.trimStart (Text.indent "    ".toList body.toList)) ++
      "\n    " ++ tripleQuote
  else "    " ++ tripleQuote ++ body ++ tripleQuote

end ProtocolBindings.Doc
