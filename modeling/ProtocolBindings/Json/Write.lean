import ProtocolBindings.Decimal.Notation
import ProtocolBindings.Json.Value

/-!
# JSON text

Two layouts of a value: on one line, and with one member or item a line.  The text is plain
ASCII: other characters are written as escapes of their UTF-16 units, in small hexadecimal
digits.
-/

namespace ProtocolBindings.Json

def unitDigits (unit : Nat) : List Char :=
  [Nat.digitChar (unit / 4096 % 16), Nat.digitChar (unit / 256 % 16),
    Nat.digitChar (unit / 16 % 16), Nat.digitChar (unit % 16)]

def unitEscape (unit : Nat) : List Char :=
  '\\' :: 'u' :: unitDigits unit

/-- A character as it stands between the quotes of a JSON string. -/
def escapeChar (c : Char) : List Char :=
  if c == '"' then ['\\', '"']
  else if c == '\\' then ['\\', '\\']
  else if c == '\n' then ['\\', 'n']
  else if c == '\r' then ['\\', 'r']
  else if c == '\t' then ['\\', 't']
  else if c == '\x08' then ['\\', 'b']
  else if c == '\x0c' then ['\\', 'f']
  else if ' ' ≤ c && c ≤ '~' then [c]
  else if c.toNat < 0x10000 then unitEscape c.toNat
  else
    let offset := c.toNat - 0x10000
    unitEscape (0xD800 + offset / 0x400) ++ unitEscape (0xDC00 + offset % 0x400)

def quote (cs : List Char) : List Char :=
  '"' :: (cs.flatMap escapeChar ++ ['"'])

/-- The words of the numbers that have no digits. -/
def specialWords : SpecialWords := ⟨"Infinity", "NaN"⟩

/-- A value that has no parts. -/
def writeScalar : Json → List Char
  | .null => "null".toList
  | .bool true => "true".toList
  | .bool false => "false".toList
  | .integer n => (toString n).toList
  | .float x => (x.text specialWords).toList
  | .string s => quote s.toList
  | .array _ | .object _ => []

mutual

/-- A value on one line, with a blank after every comma and colon. -/
def write : Json → List Char
  | .array items => '[' :: (writeItems items ++ [']'])
  | .object members => '{' :: (writeMembers members ++ ['}'])
  | value => writeScalar value

def writeItems : List Json → List Char
  | [] => []
  | [item] => write item
  | item :: rest => write item ++ ',' :: ' ' :: writeItems rest

def writeMembers : List (String × Json) → List Char
  | [] => []
  | [(name, value)] => quote name.toList ++ ':' :: ' ' :: write value
  | (name, value) :: rest =>
    quote name.toList ++ ':' :: ' ' :: (write value ++ ',' :: ' ' :: writeMembers rest)

end

def newLine (depth : Nat) : List Char :=
  '\n' :: List.replicate (2 * depth) ' '

mutual

/-- A value with every item and member on a line of its own, two blanks further in than the
value that holds it. -/
def writeIndented (depth : Nat) : Json → List Char
  | .array [] => ['[', ']']
  | .array items =>
    '[' :: (newLine (depth + 1) ++ writeIndentedItems (depth + 1) items ++ newLine depth ++ [']'])
  | .object [] => ['{', '}']
  | .object members =>
    '{' :: (newLine (depth + 1) ++ writeIndentedMembers (depth + 1) members ++ newLine depth ++
      ['}'])
  | value => writeScalar value

def writeIndentedItems (depth : Nat) : List Json → List Char
  | [] => []
  | [item] => writeIndented depth item
  | item :: rest =>
    writeIndented depth item ++ ',' :: (newLine depth ++ writeIndentedItems depth rest)

def writeIndentedMembers (depth : Nat) : List (String × Json) → List Char
  | [] => []
  | [(name, value)] => quote name.toList ++ ':' :: ' ' :: writeIndented depth value
  | (name, value) :: rest =>
    quote name.toList ++ ':' :: ' ' ::
      (writeIndented depth value ++ ',' :: (newLine depth ++ writeIndentedMembers depth rest))

end

def toText (value : Json) : String :=
  String.ofList value.write

/-- The text of a value with one item or member a line. -/
def toIndentedText (value : Json) : String :=
  String.ofList (value.writeIndented 0)

end ProtocolBindings.Json
