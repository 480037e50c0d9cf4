import ProtocolBindings.Entries
import ProtocolBindings.Host
import ProtocolBindings.Json.Value
import ProtocolBindings.Text.Digit

/-!
# Reading JSON

The reader accepts the grammar of RFC 8259 and the words `NaN`, `Infinity` and `-Infinity`.  It
reports the first fault with the place where it was found.  While reading, places are counted by
the characters that are left, so that no position has to be carried along.

The recursion is bounded by fuel.  Every value, item and member takes up at least one character,
so one unit more than there are characters is always enough.  Apart from that, arrays and objects
may lie inside one another only as deep as the host lets them, and integers have a limited number
of digits.  A text that names half a pair of 16-bit units is refused when everything else in it is
in order.
-/

namespace ProtocolBindings.Json

open Text (hexValue?)

/-- What a text that is not JSON lacks or holds too much. -/
inductive Problem where
  | expectingValue
  | expectingName
  | expectingColon
  | expectingComma
  | extraData
  | unterminatedString
  | controlCharacter
  | unknownEscape
  | brokenUnitEscape
  | byteOrderMark
  /-- The text is beyond a limit of the reader. -/
  | beyond (limit : Limit)
deriving DecidableEq, Repr

/-- A problem and the number of characters from its place to the end of the text. -/
structure Fault where
  problem : Problem
  remaining : Nat
deriving DecidableEq, Repr

/-- What was read and the characters behind it. -/
abbrev Reading (α : Type) := Except Fault (α × List Char)

/-- A fault in front of the given characters. -/
def faultAt {α : Type} (problem : Problem) (rest : List Char) : Except Fault α :=
  .error ⟨problem, rest.length⟩

def isSpace (c : Char) : Bool :=
  c == ' ' || c == '\t' || c == '\n' || c == '\r'

/-- The characters behind leading white space. -/
def skipSpace (cs : List Char) : List Char :=
  cs.dropWhile isSpace

/-- The UTF-16 unit of four hexadecimal digits. -/
def unit? (a b c d : Char) : Option Nat := do
  return (((← hexValue? a) * 16 + (← hexValue? b)) * 16 + (← hexValue? c)) * 16 + (← hexValue? d)

/-- The character of a one-letter escape. -/
def escaped? : Char → Option Char
  | '"' => some '"'
  | '\\' => some '\\'
  | '/' => some '/'
  | 'b' => some '\x08'
  | 'f' => some '\x0c'
  | 'n' => some '\n'
  | 'r' => some '\r'
  | 't' => some '\t'
  | _ => none

/-- Whether a UTF-16 unit is the first of a pair. -/
def isLeadingUnit (unit : Nat) : Bool :=
  0xD800 ≤ unit && unit ≤ 0xDBFF

/-- Whether a UTF-16 unit is the second of a pair. -/
def isTrailingUnit (unit : Nat) : Bool :=
  0xDC00 ≤ unit && unit ≤ 0xDFFF

/-- The character of a UTF-16 unit that stands alone.  Half a pair has none; a text that names one
is refused in the end, whatever stands for it until then. -/
def charOfUnit (unit : Nat) : Char :=
  if isLeadingUnit unit || isTrailingUnit unit then '\uFFFD' else Char.ofNat unit

/-- The character of a pair of UTF-16 units. -/
def charOfPair (leading trailing : Nat) : Char :=
  Char.ofNat (0x10000 + (leading - 0xD800) * 0x400 + (trailing - 0xDC00))

/-- Reads the escape behind a backslash: its character, and how many characters it takes up.  A
unit escape needs a character behind its digits.  When the first unit of a pair is followed by
the escape of a second one, both together are one character. -/
def readEscape (start : Nat) : List Char → Except Fault (Char × Nat)
  | [] => .error ⟨.unterminatedString, start⟩
  | 'u' :: a :: b :: c :: d :: next :: rest =>
    match unit? a b c d with
    | none => .error ⟨.brokenUnitEscape, rest.length + 6⟩
    | some unit =>
      let alone : Except Fault (Char × Nat) := .ok (charOfUnit unit, 5)
      match next, rest with
      | '\\', 'u' :: e :: f :: g :: h :: _ :: _ =>
        match unit? e f g h with
        | none => alone
        | some second =>
          if isLeadingUnit unit && isTrailingUnit second then .ok (charOfPair unit second, 11)
          else alone
      | _, _ => alone
  | 'u' :: rest => .error ⟨.brokenUnitEscape, rest.length + 1⟩
  | c :: rest =>
    match escaped? c with
    | some value => .ok (value, 1)
    | none => .error ⟨.unknownEscape, rest.length + 2⟩

/-- Reads the rest of a string after passing over `skip` characters.  The characters read so far
are held in reverse, and `start` counts the characters from the opening quote to the end of the
text. -/
def readString (start : Nat) : Nat → List Char → List Char → Reading String
  | _, _, [] => .error ⟨.unterminatedString, start⟩
  | skip + 1, done, _ :: rest => readString start skip done rest
  | 0, done, c :: rest =>
    if c == '"' then .ok (String.ofList done.reverse, rest)
    else if c == '\\' then
      match readEscape start rest with
      | .ok (value, used) => readString start used (value :: done) rest
      | .error fault => .error fault
    else if c < ' ' then .error ⟨.controlCharacter, rest.length + 1⟩
    else readString start 0 (c :: done) rest

/-- The number of a sequence of decimal digits. -/
def natOfDigits (digits : List Char) : Nat :=
  digits.foldl (fun n c => n * 10 + (c.toNat - 48)) 0

/-- The digits at the front of a text and what follows them. -/
def spanDigits (cs : List Char) : List Char × List Char :=
  cs.span fun c => '0' ≤ c && c ≤ '9'

/-- The digits behind a point, if a point with a digit behind it comes first. -/
def readFraction (cs : List Char) : List Char × List Char :=
  match cs with
  | '.' :: rest =>
    match spanDigits rest with
    | ([], _) => ([], cs)
    | (digits, rest) => (digits, rest)
  | _ => ([], cs)

/-- The exponent, if a complete one comes first. -/
def readExponent (cs : List Char) : Option (Int × List Char) :=
  let behindMark (rest : List Char) : Option (Int × List Char) :=
    let (negative, rest) :=
      match rest with
      | '-' :: rest => (true, rest)
      | '+' :: rest => (false, rest)
      | _ => (false, rest)
    match spanDigits rest with
    | ([], _) => none
    | (digits, rest) =>
      let n : Int := natOfDigits digits
      some (if negative then -n else n, rest)
  match cs with
  | 'e' :: rest | 'E' :: rest => behindMark rest
  | _ => none

/-- The integer part of a number: a zero alone, or digits of which the first is not zero. -/
def readWhole (cs : List Char) : Option (List Char × List Char) :=
  match cs with
  | '0' :: rest => some (['0'], rest)
  | _ =>
    match spanDigits cs with
    | ([], _) => none
    | (digits, rest) => some (digits, rest)

/-- Reads a number.  One with a fraction or an exponent is a floating-point number; only the digits
of an integer are limited. -/
def readNumber (cs : List Char) : Reading Json :=
  let (negative, unsigned) :=
    match cs with
    | '-' :: rest => (true, rest)
    | _ => (false, cs)
  match readWhole unsigned with
  | none => faultAt .expectingValue cs
  | some (whole, rest) =>
    let (fraction, rest) := readFraction rest
    match readExponent rest with
    | some (exponent, rest) =>
      .ok (.float (.ofDecimal negative (natOfDigits (whole ++ fraction))
        (exponent - fraction.length)), rest)
    | none =>
      if fraction.isEmpty then
        if maxDigits < whole.length then faultAt (.beyond .digits) cs
        else
          let n : Int := natOfDigits whole
          .ok (.integer (if negative then -n else n), rest)
      else
        .ok (.float (.ofDecimal negative (natOfDigits (whole ++ fraction))
          (-(fraction.length : Int))), rest)

mutual

/-- Reads a value at the front of the text, where up to `depth` more arrays and objects may lie
inside one another. -/
def readValue : Nat → Nat → List Char → Reading Json
  | 0, _, cs => faultAt .expectingValue cs
  | fuel + 1, depth, cs =>
    match cs, depth with
    | '"' :: rest, _ =>
      match readString cs.length 0 [] rest with
      | .ok (s, rest) => .ok (.string s, rest)
      | .error fault => .error fault
    | '{' :: _, 0 | '[' :: _, 0 => faultAt (.beyond .depth) cs
    | '{' :: rest, depth + 1 =>
      match skipSpace rest with
      | '}' :: rest => .ok (.object [], rest)
      | rest =>
        match readMembers fuel depth [] rest with
        | .ok (members, rest) => .ok (.object members, rest)
        | .error fault => .error fault
    | '[' :: rest, depth + 1 =>
      match skipSpace rest with
      | ']' :: rest => .ok (.array [], rest)
      | rest =>
        match readItems fuel depth [] rest with
        | .ok (items, rest) => .ok (.array items, rest)
        | .error fault => .error fault
    | 'n' :: 'u' :: 'l' :: 'l' :: rest, _ => .ok (.null, rest)
    | 't' :: 'r' :: 'u' :: 'e' :: rest, _ => .ok (.bool true, rest)
    | 'f' :: 'a' :: 'l' :: 's' :: 'e' :: rest, _ => .ok (.bool false, rest)
    | 'N' :: 'a' :: 'N' :: rest, _ => .ok (.float .notANumber, rest)
    | 'I' :: 'n' :: 'f' :: 'i' :: 'n' :: 'i' :: 't' :: 'y' :: rest, _ =>
      .ok (.float (.infinite false), rest)
    | '-' :: 'I' :: 'n' :: 'f' :: 'i' :: 'n' :: 'i' :: 't' :: 'y' :: rest, _ =>
      .ok (.float (.infinite true), rest)
    | _, _ => readNumber cs

/-- Reads the items of an array up to its closing bracket; `done` holds those before them, in
reverse. -/
def readItems : Nat → Nat → List Json → List Char → Reading (List Json)
  | 0, _, _, cs => faultAt .expectingValue cs
  | fuel + 1, depth, done, cs =>
    match readValue fuel depth cs with
    | .error fault => .error fault
    | .ok (item, rest) =>
      match skipSpace rest with
      | ']' :: rest => .ok ((item :: done).reverse, rest)
      | ',' :: rest => readItems fuel depth (item :: done) (skipSpace rest)
      | rest => faultAt .expectingComma rest

/-- Reads the members of an object up to its closing brace; `done` holds those before them. -/
def readMembers : Nat → Nat → List (String × Json) → List Char → Reading (List (String × Json))
  | 0, _, _, cs => faultAt .expectingName cs
  | fuel + 1, depth, done, cs =>
    match cs with
    | '"' :: rest =>
      match readString cs.length 0 [] rest with
      | .error fault => .error fault
      | .ok (name, rest) =>
        match skipSpace rest with
        | ':' :: rest =>
          match readValue fuel depth (skipSpace rest) with
          | .error fault => .error fault
          | .ok (value, rest) =>
            let done := Entries.set name value done
            match skipSpace rest with
            | '}' :: rest => .ok (done, rest)
            | ',' :: rest => readMembers fuel depth done (skipSpace rest)
            | rest => faultAt .expectingComma rest
        | rest => faultAt .expectingColon rest
    | _ => faultAt .expectingName cs

end

/-- The UTF-16 unit that is named behind a backslash. -/
def namedUnit? : List Char → Option Nat
  | 'u' :: a :: b :: c :: d :: _ => unit? a b c d
  | _ => none

/-- The UTF-16 unit that is named by an escape at the front of a text. -/
def escapedUnit? : List Char → Option Nat
  | '\\' :: rest => namedUnit? rest
  | _ => none

/-- Whether a text names half a pair of UTF-16 units without the other half, after passing over
`skip` characters. -/
def holdsHalfPair : Nat → List Char → Bool
  | _, [] => false
  | skip + 1, _ :: rest => holdsHalfPair skip rest
  | 0, c :: rest =>
    if c == '\\' then
      match namedUnit? rest, escapedUnit? (rest.drop 5) with
      | some first, some second =>
        if isLeadingUnit first && isTrailingUnit second then holdsHalfPair 11 rest
        else isLeadingUnit first || isTrailingUnit first || holdsHalfPair 1 rest
      | some unit, none => isLeadingUnit unit || isTrailingUnit unit || holdsHalfPair 1 rest
      | none, _ => holdsHalfPair 1 rest
    else holdsHalfPair 0 rest

variable [Host]

/-- Reads a whole text. -/
def parse (cs : List Char) : Except Fault Json :=
  match cs with
  | '\uFEFF' :: _ => faultAt .byteOrderMark cs
  | _ =>
    match readValue (cs.length + 1) Host.jsonDepth (skipSpace cs) with
    | .error fault => .error fault
    | .ok (value, rest) =>
      match skipSpace rest with
      | [] => if holdsHalfPair 0 cs then faultAt (.beyond .pairs) cs else .ok value
      | rest => faultAt .extraData rest

def Fault.limit? (fault : Fault) : Option Limit :=
  match fault.problem with
  | .beyond limit => some limit
  | _ => none

def Problem.message : Problem → String
  | .expectingValue => "Expecting value"
  | .expectingName => "Expecting property name enclosed in double quotes"
  | .expectingColon => "Expecting ':' delimiter"
  | .expectingComma => "Expecting ',' delimiter"
  | .extraData => "Extra data"
  | .unterminatedString => "Unterminated string starting at"
  | .controlCharacter => "Invalid control character at"
  | .unknownEscape => "Invalid \\escape"
  | .brokenUnitEscape => "Invalid \\uXXXX escape"
  | .byteOrderMark => "Unexpected UTF-8 BOM (decode using utf-8-sig)"
  | .beyond limit => limit.message

/-- The text of a fault in `cs`: the problem with its line and column, counted from one, and the
number of characters before it. -/
def Fault.message (cs : List Char) (fault : Fault) : String :=
  let position := cs.length - fault.remaining
  let before := cs.take position
  let line := before.count '\n' + 1
  let column := (before.reverse.takeWhile (· != '\n')).length + 1
  fault.problem.message ++ ": line " ++ toString line ++ " column " ++ toString column ++
    " (char " ++ toString position ++ ")"

end ProtocolBindings.Json
