import ProtocolBindings.Datum.Calendar
import ProtocolBindings.Datum.Display
import ProtocolBindings.Decimal.Arithmetic
import ProtocolBindings.Json.Read
import ProtocolBindings.Text.Digit
import ProtocolBindings.Yaml.Fault
import ProtocolBindings.Yaml.Tag

/-!
# Contents of scalars

The value of a scalar's text for each kind of tag.  A text with the form that belongs to the tag
always has a value, except for numbers without digits and dates that are not in the calendar; a
tag that is written out may stand in front of any text.
-/

namespace ProtocolBindings.Yaml

/-- A value that cannot be read. -/
def unreadable {α : Type} (reason : Unreadable) : Except Failure α :=
  .error (.unreadable reason)

/-! ## Numbers -/

/-- A text without the lines that may stand between digits. -/
def withoutLines (s : String) : List Char :=
  s.toList.filter (· != '_')

def takeSign : List Char → Except Failure (Bool × List Char)
  | [] => unreadable .emptyNumber
  | '-' :: rest => .ok (true, rest)
  | '+' :: rest => .ok (false, rest)
  | cs => .ok (false, cs)

/-- Whether a character is white space of the basic alphabet. -/
def isBasicBlank (c : Char) : Bool :=
  c == ' ' || ('\t' ≤ c && c ≤ '\r')

/-- A character of a number in the basic alphabet: digits and white space of other scripts have a
counterpart there, and a question mark stands for anything else. -/
def basicChar (c : Char) : Char :=
  if c.toNat < 128 then c
  else if Text.isBlank c then ' '
  else
    match Text.digitValue? c with
    | some d => Nat.digitChar d
    | none => '?'

/-- A number in the basic alphabet, without white space around it. -/
def basicNumber (cs : List Char) : List Char :=
  Text.trimWhile isBasicBlank (cs.map basicChar)

def readDigits (base : Nat) (digits : List Char) : Except Failure Nat :=
  if digits.isEmpty then unreadable .number
  else
    digits.foldlM (fun n c =>
      match Text.hexValue? c with
      | some d => if d < base then .ok (base * n + d) else unreadable .number
      | none => unreadable .number) 0

/-- The letter that names a base between a zero and the digits. -/
def baseLetter? : Nat → Option Char
  | 2 => some 'b'
  | 8 => some 'o'
  | 16 => some 'x'
  | _ => none

/-- Cuts the name of a base from the front, if there is one. -/
def dropBase (base : Nat) : List Char → List Char
  | '0' :: c :: rest =>
    if baseLetter? base == some c.toLower then rest else '0' :: c :: rest
  | cs => cs

/-- The integer of digits to a base, which may have a sign, the name of the base and white space
around it.  Only the digits of decimals are limited. -/
def readSigned (base : Nat) (cs : List Char) : Except Failure Int := do
  let cs := basicNumber cs
  let digits := dropBase base (dropSign cs)
  let magnitude ←
    if base == 10 && maxDigits < digits.length then unreadable .number else readDigits base digits
  return if cs.head? == some '-' then -magnitude else magnitude

/-- The integer that a text stands for. -/
def readInteger (s : String) : Except Failure Int := do
  let (negative, cs) ← takeSign (withoutLines s)
  let magnitude ←
    match cs with
    | [] => unreadable .emptyNumber
    | ['0'] => pure 0
    | '0' :: 'b' :: digits => readSigned 2 digits
    | '0' :: 'x' :: digits => readSigned 16 digits
    | '0' :: _ => readSigned 8 cs
    | _ =>
      (Text.pieces (· == ':') cs).foldlM (fun n place => do return 60 * n + (← readSigned 10 place))
        0
  return if negative then -magnitude else magnitude

def readExponent : List Char → Except Failure Int
  | [] => .ok 0
  | e :: rest => do
    let magnitude ← if e == 'e' then readDigits 10 (dropSign rest) else unreadable .number
    return if rest.head? == some '-' then -magnitude else magnitude

/-- The number that a decimal without a sign stands for, in small letters. -/
def readDecimal (negative : Bool) (cs : List Char) : Except Failure Binary64 := do
  let whole := cs.takeWhile Char.isDigit
  let rest := cs.dropWhile Char.isDigit
  let (fraction, rest) :=
    match rest with
    | '.' :: rest => (rest.takeWhile Char.isDigit, rest.dropWhile Char.isDigit)
    | _ => ([], rest)
  let digits ← readDigits 10 (whole ++ fraction)
  let exponent ← readExponent rest
  return .ofDecimal negative digits (exponent - fraction.length)

/-- The number of a text in small letters: a decimal, or a word without a point in front. -/
def readReal (cs : List Char) : Except Failure Binary64 :=
  let cs := basicNumber cs
  let negative := cs.head? == some '-'
  let magnitude := dropSign cs
  let word := String.ofList magnitude
  if word == "inf" || word == "infinity" then .ok (.infinite negative)
  else if word == "nan" then .ok .notANumber
  else readDecimal negative magnitude

/-- The sum of sexagesimal places from the last one on, the first of which counts that power of
sixty. -/
def sumSixties (power : Nat) (sum : Binary64) : List Binary64 → Except Failure Binary64
  | [] => .ok sum
  | place :: rest =>
    match Binary64.ofInt (Nat.pow 60 power) with
    | .infinite _ => unreadable .numberTooLarge
    | weight => sumSixties (power + 1) (sum.add (place.multiply weight)) rest

/-- The number of sexagesimal places. -/
def readSixties (places : List (List Char)) : Except Failure Binary64 := do
  sumSixties 0 (.finite false 0 Binary64.minExponent) (← places.mapM readReal).reverse

/-- Whether a text is the word for what is not a number, with or without a sign. -/
def isNotANumberWord (s : String) : Bool :=
  String.ofList (dropSign ((withoutLines s).map Char.toLower)) == ".nan"

/-- The floating-point number that a text stands for. -/
def readFloat (s : String) : Except Failure Binary64 := do
  let (negative, cs) ← takeSign ((withoutLines s).map Char.toLower)
  let magnitude ←
    if String.ofList cs == ".inf" then pure (Binary64.infinite false)
    else if isNotANumberWord s then pure Binary64.notANumber
    else
      match Text.pieces (· == ':') cs with
      | [_] | [] => readReal cs
      | places => readSixties places
  return if negative then magnitude.negate else magnitude

/-- The truth value that a text stands for. -/
def readBoolean (s : String) : Except Failure Bool :=
  match booleanWords.lookup s.toLower with
  | some b => .ok b
  | none => unreadable .boolean

/-! ## Times -/

/-- The millionths of a second that the digits behind a point stand for; further digits are
dropped. -/
def microseconds (fraction : List Char) : Nat :=
  Json.natOfDigits ((fraction ++ List.replicate 6 '0').take 6)

/-- The distance from universal time in minutes, less than a day. -/
def readOffset : Option (Bool × List Char × List Char) → Except Failure Int
  | none => .ok 0
  | some (negative, hours, minutes) =>
    let distance : Int := 60 * Json.natOfDigits hours + Json.natOfDigits minutes
    if distance < 24 * 60 then .ok (if negative then -distance else distance)
    else unreadable .number

/-- The date or time that a text stands for. -/
def readTimestamp (s : String) : Except Failure Datum := do
  match timeParts? 1 (withoutLineEnd s.toList) with
  | none => unreadable .timestamp
  | some parts =>
    let year := Json.natOfDigits parts.year
    let month := Json.natOfDigits parts.month
    let day := Json.natOfDigits parts.day
    match parts.clock with
    | none =>
      if Calendar.isDate year month day then return .date year month day
      else unreadable .number
    | some (hour, minute, second, fraction) =>
      let hour := Json.natOfDigits hour
      let minute := Json.natOfDigits minute
      let second := Json.natOfDigits second
      let offset ← parts.zone.mapM readOffset
      if Calendar.isDate year month day && hour < 24 && minute < 60 && second < 60 then
        return .timestamp
          { year, month, day, hour, minute, second, microsecond := microseconds fraction, offset }
      else unreadable .number

/-! ## Byte strings -/

def base64Value? (c : Char) : Option Nat :=
  if 'A' ≤ c && c ≤ 'Z' then some (c.toNat - 'A'.toNat)
  else if 'a' ≤ c && c ≤ 'z' then some (c.toNat - 'a'.toNat + 26)
  else if '0' ≤ c && c ≤ '9' then some (c.toNat - '0'.toNat + 52)
  else if c == '+' then some 62
  else if c == '/' then some 63
  else none

/-- The bytes that are complete in a group of at most four digits. -/
def groupBytes : List Nat → List UInt8
  | [a, b, c, d] =>
    [.ofNat (a * 4 + b / 16), .ofNat (b * 16 + c / 4), .ofNat (c * 64 + d)]
  | [a, b, c] => [.ofNat (a * 4 + b / 16), .ofNat (b * 16 + c / 4)]
  | [a, b] => [.ofNat (a * 4 + b / 16)]
  | _ => []

/-- Reads digits to the base 64 in groups of four; characters that are none are passed over.  An
equals sign fills up a group that has at least two digits, and a filled group is the last. -/
def readGroups (group : List Nat) (pads count : Nat) : List Char → Except String (List UInt8)
  | [] =>
    if group.isEmpty then .ok []
    else if group.length == 1 then
      .error ("Invalid base64-encoded string: number of data characters (" ++ toString count ++
        ") cannot be 1 more than a multiple of 4")
    else .error "Incorrect padding"
  | c :: rest =>
    if c == '=' then
      if 2 ≤ group.length then
        if 4 ≤ group.length + pads + 1 then .ok (groupBytes group)
        else readGroups group (pads + 1) count rest
      else readGroups group pads count rest
    else
      match base64Value? c with
      | none => readGroups group pads count rest
      | some d =>
        if group.length == 3 then do
          return groupBytes (group ++ [d]) ++ (← readGroups [] 0 (count + 1) rest)
        else readGroups (group ++ [d]) 0 (count + 1) rest

/-- The problem of a text that holds characters outside the basic alphabet. -/
def outsideBasicAlphabet (cs : List Char) : Option String :=
  let isBasic (c : Char) : Bool := c.toNat < 128
  let before := cs.takeWhile isBasic
  let run := (cs.drop before.length).takeWhile (!isBasic ·)
  let place :=
    match run with
    | [c] =>
      "character '" ++ String.ofList (Datum.charCode c) ++ "' in position " ++
        toString before.length
    | _ =>
      "characters in position " ++ toString before.length ++ "-" ++
        toString (before.length + run.length - 1)
  if run.isEmpty then none
  else some ("'ascii' codec can't encode " ++ place ++ ": ordinal not in range(128)")

/-- The bytes that a text stands for, or the problem with it. -/
def readBytes (s : String) : Except String (List UInt8) :=
  match outsideBasicAlphabet s.toList with
  | some problem => .error ("failed to convert base64 data into ascii: " ++ problem)
  | none => (readGroups [] 0 0 s.toList).mapError ("failed to decode base64 data: " ++ ·)

end ProtocolBindings.Yaml
