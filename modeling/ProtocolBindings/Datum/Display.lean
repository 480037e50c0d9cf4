import ProtocolBindings.Datum.Basic
import ProtocolBindings.Decimal.Notation
import ProtocolBindings.Host
import ProtocolBindings.Text.Printable

/-!
# Displayed data

The text a datum is shown as in a message.  A text is shown as it is when it stands alone and in
quotes when it is part of something else.  Single quotes are used unless the text holds some and
no double quotes; characters without a printed form are shown by their code.
-/

namespace ProtocolBindings.Datum

/-- The last `count` hexadecimal digits of a number, in small letters. -/
def hexDigits : Nat → Nat → List Char
  | 0, _ => []
  | count + 1, n => hexDigits count (n / 16) ++ [Nat.digitChar (n % 16)]

/-- A character shown by its code. -/
def charCode (c : Char) : List Char :=
  if c.toNat < 0x100 then '\\' :: 'x' :: hexDigits 2 c.toNat
  else if c.toNat < 0x10000 then '\\' :: 'u' :: hexDigits 4 c.toNat
  else '\\' :: 'U' :: hexDigits 8 c.toNat

/-- A character between quotes. -/
def displayChar (quote : Char) (c : Char) : List Char :=
  if c == quote || c == '\\' then ['\\', c]
  else if c == '\n' then ['\\', 'n']
  else if c == '\r' then ['\\', 'r']
  else if c == '\t' then ['\\', 't']
  else if Text.isPrintable c then [c]
  else charCode c

/-- The quote that a text needs escapes for least. -/
def quoteFor (cs : List Char) : Char :=
  if cs.contains '\'' && !cs.contains '"' then '"' else '\''

def displayText (s : String) : List Char :=
  let quote := quoteFor s.toList
  quote :: (s.toList.flatMap (displayChar quote) ++ [quote])

/-- A byte string in quotes, with its mark. -/
def displayBytes (bytes : List UInt8) : List Char :=
  let chars := bytes.map fun b => Char.ofNat b.toNat
  let quote := quoteFor chars
  let shown (c : Char) : List Char :=
    if c == quote || c == '\\' then ['\\', c]
    else if c == '\n' then ['\\', 'n']
    else if c == '\r' then ['\\', 'r']
    else if c == '\t' then ['\\', 't']
    else if ' ' ≤ c && c ≤ '~' then [c]
    else charCode c
  'b' :: quote :: (chars.flatMap shown ++ [quote])

/-- The words of the numbers that have no digits. -/
def specialWords : SpecialWords := ⟨"inf", "nan"⟩

/-- Texts with a comma and a blank between them. -/
def commaSeparated (parts : List String) : String :=
  ", ".intercalate parts

/-- A distance from universal time. -/
def displayOffset (minutes : Int) : String :=
  if minutes == 0 then "datetime.timezone.utc"
  else
    let days := minutes.fdiv 1440
    let seconds := minutes.fmod 1440 * 60
    let parts := (if days == 0 then [] else ["days=" ++ toString days]) ++
      (if seconds == 0 then [] else ["seconds=" ++ toString seconds])
    "datetime.timezone(datetime.timedelta(" ++ commaSeparated parts ++ "))"

/-- A date with a time of day; seconds and their fractions are left out when they are zero. -/
def displayTimestamp (t : Timestamp) : String :=
  let seconds :=
    if t.microsecond != 0 then [toString t.second, toString t.microsecond]
    else if t.second != 0 then [toString t.second]
    else []
  let zone :=
    match t.offset with
    | none => []
    | some minutes => ["tzinfo=" ++ displayOffset minutes]
  let parts := [t.year, t.month, t.day, t.hour, t.minute].map toString
  "datetime.datetime(" ++ commaSeparated (parts ++ seconds ++ zone) ++ ")"

variable (shared : Nat → List Char)

mutual

/-- A datum as a part of another one, where `shared` shows the collection of a number. -/
def displayPart : Datum → List Char
  | .null => "None".toList
  | .boolean true => "True".toList
  | .boolean false => "False".toList
  | .integer n => (toString n).toList
  | .float x => (x.text specialWords).toList
  | .text s => displayText s
  | .bytes b => displayBytes b
  | .date year month day =>
    ("datetime.date(" ++ commaSeparated ([year, month, day].map toString) ++ ")").toList
  | .timestamp t => (displayTimestamp t).toList
  | .list items => '[' :: (displayItems items ++ [']'])
  | .mapping entries => '{' :: (displayEntries entries ++ ['}'])
  | .set [] => "set()".toList
  | .set items => '{' :: (displayItems items ++ ['}'])
  | .pair first second => '(' :: (displayPart first ++ ',' :: ' ' :: (displayPart second ++ [')']))
  | .shared number => shared number

/-- Items with commas between them. -/
def displayItems : List Datum → List Char
  | [] => []
  | [item] => displayPart item
  | item :: rest => displayPart item ++ ',' :: ' ' :: displayItems rest

/-- Entries with commas between them. -/
def displayEntries : List (Datum × Datum) → List Char
  | [] => []
  | [(key, value)] => displayPart key ++ ':' :: ' ' :: displayPart value
  | (key, value) :: rest =>
    displayPart key ++ ':' :: ' ' :: (displayPart value ++ ',' :: ' ' :: displayEntries rest)

end

/-- What stands for a collection inside itself. -/
def displayAgain : Datum → List Char
  | .mapping _ => "{...}".toList
  | .pair .. => "(...)".toList
  | .set _ => "set(...)".toList
  | _ => "[...]".toList

/-- The collection of a number, inside those whose numbers are `outer`.  Every collection is
opened at most once on the way to a part, so their number bounds the depth. -/
def displayShared (collections : Array Datum) : Nat → List Nat → Nat → List Char
  | 0, _, _ => []
  | depth + 1, outer, number =>
    let d := collections.getD number .null
    if outer.contains number then displayAgain d
    else displayPart (displayShared collections depth (number :: outer)) d

section Limits

variable (sharedIsShowable : Nat → Bool)

mutual

/-- Whether no integer in a datum has too many digits to be shown, where `sharedIsShowable` tells it
of the collection of a number. -/
def isShowable : Datum → Bool
  | .integer n => (Nat.toDigits 10 n.natAbs).length ≤ maxDigits
  | .list items | .set items => itemsAreShowable items
  | .mapping entries => entriesAreShowable entries
  | .pair first second => isShowable first && isShowable second
  | .shared number => sharedIsShowable number
  | _ => true

def itemsAreShowable : List Datum → Bool
  | [] => true
  | item :: rest => isShowable item && itemsAreShowable rest

def entriesAreShowable : List (Datum × Datum) → Bool
  | [] => true
  | (key, value) :: rest => isShowable key && isShowable value && entriesAreShowable rest

end

end Limits

/-- Whether the collection of a number can be shown, inside those whose numbers are `outer`. -/
def sharedIsShowable (collections : Array Datum) : Nat → List Nat → Nat → Bool
  | 0, _, _ => true
  | depth + 1, outer, number =>
    outer.contains number ||
      isShowable (sharedIsShowable collections depth (number :: outer))
        (collections.getD number .null)

/-- What is said of a datum that cannot be shown. -/
def unshowableMessage : String :=
  "Exceeds the limit (" ++ toString maxDigits ++ " digits) for integer string conversion; use " ++
    "sys.set_int_max_str_digits() to increase the limit"

end ProtocolBindings.Datum

namespace ProtocolBindings

/-- The datum of a document as a part of something else. -/
def Document.displayPart (d : Document) : List Char :=
  d.datum.displayPart (Datum.displayShared d.collections (d.collections.size + 1) [])

def Document.display (d : Document) : String :=
  match d.datum with
  | .text s => s
  | _ => String.ofList d.displayPart

def Document.isShowable (d : Document) : Bool :=
  d.datum.isShowable (Datum.sharedIsShowable d.collections (d.collections.size + 1) [])

def Json.display (value : Json) : String :=
  (Document.ofJson value).display

/-- A text in quotes, as it is shown in a message. -/
def quoted (s : String) : String :=
  String.ofList (Datum.displayText s)

end ProtocolBindings
