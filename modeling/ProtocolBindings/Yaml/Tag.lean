import ProtocolBindings.Text.Blank

/-!
# Tags

A tag says what kind of value a node has.  A plain scalar without a tag gets one from its form:
each kind has a pattern, and a text that no pattern fits is just text.
-/

namespace ProtocolBindings.Yaml

/-- What the names of all common tags begin with. -/
def tagFamily : String := "tag:yaml.org,2002:"

/-- The kinds of values that a tag can name. -/
inductive Tag where
  | null
  | boolean
  | integer
  | float
  | binary
  | timestamp
  | orderedMap
  | pairs
  | set
  | text
  | sequence
  | mapping
  /-- The key whose value is merged into its mapping. -/
  | merge
  /-- The key of a mapping's default value. -/
  | default
  | other (name : String)
deriving DecidableEq, Repr, Inhabited

namespace Tag

def shortNames : List (String × Tag) :=
  [("null", .null), ("bool", .boolean), ("int", .integer), ("float", .float),
    ("binary", .binary), ("timestamp", .timestamp), ("omap", .orderedMap), ("pairs", .pairs),
    ("set", .set), ("str", .text), ("seq", .sequence), ("map", .mapping), ("merge", .merge),
    ("value", .default)]

def ofName (name : String) : Tag :=
  match shortNames.find? fun (short, _) => tagFamily ++ short == name with
  | some (_, tag) => tag
  | none => .other name

def name : Tag → String
  | .other name => name
  | tag =>
    match shortNames.find? fun (_, t) => t == tag with
    | some (short, _) => tagFamily ++ short
    | none => ""

end Tag

/-! ## Patterns -/

/-- Cuts a sign from the front. -/
def dropSign : List Char → List Char
  | '-' :: rest | '+' :: rest => rest
  | cs => cs

/-- Whether a character is a digit or stands between digits. -/
def isDigitOrLine (c : Char) : Bool :=
  c.isDigit || c == '_'

/-- Whether all further places of a sexagesimal number, each behind a colon, have one or two
digits and are below sixty. -/
def areSixties : List (List Char) → Bool
  | [] => true
  | place :: rest =>
    (match place with
      | [a] => a.isDigit
      | [a, b] => '0' ≤ a && a ≤ '5' && b.isDigit
      | _ => false) && areSixties rest

/-- Whether a text is a decimal integer, with or without sixties behind it. -/
def isDecimal (cs : List Char) : Bool :=
  match Text.pieces (· == ':') cs with
  | [] => false
  | (first :: more) :: sixties =>
    '1' ≤ first && first ≤ '9' && more.all isDigitOrLine && areSixties sixties
  | _ => false

/-- Whether a text has the form of an integer. -/
def isInteger (cs : List Char) : Bool :=
  match dropSign cs with
  | ['0'] => true
  | '0' :: 'b' :: digits => !digits.isEmpty && digits.all fun c => c == '0' || c == '1' || c == '_'
  | '0' :: 'x' :: digits =>
    !digits.isEmpty && digits.all fun c =>
      isDigitOrLine c || ('a' ≤ c && c ≤ 'f') || ('A' ≤ c && c ≤ 'F')
  | '0' :: digits => digits.all fun c => ('0' ≤ c && c ≤ '7') || c == '_'
  | cs => isDecimal cs

/-- Whether a text is empty or an exponent with a sign. -/
def isExponent : List Char → Bool
  | [] => true
  | e :: sign :: digits =>
    (e == 'e' || e == 'E') && (sign == '-' || sign == '+') && !digits.isEmpty &&
      digits.all Char.isDigit
  | _ => false

def beginsWithDigit (cs : List Char) : Bool :=
  (cs.headD ' ').isDigit

/-- Whether a text without a sign has the form of a number with a point. -/
def isPointed (cs : List Char) : Bool :=
  let whole := cs.takeWhile isDigitOrLine
  match cs.dropWhile isDigitOrLine with
  | '.' :: rest => beginsWithDigit whole && isExponent (rest.dropWhile isDigitOrLine)
  | ':' :: rest =>
    let sixties := rest.takeWhile fun c => c.isDigit || c == ':'
    match rest.dropWhile fun c => c.isDigit || c == ':' with
    | '.' :: digits =>
      beginsWithDigit whole && areSixties (Text.pieces (· == ':') sixties) &&
        digits.all isDigitOrLine
    | _ => false
  | _ => false

def infinityWords : List String := [".inf", ".Inf", ".INF"]

def notANumberWords : List String := [".nan", ".NaN", ".NAN"]

/-- Whether a text has the form of a floating-point number. -/
def isFloat (cs : List Char) : Bool :=
  isPointed (dropSign cs) || infinityWords.contains (String.ofList (dropSign cs)) ||
    notANumberWords.contains (String.ofList cs) ||
    (match cs with
      | '.' :: rest => beginsWithDigit rest && isExponent (rest.dropWhile isDigitOrLine)
      | _ => false)

/-- The words for truth values. -/
def booleanWords : List (String × Bool) :=
  [("yes", true), ("no", false), ("true", true), ("false", false), ("on", true), ("off", false)]

/-- Whether a text is a word for a truth value in small letters, in capitals, or with a capital in
front. -/
def isBoolean (s : String) : Bool :=
  booleanWords.any fun (word, _) => s == word || s == word.toUpper || s == word.capitalize

/-- The words for the absence of a value. -/
def nullWords : List String := ["", "~", "null", "Null", "NULL"]

/-! ## Times -/

/-- A part of a text: a number of digits between two bounds, and what follows them. -/
def takeDigits (least most : Nat) (cs : List Char) : Option (List Char × List Char) :=
  let digits := (cs.take most).takeWhile Char.isDigit
  if digits.length < least then none else some (digits, cs.drop digits.length)

/-- What follows a character, if a text begins with it. -/
def takeChar (c : Char) : List Char → Option (List Char)
  | [] => none
  | ch :: rest => if ch == c then some rest else none

/-- The parts of a written time, as digits. -/
structure TimeParts where
  year : List Char
  month : List Char
  day : List Char
  /-- Hour, minute, second and fraction of a second. -/
  clock : Option (List Char × List Char × List Char × List Char) := none
  /-- Universal time, or the distance from it as sign, hours and minutes. -/
  zone : Option (Option (Bool × List Char × List Char)) := none

/-- The parts of a distance from universal time, which ends the text. -/
def zone? (cs : List Char) : Option (Option (Option (Bool × List Char × List Char))) :=
  match cs.dropWhile fun c => c == ' ' || c == '\t' with
  | [] => if cs.isEmpty then some none else none
  | ['Z'] => some (some none)
  | sign :: rest => do
    guard (sign == '-' || sign == '+')
    let (hours, rest) ← takeDigits 1 2 rest
    match rest with
    | [] => return some (some (sign == '-', hours, []))
    | _ =>
      let (minutes, rest) ← takeDigits 2 2 (← takeChar ':' rest)
      guard rest.isEmpty
      return some (some (sign == '-', hours, minutes))

/-- The parts of a written time of day with its zone. -/
def clock? (cs : List Char) : Option (TimeParts → TimeParts) := do
  let (hour, rest) ← takeDigits 1 2 cs
  let (minute, rest) ← takeDigits 2 2 (← takeChar ':' rest)
  let (second, rest) ← takeDigits 2 2 (← takeChar ':' rest)
  let (fraction, rest) :=
    match rest with
    | '.' :: rest => (rest.takeWhile Char.isDigit, rest.dropWhile Char.isDigit)
    | _ => ([], rest)
  let zone ← zone? rest
  return fun parts => { parts with clock := some (hour, minute, second, fraction), zone }

/-- The parts of a written time.  Without a time of day, `leastDigits` digits are asked for in
the month and the day. -/
def timeParts? (leastDigits : Nat) (cs : List Char) : Option TimeParts := do
  let (year, rest) ← takeDigits 4 4 cs
  let (month, rest) ← takeDigits 1 2 (← takeChar '-' rest)
  let (day, rest) ← takeDigits 1 2 (← takeChar '-' rest)
  let date : TimeParts := { year, month, day }
  match rest with
  | [] =>
    guard (leastDigits ≤ month.length && leastDigits ≤ day.length)
    return date
  | c :: after =>
    if c == 'T' || c == 't' then return (← clock? after) date
    else
      guard (c == ' ' || c == '\t')
      return (← clock? (rest.dropWhile fun c => c == ' ' || c == '\t')) date

/-! ## The tag of a plain scalar -/

/-- The characters that are a kind of their own when they stand alone; no value belongs to it. -/
def loneMarks : List String := ["!", "&", "*"]

/-- The tag of those characters. -/
def loneMarkTag : Tag :=
  .other (tagFamily ++ "yaml")

/-- A text without a line end at its end, unless it is nothing else. -/
def withoutLineEnd (cs : List Char) : List Char :=
  if 1 < cs.length && cs.getLast? == some '\n' then cs.dropLast else cs

/-- The tag that follows from the form of a text; a line end at its end does not matter. -/
def Tag.ofText (s : String) : Tag :=
  let cs := withoutLineEnd s.toList
  let s := String.ofList cs
  if isBoolean s then .boolean
  else if isFloat cs then .float
  else if isInteger cs then .integer
  else if s == "<<" then .merge
  else if nullWords.contains s then .null
  else if (timeParts? 2 cs).isSome then .timestamp
  else if s == "=" then .default
  else if loneMarks.contains s then loneMarkTag
  else .text

end ProtocolBindings.Yaml
