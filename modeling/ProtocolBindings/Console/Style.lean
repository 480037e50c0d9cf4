import ProtocolBindings.Console.Color

/-!
# Styles

A style is written in words: attributes, which `not` switches off, a colour, `on` with the colour
of the background, and `link` with an address.  The words of a style in a fixed order are its
normal form, by which tags are matched.
-/

namespace ProtocolBindings

/-- What a style may switch on or off. -/
inductive Attribute where
  | bold
  | dim
  | italic
  | underline
  | blink
  | blink2
  | reverse
  | conceal
  | strike
  | underline2
  | frame
  | encircle
  | overline
deriving DecidableEq, Repr

namespace Attribute

/-- The attributes, in the order in which a style names them. -/
def all : List Attribute :=
  [.bold, .dim, .italic, .underline, .blink, .blink2, .reverse, .conceal, .strike, .underline2,
    .frame, .encircle, .overline]

def name : Attribute → String
  | bold => "bold"
  | dim => "dim"
  | italic => "italic"
  | underline => "underline"
  | blink => "blink"
  | blink2 => "blink2"
  | reverse => "reverse"
  | conceal => "conceal"
  | strike => "strike"
  | underline2 => "underline2"
  | frame => "frame"
  | encircle => "encircle"
  | overline => "overline"

def shortNames : List (String × Attribute) :=
  [("b", bold), ("d", dim), ("i", italic), ("u", underline), ("r", reverse), ("c", conceal),
    ("s", strike), ("uu", underline2), ("o", overline)]

def ofName? (word : List Char) : Option Attribute :=
  let text := String.ofList word
  match all.find? (·.name == text) with
  | some a => some a
  | none => shortNames.lookup text

end Attribute

/-- What a tag sets. -/
structure Style where
  /-- The attributes that were switched on and off, the last one first. -/
  switches : List (Attribute × Bool) := []
  color : Option (List Char) := none
  background : Option (List Char) := none
  link : Option (List Char) := none
deriving DecidableEq, Repr

namespace Style

def withWords (s : Style) : List (List Char) → Except Color.Problem Style
  | [] => .ok s
  | word :: rest =>
    match String.ofList (Text.lowerChars word) with
    | "on" =>
      match rest with
      | [] => .error .unknown
      | background :: rest => do
        withWords { s with background := some (← Color.ofText background) } rest
    | "not" =>
      match rest with
      | [] => .error .unknown
      | negated :: rest =>
        match Attribute.ofName? negated with
        | some a => withWords { s with switches := (a, false) :: s.switches } rest
        | none => .error .unknown
    | "link" =>
      match rest with
      | [] => .error .unknown
      | address :: rest => withWords { s with link := some address } rest
    | _ =>
      match Attribute.ofName? (Text.lowerChars word) with
      | some a => withWords { s with switches := (a, true) :: s.switches } rest
      | none => do withWords { s with color := some (← Color.ofText word) } rest

def emptyWord : List Char := "none".toList

def ofText (text : List Char) : Except Color.Problem Style :=
  let words := Text.words text
  if words == [emptyWord] then .ok {} else withWords {} words

/-- The words of a style, in the order of the normal form. -/
def toWords (s : Style) : List (List Char) :=
  (Attribute.all.filterMap fun a =>
    (s.switches.lookup a).map fun isOn => ((if isOn then "" else "not ") ++ a.name).toList) ++
    s.color.toList ++
    (s.background.map fun color => "on ".toList ++ color).toList ++
    (s.link.map fun address => "link ".toList ++ address).toList

/-- The normal form of a style. -/
def toText (s : Style) : List Char :=
  match s.toWords with
  | [] => emptyWord
  | words => [' '].intercalate words

/-- The name by which a tag is matched: the normal form of its style.  A tag that names no style
goes by its own text in lowercase. -/
def normalize (text : List Char) : Except Color.Problem (List Char) :=
  match ofText text with
  | .ok s => .ok s.toText
  | .error .unknown => .ok (Text.lowerChars (Text.trim text))
  | .error .missingComponent => .error .missingComponent

end Style

end ProtocolBindings
