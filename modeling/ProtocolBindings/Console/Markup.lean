import ProtocolBindings.Console.Emoji
import ProtocolBindings.Console.Literal
import ProtocolBindings.Console.Style
import ProtocolBindings.Text.Alphanumeric

/-!
# Console markup

Messages for the console may hold tags between square brackets, which set the style of what
follows and are not shown.  A tag begins with a small letter or one of `#`, `/` and `@`; anything
else between brackets is text.  A backslash before a tag makes text of it.  A tag with a slash
closes the last open tag of its name, and without a name the last open tag.

A tag may have parameters behind an equals sign.  A tag that begins with `@` names an event, and
its parameters are the arguments of the event.
-/

namespace ProtocolBindings.Markup

/-- Why a message cannot be shown. -/
inductive Fault where
  /-- A tag is closed that is not open. -/
  | unopenedTag
  /-- The arguments of an event are no literal. -/
  | unreadableArguments
  /-- A colour lacks a component. -/
  | unreadableColor
deriving DecidableEq, Repr

def Fault.message : Fault → String
  | unopenedTag => "A closing tag does not match any open tag"
  | unreadableArguments => "The arguments of an event are no literal"
  | unreadableColor => "A colour lacks a component"

/-! ## Pieces -/

/-- A part of a message. -/
inductive Piece where
  | text (cs : List Char)
  | tag (body : List Char)
deriving DecidableEq, Repr

def beginsTag (c : Char) : Bool :=
  ('a' ≤ c && c ≤ 'z') || c == '#' || c == '/' || c == '@'

/-- The body of a tag whose opening bracket has been passed, and what follows its closing
bracket. -/
def tagBody? (cs : List Char) : Option (List Char × List Char) :=
  let body := cs.takeWhile fun c => c != '[' && c != ']'
  match cs.drop body.length with
  | ']' :: rest => if beginsTag (body.headD ']') then some (body, rest) else none
  | _ => none

/-- The first tag of a message, between the text in front of it and what follows it. -/
def firstTag? : List Char → Option (List Char × List Char × List Char)
  | [] => none
  | c :: rest =>
    match (if c == '[' then tagBody? rest else none) with
    | some (body, after) => some ([], body, after)
    | none => (firstTag? rest).map fun (before, body, after) => (c :: before, body, after)

/-- The parts of a message.  Of the backslashes before a tag every other one is shown, and one
that is left over makes text of the tag.  Every round takes up a tag or ends, so one round more
than there are characters is enough. -/
def piecesWithin : Nat → List Char → List Piece
  | 0, _ => []
  | n + 1, cs =>
    match firstTag? cs with
    | none => [.text cs]
    | some (before, body, rest) =>
      let front := Text.trimEndWhile (· == '\\') before
      let slashes := before.length - front.length
      let last := if slashes % 2 == 1 then Piece.text ('[' :: body ++ [']']) else .tag body
      .text front :: .text (List.replicate (slashes / 2) '\\') :: last :: piecesWithin n rest

/-- The parts of a message. -/
def pieces (cs : List Char) : List Piece :=
  piecesWithin (cs.length + 1) cs

/-! ## Shown text -/

/-- Takes the backslashes in front of opening brackets away. -/
def unescape : List Char → List Char
  | '\\' :: '[' :: rest => '[' :: unescape rest
  | c :: rest => c :: unescape rest
  | [] => []

/-- The characters that a console does not show: bell, backspace, vertical tabulator, form feed
and carriage return. -/
def isControl (c : Char) : Bool :=
  c == '\x07' || c == '\x08' || c == '\x0B' || c == '\x0C' || c == '\r'

/-- What a part of text shows. -/
def shown (cs : List Char) : List Char :=
  (Emoji.replace (unescape cs)).filter (!isControl ·)

/-! ## Tags -/

/-- A tag that has not been closed. -/
structure Opened where
  /-- Where its style begins. -/
  first : Nat
  name : List Char
  parameters : Option (List Char)
deriving DecidableEq, Repr

def Opened.style (tag : Opened) : List Char :=
  match tag.parameters with
  | none => tag.name
  | some parameters => tag.name ++ ' ' :: parameters

/-- Whether the parameters of an event can be read: its name alone, a name with arguments in
parentheses, or a literal. -/
def areArguments (parameters : List Char) : Bool :=
  let parameters := Text.trim parameters
  let name := parameters.takeWhile fun c => Text.isWordCharacter c || c == '.'
  match parameters.drop name.length with
  | [] => true
  | '(' :: rest =>
    if rest.getLast? == some ')' && !rest.contains '\n' then Literal.isLiteral ('(' :: rest)
    else Literal.isLiteral parameters
  | _ => Literal.isLiteral parameters

/-- A stretch of the shown text with the words of its style. -/
structure Span where
  first : Nat
  last : Nat
  style : List Char
deriving DecidableEq, Repr

/-- A message whose tags have been read up to some place. -/
structure State where
  text : List Char := []
  /-- The open tags, the last one first. -/
  opened : List Opened := []
  spans : List Span := []
deriving DecidableEq, Repr

namespace State

/-- The stretch of a tag that ends here. -/
def spanOf (s : State) (tag : Opened) : Span :=
  ⟨tag.first, s.text.length, tag.style⟩

/-- The name by which a tag is matched. -/
def nameOf (text : List Char) : Except Fault (List Char) :=
  (Style.normalize text).mapError fun _ => .unreadableColor

def openTag (s : State) (body : List Char) : Except Fault State := do
  let text := body.takeWhile (· != '=')
  let parameters := if body.contains '=' then some (body.drop (text.length + 1)) else none
  let tag : Opened := ⟨s.text.length, ← nameOf text, parameters⟩
  return { s with opened := tag :: s.opened }

/-- Ends the stretch of a tag.  The stretch of an event has no style. -/
def finish (s : State) (tag : Opened) : Except Fault State :=
  if tag.name.head? != some '@' then .ok { s with spans := s.spanOf tag :: s.spans }
  else if areArguments (tag.parameters.getD []) then .ok s
  else .error .unreadableArguments

def closeTag (s : State) (body : List Char) : Except Fault State := do
  let text := Text.trim (body.takeWhile (· != '='))
  let isNamed ←
    if text.isEmpty then pure fun (_ : Opened) => true
    else do
      let name ← nameOf text
      pure fun (tag : Opened) => tag.name == name
  match s.opened.find? isNamed with
  | some tag => finish { s with opened := s.opened.eraseP isNamed } tag
  | none => .error .unopenedTag

/-- Reads a part of a message. -/
def read (s : State) : Piece → Except Fault State
  | .text cs => .ok { s with text := s.text ++ shown cs }
  | .tag ('/' :: body) => s.closeTag body
  | .tag body => s.openTag body

end State

/-- A text with its styles. -/
structure Styled where
  text : List Char
  spans : List Span
deriving DecidableEq, Repr

/-- Reads a message.  Tags that are not closed hold up to its end. -/
def read (message : String) : Except Fault Styled := do
  let s ← (pieces message.toList).foldlM State.read {}
  return ⟨s.text, s.spans ++ s.opened.map s.spanOf⟩

/-! ## Messages without tags -/

theorem firstTag?_eq_none {cs : List Char} (h : '[' ∉ cs) : firstTag? cs = none := by
  induction cs with
  | nil => rfl
  | cons c rest ih =>
    simp only [List.mem_cons, not_or] at h
    have hc : (c == '[') = false := by simpa using fun hc => h.1 hc.symm
    simp [firstTag?, hc, ih h.2]

end ProtocolBindings.Markup
