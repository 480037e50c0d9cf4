import ProtocolBindings.Console.Layout
import ProtocolBindings.Console.Markup
import ProtocolBindings.Host

/-!
# Messages

What a console without colours shows of messages and of trees of messages.  Its width is that of
the host.
-/

namespace ProtocolBindings.Console

/-- Whether the style of a stretch is looked at.  Where a text is divided into lines, stretches
without a character are dropped. -/
def isLookedAt (width : Nat) (text : List Char) (span : Markup.Span) : Bool :=
  Layout.isWhole width text ||
    ((text.take span.last).drop span.first).any (· != '\n')

/-- Whether the words of a style can be read; words that name no style are passed over. -/
def isReadable (style : List Char) : Bool :=
  match Style.ofText style with
  | .error .missingComponent => false
  | _ => true

/-- The lines of a message on a console of the given width. -/
def lines (width : Nat) (message : String) : Except Markup.Fault (List String) := do
  let styled ← Markup.read message
  if (styled.spans.filter (isLookedAt width styled.text)).all (isReadable ·.style) then
    return (Layout.lines width styled.text).map String.ofList
  else .error .unreadableColor

def textOf (lines : List String) : String :=
  String.join (lines.map (· ++ "\n"))

variable [Host]

def render (message : String) : Except Markup.Fault String :=
  textOf <$> lines Host.width message

/-! ## Trees -/

/-- The lines of a branch: its first line is led by one mark and the others by another. -/
def branch (first others : String) : List String → List String
  | [] => []
  | line :: lines => (first ++ line) :: lines.map (others ++ ·)

/-- How many cells the mark in front of a branch takes. -/
def markWidth : Nat := 4

/-- The lines of the label of a branch.  Where there is no room behind the mark, the label is not
even looked at. -/
def labelLines (label : String) : Except Markup.Fault (List String) :=
  if Host.width ≤ markWidth then .ok [] else lines (Host.width - markWidth) label

def branches : List String → Except Markup.Fault (List String)
  | [] => .ok []
  | [label] => return branch "└── " "    " (← labelLines label)
  | label :: rest => do
    let first ← labelLines label
    return branch "├── " "│   " first ++ (← branches rest)

/-- What a tree of messages shows, given the label of its root and those of its branches. -/
def renderTree (root : String) (labels : List String) : Except Markup.Fault String := do
  let first ← lines Host.width root
  return textOf (first ++ (← branches labels))

end ProtocolBindings.Console
