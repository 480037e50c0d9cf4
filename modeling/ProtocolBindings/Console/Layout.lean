import ProtocolBindings.Console.Cell
import ProtocolBindings.Text.Blank

/-!
# Lines of a console

A text is shown in lines of limited width.  Tabulators are filled up to columns of eight.  A line
ends in front of the first word that does not fit; a word wider than a whole line begins a line of
its own and is cut into pieces.
-/

namespace ProtocolBindings.Layout

/-- How far tabulators are apart. -/
def tabSize : Nat := 8

/-- Fills up the tabulators between the parts of a line, from the given column on.  A tabulator
takes at least one cell. -/
def fillTabs (column : Nat) : List (List Char) → List Char
  | [] => []
  | [last] => last
  | part :: rest =>
    let column := column + Cell.count (part ++ [' '])
    let missing := (tabSize - column % tabSize) % tabSize
    part ++ List.replicate (1 + missing) ' ' ++ fillTabs (column + missing) rest

/-- Fills up the tabulators of a line. -/
def expandTabs (line : List Char) : List Char :=
  fillTabs 0 (Text.pieces (· == '\t') line)

/-- The words of a line, each with the blanks behind it and the first one also with the blanks in
front of it.  Every round takes up at least one character, so one round more than there are
characters is enough. -/
def wordsWithin : Nat → List Char → List (List Char)
  | 0, _ => []
  | n + 1, cs =>
    let lead := cs.takeWhile Text.isBlank
    let cs := cs.drop lead.length
    let body := cs.takeWhile (!Text.isBlank ·)
    let cs := cs.drop body.length
    let trail := cs.takeWhile Text.isBlank
    if body.isEmpty then []
    else (lead ++ body ++ trail) :: wordsWithin n (cs.drop trail.length)

def words (line : List Char) : List (List Char) :=
  wordsWithin (line.length + 1) line

/-- Cuts clusters into pieces that fit into a width, where `taken` is the piece in the making. -/
def chop (width : Nat) (taken : List Char) (used : Nat) : List Cell.Cluster → List (List Char)
  | [] => [taken]
  | cluster :: rest =>
    if width < used + cluster.width then taken :: chop width cluster.chars cluster.width rest
    else chop width (taken ++ cluster.chars) (used + cluster.width) rest

/-- Lines in the making. -/
structure Wrapping where
  /-- The lines that are full, the last one first. -/
  full : List (List Char) := []
  /-- The line that is being filled. -/
  line : List Char := []
  /-- The cells of that line. -/
  used : Nat := 0

namespace Wrapping

/-- Begins a new line with a text, unless nothing stands in front of it. -/
def begin (w : Wrapping) (cs : List Char) : Wrapping :=
  { full := if w.full.isEmpty && w.line.isEmpty then [] else w.line :: w.full
    line := cs
    used := Cell.count cs }

/-- Adds a word with the blanks behind it.  The blanks may stand out of the line. -/
def add (width : Nat) (w : Wrapping) (word : List Char) : Wrapping :=
  let needed := Cell.count (Text.trimEnd word)
  if w.used + needed ≤ width then
    { w with line := w.line ++ word, used := w.used + Cell.count word }
  else if width < needed then (chop width [] 0 (Cell.clusters word)).foldl begin w
  else w.begin word

end Wrapping

/-- The lines into which a line is divided.  A line of blanks stays one. -/
def wrap (width : Nat) (line : List Char) : List (List Char) :=
  match words line with
  | [] => [line]
  | words =>
    let w := words.foldl (Wrapping.add width) {}
    (w.line :: w.full).reverse

/-- Takes blanks from the end of a line, as many as it has characters too many. -/
def trimExcess (width : Nat) (line : List Char) : List Char :=
  let blanks := line.length - (Text.trimEnd line).length
  line.take (line.length - min blanks (line.length - width))

/-- The clusters that fit into a width.  A wide one that only half fits leaves a blank. -/
def fitting (width : Nat) : List Cell.Cluster → List Char
  | [] => []
  | cluster :: rest =>
    if width == 0 then []
    else if cluster.width ≤ width then cluster.chars ++ fitting (width - cluster.width) rest
    else List.replicate width ' '

/-- Cuts off what stands out of a line. -/
def truncate (width : Nat) (line : List Char) : List Char :=
  if width < Cell.count line then fitting width (Cell.clusters line) else line

/-- The lines in which a text is shown. -/
def lines (width : Nat) (cs : List Char) : List (List Char) :=
  (Text.pieces (· == '\n') cs).flatMap fun line =>
    (wrap width (expandTabs line)).map fun line => truncate width (trimExcess width line)

/-- Whether a text is shown as the one line it is. -/
def isWhole (width : Nat) (cs : List Char) : Bool :=
  !cs.contains '\n' && !cs.contains '\t' && (wrap width cs).length == 1

end ProtocolBindings.Layout
