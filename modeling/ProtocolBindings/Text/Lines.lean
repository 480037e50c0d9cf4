import ProtocolBindings.Text.Blank

/-!
# Lines

Lines end at any of the line boundaries of Unicode and at the vertical tabulator, the form feed
and three of the information separators.  A carriage return with a line feed behind it is one
boundary.  A boundary ends a line, so a text that ends with one has no empty last line.
-/

namespace ProtocolBindings.Text

/-- The characters at which a line ends. -/
def isLineBreak (c : Char) : Bool :=
  let n := c.toNat
  (0x0A ≤ n && n ≤ 0x0D) || (0x1C ≤ n && n ≤ 0x1E) || n == 0x85 || n == 0x2028 || n == 0x2029

def splitLines : List Char → List (List Char)
  | [] => []
  | '\r' :: '\n' :: rest => [] :: splitLines rest
  | c :: rest =>
    if isLineBreak c then [] :: splitLines rest
    else
      match splitLines rest with
      | [] => [[c]]
      | line :: lines => (c :: line) :: lines

def joinLines (lines : List (List Char)) : List Char :=
  ['\n'].intercalate lines

/-- Puts `margin` before every line that is not empty, and turns every boundary between lines
into a line feed. -/
def indent (margin : List Char) (cs : List Char) : List Char :=
  joinLines ((splitLines cs).map fun line => if line.isEmpty then [] else margin ++ line)

/-- Takes one more character into a text with unified line ends.  The text so far is held in
reverse; `afterReturn` tells whether it ends with a carriage return that was turned. -/
def unifyStep (state : List Char × Bool) (c : Char) : List Char × Bool :=
  let (done, afterReturn) := state
  if c == '\r' then ('\n' :: done, true)
  else if c == '\n' && afterReturn then (done, false)
  else (c :: done, false)

/-- Turns carriage returns, alone or before a line feed, into line feeds. -/
def unifyNewlines (cs : List Char) : List Char :=
  (cs.foldl unifyStep ([], false)).1.reverse

end ProtocolBindings.Text
