/-!
# Blank characters

The white space of Unicode, with the four separators of the control range, and the operations
that cut it from the ends of a text or divide a text at it.
-/

namespace ProtocolBindings.Text

/-- White space: the separators of every kind, tabulators, line ends and the information
separators `U+001C` to `U+001F`. -/
def isBlank (c : Char) : Bool :=
  let n := c.toNat
  (0x09 ≤ n && n ≤ 0x0D) || (0x1C ≤ n && n ≤ 0x20) || n == 0x85 || n == 0xA0 || n == 0x1680 ||
    (0x2000 ≤ n && n ≤ 0x200A) || n == 0x2028 || n == 0x2029 || n == 0x202F || n == 0x205F ||
    n == 0x3000

/-- Cuts the characters that satisfy `p` from the end. -/
def trimEndWhile (p : Char → Bool) (cs : List Char) : List Char :=
  (cs.reverse.dropWhile p).reverse

/-- Cuts the characters that satisfy `p` from both ends. -/
def trimWhile (p : Char → Bool) (cs : List Char) : List Char :=
  trimEndWhile p (cs.dropWhile p)

/-- Cuts white space from the start. -/
def trimStart (cs : List Char) : List Char :=
  cs.dropWhile isBlank

/-- Cuts white space from the end. -/
def trimEnd (cs : List Char) : List Char :=
  trimEndWhile isBlank cs

/-- Cuts white space from both ends. -/
def trim (cs : List Char) : List Char :=
  trimWhile isBlank cs

/-- The pieces between the characters that satisfy `p`, in order.  There is one piece more than
there are such characters, and pieces may be empty. -/
def pieces (p : Char → Bool) : List Char → List (List Char)
  | [] => [[]]
  | c :: rest =>
    if p c then [] :: pieces p rest
    else
      match pieces p rest with
      | [] => [[c]]
      | piece :: others => (c :: piece) :: others

/-- The words of a text: its pieces between white space, without the empty ones. -/
def words (cs : List Char) : List (List Char) :=
  (pieces isBlank cs).filter (!·.isEmpty)

/-- Putting the separators back between the pieces gives the text. -/
theorem intercalate_pieces (separator : Char) (cs : List Char) :
    [separator].intercalate (pieces (· == separator) cs) = cs := by
  induction cs with
  | nil => simp [pieces]
  | cons c rest ih =>
    rw [pieces]
    split
    · rename_i h
      have h' := eq_of_beq h
      subst h'
      cases hp : pieces (· == c) rest with
      | nil =>
        rw [hp] at ih
        simp at ih
        subst ih
        simp [pieces] at hp
      | cons piece others =>
        rw [hp] at ih
        simp [List.intercalate_cons_cons, ih]
    · cases hp : pieces (· == separator) rest with
      | nil =>
        rw [hp] at ih
        simpa using ih
      | cons piece others =>
        rw [hp] at ih
        cases others with
        | nil => simpa using ih
        | cons next others =>
          simp only [List.intercalate_cons_cons, List.cons_append] at ih ⊢
          rw [ih]

end ProtocolBindings.Text
