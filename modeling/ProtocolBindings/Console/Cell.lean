import ProtocolBindings.Console.Cell.Table

/-!
# Cells

A console is divided into cells of one width.  A character takes one cell, two or none.  Those
without a width belong to the character in front of them; so does whatever follows a joiner, and
the selector that asks for an emoji widens a character that has two forms.
-/

namespace ProtocolBindings.Cell

/-- Joins the characters on both its sides. -/
def joiner : Char := '\u200D'

/-- Asks for the emoji among the forms of a character. -/
def emojiSelector : Char := '\uFE0F'

/-- How many cells a character takes. -/
def width (c : Char) : Nat :=
  if zeroTable.contains c.toNat then 0 else if wideTable.contains c.toNat then 2 else 1

/-- Characters that share their cells. -/
structure Cluster where
  chars : List Char
  width : Nat
deriving DecidableEq, Repr

/-- Divides a text into the characters that belong to what is in front of it, with the cells they
add, and the clusters that follow.  The flag tells whether a selector widens what is in front. -/
def split (widens : Bool) : List Char → Cluster × List Cluster
  | [] => (⟨[], 0⟩, [])
  | c :: rest =>
    if c == joiner then
      match rest with
      | [] => (⟨[c], 0⟩, [])
      | joined :: rest =>
        let (attached, clusters) := split widens rest
        (⟨c :: joined :: attached.chars, attached.width⟩, clusters)
    else if c == emojiSelector then
      let (attached, clusters) := split false rest
      (⟨c :: attached.chars, attached.width + if widens then 1 else 0⟩, clusters)
    else if width c == 0 then
      let (attached, clusters) := split widens rest
      (⟨c :: attached.chars, attached.width⟩, clusters)
    else
      let (attached, clusters) := split (variableTable.contains c.toNat) rest
      (⟨[], 0⟩, ⟨c :: attached.chars, width c + attached.width⟩ :: clusters)

def clusters (cs : List Char) : List Cluster :=
  let (attached, clusters) := split false cs
  if attached.chars.isEmpty then clusters else attached :: clusters

/-- How many cells a text takes. -/
def count (cs : List Char) : Nat :=
  (clusters cs).foldl (fun n cluster => n + cluster.width) 0

theorem chars_split (widens : Bool) (cs : List Char) :
    (split widens cs).1.chars ++ (split widens cs).2.flatMap (·.chars) = cs := by
  fun_induction split widens cs <;> simp_all

/-- The clusters together are the text. -/
theorem flatMap_clusters (cs : List Char) : (clusters cs).flatMap (·.chars) = cs := by
  have h := chars_split false cs
  cases hsplit : split false cs with
  | mk attached rest =>
    rw [hsplit] at h
    cases hchars : attached.chars <;> simp_all [clusters]

end ProtocolBindings.Cell
