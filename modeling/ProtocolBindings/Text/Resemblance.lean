/-!
# Resemblance

How alike two texts are, by what they have in common: the longest part that occurs in both, and
then, on either side of it, the same again.  Two texts resemble each other if at least three
fifths of their characters are in common parts.
-/

namespace ProtocolBindings.Text

/-- How many characters two texts have in common at the front. -/
def commonLength : List Char → List Char → Nat
  | a :: as, b :: bs => if a == b then commonLength as bs + 1 else 0
  | _, _ => 0

/-- A common part of two texts: where it begins in each, and how long it is. -/
structure CommonPart where
  first : Nat := 0
  second : Nat := 0
  length : Nat := 0

/-- The longest common part; of several, the one that begins first. -/
def longestCommonPart (as bs : List Char) : CommonPart :=
  let places := (List.range as.length).flatMap fun i =>
    (List.range bs.length).map fun j =>
      (⟨i, j, commonLength (as.drop i) (bs.drop j)⟩ : CommonPart)
  places.foldl (fun best part => if best.length < part.length then part else best) {}

/-- How many characters lie in common parts.  Every round takes out a part of the first text, so
its length bounds the rounds. -/
def commonCount : Nat → List Char → List Char → Nat
  | 0, _, _ => 0
  | n + 1, as, bs =>
    let part := longestCommonPart as bs
    if part.length == 0 then 0
    else
      part.length + commonCount n (as.take part.first) (bs.take part.second) +
        commonCount n (as.drop (part.first + part.length)) (bs.drop (part.second + part.length))

/-- The characters in common parts, counted in both texts, and all characters of both. -/
def resemblance (s t : String) : Nat × Nat :=
  (2 * commonCount s.length s.toList t.toList, s.length + t.length)

def resembles (s t : String) : Bool :=
  let (common, all) := resemblance s t
  3 * all ≤ 5 * common

/-- How many texts are proposed in place of another. -/
def maxProposals : Nat := 3

def closest (t : String) (candidates : List String) : List String :=
  let before (a b : String) : Bool :=
    let (commonA, allA) := resemblance a t
    let (commonB, allB) := resemblance b t
    if commonA * allB == commonB * allA then b ≤ a else commonB * allA ≤ commonA * allB
  ((candidates.filter (resembles · t)).mergeSort before).take maxProposals

end ProtocolBindings.Text
