import ProtocolBindings.Text.Blank

/-!
# Paths

A path is a sequence of steps, from the root or from the current directory.  Empty steps and
steps that stay where they are do not count; steps to the parent are kept, since where they lead
depends on the directories that exist.  A root written with exactly two slashes is told apart
from the ordinary one.
-/

namespace ProtocolBindings

/-- Where the steps of a path begin. -/
inductive Path.Root where
  | current
  | top
  | doubled
deriving DecidableEq, Repr

/-- A path. -/
structure Path where
  root : Path.Root
  steps : List String
deriving DecidableEq, Repr

namespace Path

def parentStep : String := ".."

def Root.text : Root → String
  | .current => ""
  | .top => "/"
  | .doubled => "//"

def rootOf : List Char → Root
  | ['/', '/'] => .doubled
  | '/' :: '/' :: c :: _ => if c == '/' then .top else .doubled
  | '/' :: _ => .top
  | _ => .current

def stepsOf (cs : List Char) : List String :=
  ((Text.pieces (· == '/') cs).filter fun step => !step.isEmpty && step != ['.']).map
    String.ofList

def ofText (text : String) : Path :=
  ⟨rootOf text.toList, stepsOf text.toList⟩

/-- A path as text; the path without steps is a dot. -/
def text (p : Path) : String :=
  if p.root == .current && p.steps.isEmpty then "."
  else p.root.text ++ "/".intercalate p.steps

/-- Whether a path holds the character that no path may hold. -/
def hasNullCharacter (p : Path) : Bool :=
  p.steps.any fun step => step.toList.contains '\x00'

/-- Whether a path begins at the root. -/
def isAbsolute (p : Path) : Bool :=
  p.root != .current

/-- The second path as seen from the first one. -/
def join (base other : Path) : Path :=
  if other.isAbsolute then other else { base with steps := base.steps ++ other.steps }

/-- A path given as text, as seen from another one. -/
def joinText (base : Path) (other : String) : Path :=
  base.join (ofText other)

/-- The path without its last step; a path without steps is its own parent. -/
def parent (p : Path) : Path :=
  { p with steps := p.steps.dropLast }

/-- The last step of a path. -/
def name (p : Path) : String :=
  p.steps.getLast?.getD ""

/-- The steps that are left when every step to the parent takes away the one before it. -/
def cancelParents (steps : List String) : List String :=
  steps.foldl (fun done step => if step == parentStep then done.dropLast else done ++ [step]) []

/-- The absolute path that a path stands for, without steps to the parent, where `current` is the
absolute path of the current directory. -/
def absolute (current p : Path) : Path :=
  let whole := current.join p
  ⟨.top, cancelParents whole.steps⟩

/-- The absolute path that a path stands for has no steps to the parent. -/
theorem parentStep_notMem_absolute (current p : Path) :
    parentStep ∉ (absolute current p).steps := by
  have h : ∀ (steps done : List String), parentStep ∉ done →
      parentStep ∉ steps.foldl
        (fun done step => if step == parentStep then done.dropLast else done ++ [step]) done := by
    intro steps
    induction steps with
    | nil => exact fun _ h => h
    | cons step rest ih =>
      intro done hdone
      apply ih
      dsimp only
      split
      · exact fun hm => hdone (List.dropLast_subset done hm)
      · rename_i hs
        simp only [beq_iff_eq] at hs
        simp [hdone, Ne.symm hs]
  exact h _ [] (by simp)

end Path

end ProtocolBindings
