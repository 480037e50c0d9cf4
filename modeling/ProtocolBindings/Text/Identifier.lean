import ProtocolBindings.Text.Identifier.Table

/-!
# Identifiers

An identifier is a letter-like character (`XID_Start`) or a low line, followed by any number of
characters that may continue a word (`XID_Continue`).  The text is taken as it stands: no
normalisation form is applied first.
-/

namespace ProtocolBindings.Text

/-- The characters that may begin an identifier. -/
def isIdentifierStart (c : Char) : Bool :=
  c == '_' || identifierStartTable.contains c.toNat

/-- The characters that may follow the first one. -/
def isIdentifierContinue (c : Char) : Bool :=
  identifierStartTable.contains c.toNat || identifierExtendTable.contains c.toNat

/-- Whether a sequence of characters is an identifier; the empty one is not. -/
def isIdentifierChars : List Char → Bool
  | [] => false
  | c :: rest => isIdentifierStart c && rest.all isIdentifierContinue

def isIdentifier (text : String) : Bool :=
  isIdentifierChars text.toList

theorem isIdentifierContinue_of_start {c : Char} (h : isIdentifierStart c) :
    isIdentifierContinue c := by
  simp only [isIdentifierStart, Bool.or_eq_true, beq_iff_eq] at h
  rcases h with rfl | h
  · decide
  · simp [isIdentifierContinue, h]

/-- Every character of an identifier may continue one. -/
theorem all_continue_of_isIdentifierChars {cs : List Char} (h : isIdentifierChars cs) :
    ∀ c ∈ cs, isIdentifierContinue c := by
  cases cs with
  | nil => simp
  | cons c rest =>
    simp only [isIdentifierChars, Bool.and_eq_true, List.all_eq_true] at h
    intro x hx
    rcases List.mem_cons.1 hx with rfl | hx
    · exact isIdentifierContinue_of_start h.1
    · exact h.2 x hx

end ProtocolBindings.Text
