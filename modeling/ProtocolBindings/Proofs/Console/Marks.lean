import Mathlib.Data.List.Basic
import ProtocolBindings.Console.Message

/-!
# Marks

A console may take some characters for something else than themselves: what begins a tag, what
hides one, what names an emoji, and what it does not show at all.  Each pass over a message leaves
it as it is or takes such marks away.  So a message that is shown with all its marks was left as it
is by every pass.
-/

namespace ProtocolBindings.Console

/-- The characters that a console may take for something else than themselves. -/
def isMark (c : Char) : Bool :=
  c == '[' || c == '\\' || c == ':' || Markup.isControl c

/-- How many marks a text holds. -/
def marks (cs : List Char) : Nat :=
  cs.countP isMark

/-- A pass over a text leaves it as it is, or it takes marks away. -/
def Loses (before after : List Char) : Prop :=
  after = before ∨ marks after < marks before

variable {c : Char} {cs cs' before before' after after' : List Char}

@[simp]
theorem marks_append (cs cs' : List Char) : marks (cs ++ cs') = marks cs + marks cs' :=
  List.countP_append

theorem marks_cons (c : Char) (cs : List Char) :
    marks (c :: cs) = marks cs + if isMark c then 1 else 0 :=
  List.countP_cons

theorem marks_cons_of_isMark (h : isMark c = true) (cs : List Char) :
    marks (c :: cs) = marks cs + 1 := by
  rw [marks_cons, if_pos h]

theorem marks_replicate (h : isMark c = true) (n : Nat) : marks (List.replicate n c) = n := by
  rw [marks, List.countP_replicate, if_pos h]

namespace Loses

theorem refl (cs : List Char) : Loses cs cs :=
  Or.inl rfl

theorem le (h : Loses before after) : marks after ≤ marks before := by
  rcases h with rfl | hlt
  · exact Nat.le_refl _
  · exact Nat.le_of_lt hlt

/-- A pass that has taken no marks away has left the text as it is. -/
theorem eq_of_le (h : Loses before after) (hle : marks before ≤ marks after) : after = before :=
  h.resolve_right (Nat.not_lt.2 hle)

theorem trans (h : Loses before cs) (h' : Loses cs after) : Loses before after := by
  rcases h with rfl | hlt
  · exact h'
  · exact Or.inr (Nat.lt_of_le_of_lt h'.le hlt)

theorem append (h : Loses before after) (h' : Loses before' after') :
    Loses (before ++ before') (after ++ after') := by
  rcases h with rfl | hlt
  · rcases h' with rfl | hlt'
    · exact refl _
    · refine Or.inr ?_
      rw [marks_append, marks_append]
      exact Nat.add_lt_add_left hlt' _
  · refine Or.inr ?_
    rw [marks_append, marks_append]
    exact Nat.add_lt_add_of_lt_of_le hlt h'.le

theorem cons (c : Char) (h : Loses before after) : Loses (c :: before) (c :: after) :=
  (refl [c]).append h

end Loses

end ProtocolBindings.Console
