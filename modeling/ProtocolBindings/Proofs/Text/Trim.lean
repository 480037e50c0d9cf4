import Mathlib.Data.List.DropRight
import ProtocolBindings.Text.Blank

/-!
# The ends of a text

Cutting characters from the ends of a text takes no other characters away, leaves none of them at an
end, and leaves a text alone that has none of them there.
-/

namespace ProtocolBindings.Text

variable {p : Char → Bool} {cs : List Char} {c : Char}

theorem dropWhile_of_head? (h : ∀ c, cs.head? = some c → p c = false) : cs.dropWhile p = cs := by
  cases cs with
  | nil => rfl
  | cons c cs => rw [List.dropWhile_cons, h c rfl, if_neg Bool.false_ne_true]

theorem mem_dropWhile_of_mem (h : c ∈ cs) (hp : p c = false) : c ∈ cs.dropWhile p := by
  induction cs with
  | nil => exact h
  | cons d cs ih =>
    rw [List.dropWhile_cons]
    split
    · rename_i hd
      rcases List.mem_cons.1 h with rfl | h
      · exact absurd (hd.symm.trans hp) (by decide)
      · exact ih h
    · exact h

/-! ## The end -/

theorem trimEndWhile_isPrefix (p : Char → Bool) (cs : List Char) : trimEndWhile p cs <+: cs :=
  List.rdropWhile_prefix p cs

/-- All that is cut from the end of a text satisfies the condition. -/
theorem exists_trimEndWhile_append (p : Char → Bool) (cs : List Char) :
    ∃ tail, trimEndWhile p cs ++ tail = cs ∧ ∀ c ∈ tail, p c = true := by
  refine ⟨(cs.reverse.takeWhile p).reverse, ?_, fun c hc => ?_⟩
  · rw [trimEndWhile, ← List.reverse_append, List.takeWhile_append_dropWhile, List.reverse_reverse]
  · exact List.mem_takeWhile_imp (List.mem_reverse.1 hc)

/-- What is cut from the end of a text is not at the end of the rest. -/
theorem not_of_getLast?_trimEndWhile (h : (trimEndWhile p cs).getLast? = some c) :
    p c = false := by
  rw [trimEndWhile, List.getLast?_reverse] at h
  have hnot := List.head?_dropWhile_not p cs.reverse
  rw [h] at hnot
  exact hnot

theorem trimEndWhile_of_getLast? (h : ∀ c, cs.getLast? = some c → p c = false) :
    trimEndWhile p cs = cs := by
  rw [trimEndWhile, dropWhile_of_head?, List.reverse_reverse]
  intro c hc
  rw [List.head?_reverse] at hc
  exact h c hc

/-- A first character that is not cut stays the first one. -/
theorem head?_trimEndWhile (h : cs.head? = some c) (hp : p c = false) :
    (trimEndWhile p cs).head? = some c := by
  have hmem : c ∈ trimEndWhile p cs := by
    rw [trimEndWhile, List.mem_reverse]
    exact mem_dropWhile_of_mem (List.mem_reverse.2 (List.mem_of_head? h)) hp
  obtain ⟨rest, hrest⟩ := trimEndWhile_isPrefix p cs
  rw [← hrest, List.head?_append_of_ne_nil _ (List.ne_nil_of_mem hmem)] at h
  exact h

/-! ## Both ends -/

theorem trimWhile_isInfix (p : Char → Bool) (cs : List Char) : trimWhile p cs <:+: cs :=
  (trimEndWhile_isPrefix p _).isInfix.trans (List.dropWhile_suffix p).isInfix

theorem mem_trimWhile (h : c ∈ trimWhile p cs) : c ∈ cs :=
  (trimWhile_isInfix p cs).subset h

theorem mem_trimWhile_of_mem (h : c ∈ cs) (hp : p c = false) : c ∈ trimWhile p cs := by
  rw [trimWhile, trimEndWhile, List.mem_reverse]
  exact mem_dropWhile_of_mem (List.mem_reverse.2 (mem_dropWhile_of_mem h hp)) hp

/-- What is cut from both ends of a text is not in front of the rest. -/
theorem not_of_head?_trimWhile (h : (trimWhile p cs).head? = some c) : p c = false := by
  have hhead : (cs.dropWhile p).head? = some c := by
    obtain ⟨rest, hrest⟩ := List.head?_eq_some_iff.1 h
    obtain ⟨behind, hbehind⟩ := trimEndWhile_isPrefix p (cs.dropWhile p)
    rw [trimWhile] at hrest
    rw [← hbehind, hrest]
    rfl
  have hnot := List.head?_dropWhile_not p cs
  rw [hhead] at hnot
  exact hnot

/-- What is cut from both ends of a text is not at the end of the rest. -/
theorem not_of_getLast?_trimWhile (h : (trimWhile p cs).getLast? = some c) : p c = false :=
  not_of_getLast?_trimEndWhile h

theorem trimWhile_of_ends (hfront : ∀ c, cs.head? = some c → p c = false)
    (hback : ∀ c, cs.getLast? = some c → p c = false) : trimWhile p cs = cs := by
  rw [trimWhile, dropWhile_of_head? hfront, trimEndWhile_of_getLast? hback]

/-- Nothing is left of a text only if all of it is cut. -/
theorem trimWhile_eq_nil_iff : trimWhile p cs = [] ↔ ∀ c ∈ cs, p c = true := by
  constructor
  · intro h c hc
    by_contra hp
    have hmem := mem_trimWhile_of_mem hc (Bool.eq_false_iff.2 hp)
    rw [h] at hmem
    cases hmem
  · intro h
    rw [List.eq_nil_iff_forall_not_mem]
    intro c hc
    have hne := List.ne_nil_of_mem hc
    have hfirst := not_of_head?_trimWhile (List.head?_eq_some_head hne)
    rw [h _ (mem_trimWhile (List.head_mem hne))] at hfirst
    cases hfirst

end ProtocolBindings.Text
