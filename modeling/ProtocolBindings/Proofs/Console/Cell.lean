import Mathlib.Algebra.Ring.Nat
import ProtocolBindings.Console.Cell

/-!
# Cells of joined texts

A text takes at least the cells of its front, and at least those of its two parts together if the
first one does not end in a joiner.
-/

namespace ProtocolBindings.Cell

variable {widens : Bool} {c joined : Char} {cs rest front back : List Char} {cluster : Cluster}

/-! ## Clusters -/

/-- What belongs to the character in front of it adds a cell at most. -/
theorem width_split_le (widens : Bool) (cs : List Char) :
    (split widens cs).1.width ≤ if widens then 1 else 0 := by
  fun_induction split widens cs <;> simp_all

/-- A cluster of more than one cell does not begin with a space. -/
theorem of_mem_split (h : cluster ∈ (split widens cs).2) :
    cluster.chars ≠ [] ∧ (1 < cluster.width → cluster.chars.head? ≠ some ' ') := by
  fun_induction split widens cs with
  | case1 => cases h
  | case2 => cases h
  | case3 => simp_all
  | case4 => simp_all
  | case5 => simp_all
  | case6 widens c rest _ _ _ attached clusters hsplit ih =>
    rcases List.mem_cons.1 h with rfl | hmem
    · refine ⟨List.cons_ne_nil _ _, fun hwide hhead => ?_⟩
      obtain rfl : c = ' ' := Option.some.inj hhead
      have hspace : width ' ' = 1 ∧ variableTable.contains ' '.toNat = false := by
        decide
      have hle := width_split_le (variableTable.contains ' '.toNat) rest
      rw [hsplit, hspace.2] at hle
      change 1 < width ' ' + attached.width at hwide
      change attached.width ≤ 0 at hle
      omega
    · exact ih (by rwa [hsplit])

theorem clusters_eq (cs : List Char) : clusters cs =
    if (split false cs).1.chars.isEmpty then (split false cs).2
    else (split false cs).1 :: (split false cs).2 :=
  rfl

theorem of_mem_clusters (h : cluster ∈ clusters cs) :
    cluster.chars ≠ [] ∧ (1 < cluster.width → cluster.chars.head? ≠ some ' ') := by
  rw [clusters_eq] at h
  split at h
  · exact of_mem_split h
  · rename_i hattached
    rcases List.mem_cons.1 h with rfl | hmem
    · refine ⟨by simpa using hattached, fun hwide => ?_⟩
      have hle : (split false cs).1.width ≤ 0 := width_split_le false cs
      omega
    · exact of_mem_split hmem

/-! ## Cells -/

/-- How many cells a text adds to what is in front of it. -/
def added (widens : Bool) (cs : List Char) : Nat :=
  (split widens cs).1.width + ((split widens cs).2.map (·.width)).sum

theorem count_eq_sum (cs : List Char) : count cs = ((clusters cs).map (·.width)).sum := by
  have hsum (clusters : List Cluster) (n : Nat) :
      clusters.foldl (fun n cluster => n + cluster.width) n =
        n + (clusters.map (·.width)).sum := by
    induction clusters generalizing n with
    | nil => rfl
    | cons cluster rest ih =>
      rw [List.foldl_cons, ih, List.map_cons, List.sum_cons, Nat.add_assoc]
  rw [count, hsum, Nat.zero_add]

theorem count_eq_added (cs : List Char) : count cs = added false cs := by
  have hnone : (split false cs).1.width = 0 := Nat.le_zero.1 (width_split_le false cs)
  rw [count_eq_sum, clusters_eq, added, hnone, Nat.zero_add]
  split
  · rfl
  · rw [List.map_cons, List.sum_cons, hnone, Nat.zero_add]

theorem added_lone_joiner (hc : (c == joiner) = true) : added widens [c] = 0 := by
  simp [added, split, hc]

theorem added_joiner (hc : (c == joiner) = true) :
    added widens (c :: joined :: rest) = added widens rest := by
  simp [added, split, hc]

theorem added_selector (hne : ¬(c == joiner) = true) (hc : (c == emojiSelector) = true) :
    added widens (c :: rest) = added false rest + if widens then 1 else 0 := by
  rw [added, split.eq_def]
  simp only [hne, hc, if_true]
  rw [added, Nat.add_right_comm]
  rfl

theorem added_zero (hne : ¬(c == joiner) = true) (hne' : ¬(c == emojiSelector) = true)
    (hc : (width c == 0) = true) : added widens (c :: rest) = added widens rest := by
  rw [added, split.eq_def]
  simp only [hne, hne', hc, if_true]
  rfl

theorem added_cons (hne : ¬(c == joiner) = true) (hne' : ¬(c == emojiSelector) = true)
    (hc : ¬(width c == 0) = true) :
    added widens (c :: rest) = width c + added (variableTable.contains c.toNat) rest := by
  rw [added, split.eq_def]
  simp only [hne, hne', hc]
  simp [added, Nat.add_assoc]

theorem added_false_le (widens : Bool) (cs : List Char) : added false cs ≤ added widens cs := by
  fun_induction split widens cs with
  | case1 => exact Nat.le_refl _
  | case2 widens c hc => rw [added_lone_joiner hc, added_lone_joiner hc]
  | case3 widens c hc joined rest _ _ _ ih => rwa [added_joiner hc, added_joiner hc]
  | case4 widens c rest hne hc _ _ _ _ =>
    rw [added_selector hne hc, added_selector hne hc]
    exact Nat.add_le_add_left (Nat.zero_le _) _
  | case5 widens c rest hne hne' hc _ _ _ ih => rwa [added_zero hne hne' hc, added_zero hne hne' hc]
  | case6 widens c rest hne hne' hc _ _ _ _ =>
    rw [added_cons hne hne' hc, added_cons hne hne' hc]

/-- A text takes at least the cells of its front. -/
theorem added_le_append (widens : Bool) (front back : List Char) :
    added widens front ≤ added widens (front ++ back) := by
  fun_induction split widens front with
  | case1 => exact Nat.zero_le _
  | case2 widens c hc =>
    rw [added_lone_joiner hc]
    exact Nat.zero_le _
  | case3 widens c hc joined rest _ _ _ ih =>
    rwa [List.cons_append, List.cons_append, added_joiner hc, added_joiner hc]
  | case4 widens c rest hne hc _ _ _ ih =>
    rw [List.cons_append, added_selector hne hc, added_selector hne hc]
    exact Nat.add_le_add_right ih _
  | case5 widens c rest hne hne' hc _ _ _ ih =>
    rwa [List.cons_append, added_zero hne hne' hc, added_zero hne hne' hc]
  | case6 widens c rest hne hne' hc _ _ _ ih =>
    rw [List.cons_append, added_cons hne hne' hc, added_cons hne hne' hc]
    exact Nat.add_le_add_left ih _

/-- Only a joiner at the end of the front can take up what follows it. -/
theorem added_add_le (hlast : front.getLast? ≠ some joiner) (widens : Bool) (back : List Char) :
    added widens front + added false back ≤ added widens (front ++ back) := by
  have hrest {c : Char} {rest : List Char} (h : (c :: rest).getLast? ≠ some joiner) :
      rest.getLast? ≠ some joiner := by
    intro heq
    rw [List.getLast?_cons, heq] at h
    exact h rfl
  fun_induction split widens front with
  | case1 widens =>
    have hnil : added widens [] = 0 := rfl
    rw [hnil, Nat.zero_add]
    exact added_false_le widens back
  | case2 widens c hc => exact absurd (by rw [eq_of_beq hc]; rfl) hlast
  | case3 widens c hc joined rest _ _ _ ih =>
    rw [List.cons_append, List.cons_append, added_joiner hc, added_joiner hc]
    exact ih (hrest (hrest hlast))
  | case4 widens c rest hne hc _ _ _ ih =>
    rw [List.cons_append, added_selector hne hc, added_selector hne hc, Nat.add_right_comm]
    exact Nat.add_le_add_right (ih (hrest hlast)) _
  | case5 widens c rest hne hne' hc _ _ _ ih =>
    rw [List.cons_append, added_zero hne hne' hc, added_zero hne hne' hc]
    exact ih (hrest hlast)
  | case6 widens c rest hne hne' hc _ _ _ ih =>
    rw [List.cons_append, added_cons hne hne' hc, added_cons hne hne' hc, Nat.add_assoc]
    exact Nat.add_le_add_left (ih (hrest hlast)) _

theorem count_le_append (front back : List Char) : count front ≤ count (front ++ back) := by
  rw [count_eq_added, count_eq_added]
  exact added_le_append false front back

theorem count_add_le (hlast : front.getLast? ≠ some joiner) (back : List Char) :
    count front + count back ≤ count (front ++ back) := by
  rw [count_eq_added, count_eq_added, count_eq_added]
  exact added_add_le hlast false back

end ProtocolBindings.Cell
