import Mathlib.Tactic.Tauto
import ProtocolBindings.Naming
import ProtocolBindings.Proofs.Text.Lowercase
import ProtocolBindings.Proofs.Text.Trim

/-!
# The characters of generated names

Joining the words of an identifier adds low lines and the letters of a final `id`, drops hyphens
and low lines, and leaves every other character in the name until it is lowercased.
-/

namespace ProtocolBindings.Naming

open Text (isBasicUpper isBasicLower isBasicDigit)

variable {cs run : List Char} {c : Char}

theorem mem_splitFinalId (h : c ∈ splitFinalId cs) : c ∈ cs ∨ c = '_' ∨ c = 'i' ∨ c = 'd' := by
  rw [splitFinalId] at h
  split at h
  · rename_i stem hstem
    rw [List.reverse_eq_cons_iff] at hstem
    rw [List.mem_append] at h
    rcases h with h | h
    · left
      simp [hstem, List.mem_reverse.1 h]
    · right
      simpa using h
  · exact Or.inl h

theorem mem_splitFinalId_of_mem (h : c ∈ cs) (hI : c ≠ 'I') (hD : c ≠ 'D') :
    c ∈ splitFinalId cs := by
  rw [splitFinalId]
  split
  · rename_i stem hstem
    rw [← List.mem_reverse, hstem] at h
    simp only [List.mem_cons, hI, hD, false_or] at h
    simp [h]
  · exact h

theorem mem_splitAcronymsFrom_iff (h : c ≠ '_') :
    c ∈ splitAcronymsFrom run cs ↔ c ∈ run ∨ c ∈ cs := by
  fun_induction splitAcronymsFrom run cs with
  | case1 run => simp
  | case2 run d rest hupper ih =>
    rw [ih, List.mem_cons, List.mem_cons]
    tauto
  | case3 d rest hupper last before others hlower ih =>
    simp only [List.reverse_cons, List.mem_append, List.mem_cons, List.mem_reverse, h, ih]
    tauto
  | case4 d rest hupper last before others hlower ih =>
    simp only [List.reverse_cons, List.mem_append, List.mem_cons, List.mem_reverse, ih]
    tauto
  | case5 run d rest hupper hshort ih => simp [ih]

theorem mem_splitWords_iff (h : c ≠ '_') : c ∈ splitWords cs ↔ c ∈ cs := by
  fun_induction splitWords cs with
  | case1 => simp
  | case2 a => simp
  | case3 a b rest hborder ih => simp [ih, h]
  | case4 a b rest hborder ih => simp [ih]

theorem mem_mergeLowLines_iff (h : c ≠ '_') : c ∈ mergeLowLines cs ↔ c ∈ cs := by
  fun_induction mergeLowLines cs with
  | case1 => simp
  | case2 d rest hlow ih =>
    simp only [Bool.and_eq_true, beq_iff_eq] at hlow
    simp [ih, hlow.1, h]
  | case3 d rest hlow ih => simp [ih]

theorem mem_replaceHyphens (h : c ∈ replaceHyphens cs) : c ∈ cs ∨ c = '_' := by
  obtain ⟨d, hd, rfl⟩ := List.mem_map.1 h
  split
  · exact Or.inr rfl
  · exact Or.inl hd

theorem mem_replaceHyphens_of_mem (h : c ∈ cs) (hhyphen : c ≠ '-') : c ∈ replaceHyphens cs := by
  refine List.mem_map.2 ⟨c, h, ?_⟩
  simp [hhyphen]

/-- The words of an identifier joined by low lines, before they are lowercased. -/
def joinedWords (cs : List Char) : List Char :=
  Text.trimWhile (· == '_')
    (mergeLowLines (replaceHyphens (splitWords (splitAcronyms (splitFinalId cs)))))

theorem underscoreChars_eq (cs : List Char) :
    underscoreChars cs = Text.lowerChars (joinedWords cs) := rfl

theorem mem_joinedWords (h : c ∈ joinedWords cs) : c ∈ cs ∨ c = '_' ∨ c = 'i' ∨ c = 'd' := by
  by_cases hlow : c = '_'
  · exact Or.inr (Or.inl hlow)
  · have h' := (mem_mergeLowLines_iff hlow).1 (Text.mem_trimWhile h)
    rcases mem_replaceHyphens h' with h' | h'
    · rw [mem_splitWords_iff hlow, splitAcronyms, mem_splitAcronymsFrom_iff hlow] at h'
      exact mem_splitFinalId (by simpa using h')
    · exact absurd h' hlow

theorem mem_joinedWords_of_mem (h : c ∈ cs) (hlow : c ≠ '_') (hhyphen : c ≠ '-') (hI : c ≠ 'I')
    (hD : c ≠ 'D') : c ∈ joinedWords cs := by
  refine Text.mem_trimWhile_of_mem ?_ (by simpa using hlow)
  rw [mem_mergeLowLines_iff hlow]
  refine mem_replaceHyphens_of_mem ?_ hhyphen
  rw [mem_splitWords_iff hlow, splitAcronyms, mem_splitAcronymsFrom_iff hlow]
  exact Or.inr (mem_splitFinalId_of_mem h hI hD)

/-- A property of all characters of an identifier goes over to its name if lowercasing keeps it
and the characters that are put in have it. -/
theorem forall_mem_underscoreChars {p : Char → Prop} (hlower : ∀ c, p c → p (Text.lowerChar c))
    (hlow : p '_') (hi : p 'i') (hd : p 'd') (hspecial : p 'ς' ∧ p 'σ' ∧ p '\u0307')
    (h : ∀ c ∈ cs, p c) : ∀ c ∈ underscoreChars cs, p c := by
  rw [underscoreChars_eq]
  refine Text.forall_mem_lowerChars ⟨hspecial.1, hspecial.2.1, hi, hspecial.2.2⟩ ?_
  intro c hc
  apply hlower
  rcases mem_joinedWords hc with hc | rfl | rfl | rfl
  · exact h c hc
  · exact hlow
  · exact hi
  · exact hd

/-- A low line is lowercased to itself, and no other character to a text with one. -/
theorem exists_lowerFrom_cons (before : List Char) (c : Char) (cs : List Char) :
    ∃ front, Text.lowerFrom before (c :: cs) = front ++ Text.lowerFrom (c :: before) cs ∧
      front ≠ [] ∧ (c = '_' ∧ front = ['_'] ∨ '_' ∉ front) := by
  refine ⟨_, by rw [Text.lowerFrom], ?_⟩
  by_cases hlow : c = '_'
  · subst hlow
    exact ⟨List.cons_ne_nil _ _, Or.inl ⟨rfl, rfl⟩⟩
  · have hlower : '_' ≠ Text.lowerChar c := by
      intro heq
      exact hlow (Text.eq_of_lowerChar_eq heq.symm (by decide) (by decide))
    split
    · split <;> simp
    · split
      · simp
      · exact ⟨List.cons_ne_nil _ _, Or.inr (by simpa using hlower)⟩

/-- Lowercasing makes no low line of the first character. -/
theorem head?_lowerFrom_ne {before : List Char} (h : cs.head? ≠ some '_') :
    (Text.lowerFrom before cs).head? ≠ some '_' := by
  cases cs with
  | nil => simp [Text.lowerFrom]
  | cons first rest =>
    obtain ⟨front, heq, hne, hfront⟩ := exists_lowerFrom_cons before first rest
    rw [heq, List.head?_append_of_ne_nil _ hne]
    intro hhead
    rcases hfront with ⟨rfl, -⟩ | hfront
    · exact h rfl
    · exact hfront (List.mem_of_head? hhead)

/-- The words of an identifier are joined without a low line in front. -/
theorem head?_underscoreChars_ne (cs : List Char) : (underscoreChars cs).head? ≠ some '_' := by
  rw [underscoreChars_eq]
  apply head?_lowerFrom_ne
  intro hhead
  have hnot := Text.not_of_head?_trimWhile hhead
  simp at hnot

end ProtocolBindings.Naming
