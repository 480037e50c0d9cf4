import Mathlib.Data.List.Chain
import ProtocolBindings.Proofs.Naming.Separation

/-!
# The normal form of names

Joining the words of an identifier leaves low lines only one by one between other characters.
Lowercasing, which comes last and looks at the characters around, adds no low line, and nothing is
left to do in a text of this form.
-/

namespace ProtocolBindings.Naming

open Text (isBasicUpper isBasicLower isBasicDigit)

variable {cs before : List Char} {c : Char}

/-- Whether no low line stands behind another one. -/
def HasNoRepeatedLowLine (cs : List Char) : Prop :=
  cs.IsChain fun a b => ¬(a = '_' ∧ b = '_')

/-- Whether a text has no capitals of the basic alphabet, no hyphens, and low lines only one by one
between other characters. -/
structure IsNormal (cs : List Char) : Prop where
  noCapital : ∀ c ∈ cs, ¬('A' ≤ c ∧ c ≤ 'Z')
  noHyphen : '-' ∉ cs
  noRepeatedLowLine : HasNoRepeatedLowLine cs
  noLowLineInFront : cs.head? ≠ some '_'
  noLowLineAtEnd : cs.getLast? ≠ some '_'

/-! ## Joined words -/

theorem head?_mergeLowLines (cs : List Char) : (mergeLowLines cs).head? = cs.head? := by
  fun_induction mergeLowLines cs with
  | case1 => rfl
  | case2 c rest hlow ih =>
    simp only [Bool.and_eq_true, beq_iff_eq] at hlow
    rw [ih, hlow.2, List.head?_cons, hlow.1]
  | case3 c rest hlow ih => rfl

theorem hasNoRepeatedLowLine_mergeLowLines (cs : List Char) :
    HasNoRepeatedLowLine (mergeLowLines cs) := by
  fun_induction mergeLowLines cs with
  | case1 => exact .nil
  | case2 c rest hlow ih => exact ih
  | case3 c rest hlow ih =>
    refine List.isChain_cons.2 ⟨?_, ih⟩
    rintro d hd ⟨rfl, rfl⟩
    rw [head?_mergeLowLines] at hd
    simp [Option.mem_def.1 hd] at hlow

theorem hyphen_notMem_joinedWords (cs : List Char) : '-' ∉ joinedWords cs := by
  intro h
  have hreplaced := (mem_mergeLowLines_iff (by decide)).1 (Text.mem_trimWhile h)
  obtain ⟨c, -, hc⟩ := List.mem_map.1 hreplaced
  split at hc
  · exact absurd hc (by decide)
  · rename_i hhyphen
    exact hhyphen (beq_iff_eq.2 hc)

/-! ## Lowercased words -/

theorem hasNoRepeatedLowLine_lowerFrom (h : HasNoRepeatedLowLine cs) :
    HasNoRepeatedLowLine (Text.lowerFrom before cs) := by
  induction cs generalizing before with
  | nil => exact .nil
  | cons c cs ih =>
    obtain ⟨hnext, hrest⟩ := List.isChain_cons.1 h
    obtain ⟨front, heq, -, ⟨rfl, rfl⟩ | hfront⟩ := exists_lowerFrom_cons before c cs
    · rw [heq]
      refine List.isChain_cons.2 ⟨?_, ih hrest⟩
      rintro d hd ⟨-, rfl⟩
      refine head?_lowerFrom_ne ?_ hd
      intro hhead
      exact hnext '_' hhead ⟨rfl, rfl⟩
    · rw [heq]
      refine List.isChain_append.2 ⟨?_, ih hrest, ?_⟩
      · apply List.Pairwise.isChain
        apply List.pairwise_of_forall_mem_list
        rintro a ha b - ⟨rfl, -⟩
        exact hfront ha
      · rintro a ha b - ⟨rfl, -⟩
        exact hfront (List.mem_of_getLast? ha)

theorem lowerFrom_ne_nil (h : cs ≠ []) : Text.lowerFrom before cs ≠ [] := by
  obtain ⟨c, cs, rfl⟩ := List.exists_cons_of_ne_nil h
  obtain ⟨front, heq, hne, -⟩ := exists_lowerFrom_cons before c cs
  rw [heq]
  exact List.append_ne_nil_of_left_ne_nil hne _

theorem getLast?_lowerFrom_ne (h : cs.getLast? ≠ some '_') :
    (Text.lowerFrom before cs).getLast? ≠ some '_' := by
  induction cs generalizing before with
  | nil => simp [Text.lowerFrom]
  | cons c cs ih =>
    obtain ⟨front, heq, -, hfront⟩ := exists_lowerFrom_cons before c cs
    by_cases hcs : cs = []
    · subst hcs
      rw [heq, Text.lowerFrom, List.append_nil]
      intro hlast
      rcases hfront with ⟨rfl, -⟩ | hfront
      · exact h rfl
      · exact hfront (List.mem_of_getLast? hlast)
    · rw [heq, List.getLast?_append_of_ne_nil _ (lowerFrom_ne_nil hcs)]
      apply ih
      rwa [List.getLast?_cons_of_ne_nil hcs] at h

/-- No capital of the basic alphabet is its own lowercase form. -/
theorem not_capital_of_isLowercase (h : Text.IsLowercase c) : ¬('A' ≤ c ∧ c ≤ 'Z') := by
  intro hcapital
  obtain ⟨hfirst, hlast⟩ : 65 ≤ c.toNat ∧ c.toNat ≤ 90 := hcapital
  have hmoved : ∀ n ≤ 90, 65 ≤ n → Text.CaseRun.apply Text.lowercaseTable n ≠ n := by
    decide
  have hsame : (Text.lowerChar c).toNat = c.toNat := congrArg Char.toNat h.1
  rw [Text.lowerChar] at hsame
  rcases Text.toNat_ofNat_eq_or_eq_zero (Text.CaseRun.apply Text.lowercaseTable c.toNat) with
    hn | hzero
  · exact hmoved c.toNat hlast hfirst (hn.symm.trans hsame)
  · omega

theorem isNormal_underscoreChars (cs : List Char) : IsNormal (underscoreChars cs) := by
  rw [underscoreChars_eq]
  refine ⟨?_, ?_, ?_, ?_, ?_⟩
  · intro c hc
    exact not_capital_of_isLowercase (Text.isLowercase_of_mem_lowerFrom hc)
  · intro h
    rcases Text.mem_lowerFrom h with ⟨c, hc, -, hlower⟩ | h
    · have hsame := Text.eq_of_lowerChar_eq hlower.symm (by decide) (by decide)
      exact hyphen_notMem_joinedWords _ (hsame ▸ hc)
    · exact absurd h (by decide)
  · apply hasNoRepeatedLowLine_lowerFrom
    exact List.IsChain.infix (hasNoRepeatedLowLine_mergeLowLines _) (Text.trimWhile_isInfix _ _)
  · apply head?_lowerFrom_ne
    intro hhead
    exact absurd (Text.not_of_head?_trimWhile hhead) (by decide)
  · apply getLast?_lowerFrom_ne
    intro hlast
    exact absurd (Text.not_of_getLast?_trimWhile hlast) (by decide)

/-! ## Texts in normal form -/

theorem IsNormal.isBasicUpper_eq_false (h : IsNormal cs) (hc : c ∈ cs) :
    isBasicUpper c = false := by
  have hcapital := h.noCapital c hc
  simpa [isBasicUpper] using hcapital

theorem separateWhere_eq_self {starts : Option Char → Char → Option Char → Bool}
    {previous : Option Char} (h : ∀ c ∈ cs, ∀ previous next, starts previous c next = false) :
    separateWhere starts previous cs = cs := by
  induction cs generalizing previous with
  | nil => rfl
  | cons c cs ih =>
    rw [List.forall_mem_cons] at h
    rw [separateWhere, h.1, ih h.2]
    rfl

theorem splitFinalId_of_isNormal (h : IsNormal cs) : splitFinalId cs = cs := by
  rw [splitFinalId_eq, markedId, if_neg]
  intro hsuffix
  exact h.noCapital 'D' (hsuffix.subset (by decide)) (by decide)

theorem splitWords_splitAcronyms_of_isNormal (h : IsNormal cs) :
    splitWords (splitAcronyms cs) = cs := by
  rw [splitWords_eq, splitAcronyms_eq, separateWhere_followsWord_followsAcronym]
  apply separateWhere_eq_self
  intro c hc previous next
  simp [beginsWord, followsWord, followsAcronym, h.isBasicUpper_eq_false hc]

theorem replaceHyphens_of_notMem (h : '-' ∉ cs) : replaceHyphens cs = cs := by
  rw [replaceHyphens, List.map_congr_left, List.map_id]
  intro c hc
  rw [if_neg, id]
  intro hhyphen
  exact h (beq_iff_eq.1 hhyphen ▸ hc)

theorem mergeLowLines_of_hasNoRepeatedLowLine (h : HasNoRepeatedLowLine cs) :
    mergeLowLines cs = cs := by
  induction cs with
  | nil => rfl
  | cons c cs ih =>
    obtain ⟨hnext, hrest⟩ := List.isChain_cons.1 h
    rw [mergeLowLines, ih hrest, if_neg]
    intro hlow
    simp only [Bool.and_eq_true, beq_iff_eq] at hlow
    exact hnext '_' hlow.2 ⟨hlow.1, rfl⟩

/-- A lowercase text in normal form has no words left to join. -/
theorem underscoreChars_of_isNormal (h : IsNormal cs) (hlower : ∀ c ∈ cs, Text.IsLowercase c) :
    underscoreChars cs = cs := by
  have hends : Text.trimWhile (· == '_') cs = cs := by
    apply Text.trimWhile_of_ends
    · intro c hc
      rw [beq_eq_false_iff_ne]
      rintro rfl
      exact h.noLowLineInFront hc
    · intro c hc
      rw [beq_eq_false_iff_ne]
      rintro rfl
      exact h.noLowLineAtEnd hc
  rw [underscoreChars, splitFinalId_of_isNormal h, splitWords_splitAcronyms_of_isNormal h,
    replaceHyphens_of_notMem h.noHyphen,
    mergeLowLines_of_hasNoRepeatedLowLine h.noRepeatedLowLine, hends]
  exact Text.lowerFrom_of_isLowercase hlower

/-- The names of identifiers are in normal form, and joining the words of such a name gives the
name. -/
theorem isNormal_underscore (name : String) :
    IsNormal (underscore name).toList ∧ underscore (underscore name) = underscore name := by
  have hchars : (underscore name).toList = underscoreChars name.toList := String.toList_ofList
  have hnormal := isNormal_underscoreChars name.toList
  refine ⟨hchars ▸ hnormal, ?_⟩
  rw [underscore, hchars, underscoreChars_of_isNormal hnormal, underscore]
  intro c hc
  exact Text.isLowercase_of_mem_lowerFrom hc

end ProtocolBindings.Naming
