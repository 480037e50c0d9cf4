import Mathlib.Data.List.Basic
import ProtocolBindings.Text.Lowercase

/-!
# What lowercasing can produce

A character that changes goes to a small letter or beyond, so the signs and capitals of the basic
alphabet are never produced from other characters.  It goes to a character that does not change any
more, so a lowercased text is its own lowercase form.
-/

namespace ProtocolBindings.Text

variable {c d : Char} {cs : List Char}

def firstSmallLetter : Nat := 0x61

theorem lowercaseTable_shift : ∀ run ∈ lowercaseTable,
    (firstSmallLetter : Int) ≤ run.first + run.shift := by
  decide +kernel

/-- A run leaves a code point alone or moves it to a small letter or beyond. -/
theorem caseRun_apply_eq_or_le {runs : List CaseRun} {n : Nat}
    (h : ∀ run ∈ runs, (firstSmallLetter : Int) ≤ run.first + run.shift) :
    CaseRun.apply runs n = n ∨ firstSmallLetter ≤ CaseRun.apply runs n := by
  induction runs with
  | nil => exact Or.inl rfl
  | cons run runs ih =>
    rw [List.forall_mem_cons] at h
    rw [CaseRun.apply]
    split
    · exact Or.inl rfl
    · rename_i hfirst
      split
      · right
        have hshift := h.1
        omega
      · exact ih h.2

/-- A number that is no code point becomes the character zero. -/
theorem toNat_ofNat_eq_or_eq_zero (n : Nat) :
    (Char.ofNat n).toNat = n ∨ (Char.ofNat n).toNat = 0 := by
  by_cases hn : n.isValidChar
  · rw [Char.ofNat, dif_pos hn]
    exact Or.inl rfl
  · rw [Char.ofNat, dif_neg hn]
    exact Or.inr rfl

/-- Signs, digits and capitals of the basic alphabet are lowercase forms of themselves only. -/
theorem eq_of_lowerChar_eq (h : lowerChar c = d) (hpos : d.toNat ≠ 0)
    (hlt : d.toNat < firstSmallLetter) : c = d := by
  have hnat : (lowerChar c).toNat = d.toNat := congrArg Char.toNat h
  rw [lowerChar] at hnat
  rcases toNat_ofNat_eq_or_eq_zero (CaseRun.apply lowercaseTable c.toNat) with hn | hzero
  · rcases caseRun_apply_eq_or_le lowercaseTable_shift (n := c.toNat) with hsame | hmoved
    · apply Char.toNat_inj.1
      rw [← hnat, hn, hsame]
    · omega
  · omega

theorem mem_lowerFrom {before : List Char} (h : d ∈ lowerFrom before cs) :
    (∃ c ∈ cs, c ≠ 'İ' ∧ d = lowerChar c) ∨ d = 'ς' ∨ d = 'σ' ∨ d = 'i' ∨ d = '\u0307' := by
  induction cs generalizing before with
  | nil => simp [lowerFrom] at h
  | cons c cs ih =>
    rw [lowerFrom, List.mem_append] at h
    rcases h with h | h
    · split at h
      · split at h
        · exact Or.inr (Or.inl (by simpa using h))
        · exact Or.inr (Or.inr (Or.inl (by simpa using h)))
      · split at h
        · right; right; right
          simpa using h
        · rename_i hdotted
          exact Or.inl ⟨c, List.mem_cons_self, by simpa using hdotted, by simpa using h⟩
    · rcases ih h with ⟨x, hx, h⟩ | h
      · exact Or.inl ⟨x, List.mem_cons_of_mem _ hx, h⟩
      · exact Or.inr h

/-- Whatever holds of the small sigmas, of the letter and the dot that a dotted capital becomes,
and of every lowercase form, holds of all characters of a lowercased text. -/
theorem forall_mem_lowerChars {p : Char → Prop} (hspecial : p 'ς' ∧ p 'σ' ∧ p 'i' ∧ p '\u0307')
    (h : ∀ c ∈ cs, p (lowerChar c)) : ∀ d ∈ lowerChars cs, p d := by
  intro d hd
  rcases mem_lowerFrom hd with ⟨c, hc, -, rfl⟩ | rfl | rfl | rfl | rfl
  · exact h c hc
  · exact hspecial.1
  · exact hspecial.2.1
  · exact hspecial.2.2.1
  · exact hspecial.2.2.2

/-! ## Lowercase forms of lowercase forms -/

/-- Whether no run holds one of the code points from `first` to `last`, of which only those that
differ from `first` by an even number count if `alternating`.  The comparisons are those that the
kernel evaluates by itself, so that the whole table can be checked. -/
def CaseRun.avoid (first last : Nat) (alternating : Bool) : List CaseRun → Bool
  | [] => true
  | run :: rest =>
    Nat.blt last run.first ||
      ((Nat.blt run.last first ||
          (Nat.beq run.step 2 && alternating && !Nat.beq (first % 2) (run.first % 2))) &&
        CaseRun.avoid first last alternating rest)

theorem caseRun_apply_of_avoid {runs : List CaseRun} {first last n : Nat} {alternating : Bool}
    (h : CaseRun.avoid first last alternating runs) (hfirst : first ≤ n) (hlast : n ≤ last)
    (hparity : alternating → n % 2 = first % 2) : CaseRun.apply runs n = n := by
  induction runs with
  | nil => rfl
  | cons run runs ih =>
    rw [CaseRun.avoid, Bool.or_eq_true, Nat.blt_eq] at h
    rw [CaseRun.apply]
    by_cases hbelow : n < run.first
    · rw [if_pos hbelow]
    · obtain ⟨hrun, hrest⟩ : _ ∧ _ :=
        Bool.and_eq_true_iff.1 (h.resolve_left (fun hlt => hbelow (Nat.lt_of_le_of_lt hlast hlt)))
      have hout : (n ≤ run.last && (n - run.first) % run.step == 0) = false := by
        rw [Bool.or_eq_true, Nat.blt_eq] at hrun
        simp only [Bool.and_eq_false_iff, decide_eq_false_iff_not, beq_eq_false_iff_ne]
        rcases hrun with hrun | hrun
        · exact Or.inl (by omega)
        · right
          rw [Bool.and_eq_true, Bool.and_eq_true, Bool.not_eq_true', Nat.beq_eq] at hrun
          have hsame := hparity hrun.1.2
          have hother : first % 2 ≠ run.first % 2 := Nat.ne_of_beq_eq_false hrun.2
          rw [hrun.1.1]
          omega
      rw [if_neg hbelow, hout, if_neg Bool.false_ne_true]
      exact ih hrest

/-- The code points that a run moves go where no run moves them. -/
theorem lowercaseTable_avoid : lowercaseTable.all (fun run =>
    CaseRun.avoid (run.first + run.shift).toNat (run.last + run.shift).toNat
      (Nat.beq run.step 2 || Nat.beq run.first run.last) lowercaseTable) = true := by
  decide +kernel

theorem caseRun_apply_eq_or_exists (runs : List CaseRun) (n : Nat) :
    CaseRun.apply runs n = n ∨ ∃ run ∈ runs, run.first ≤ n ∧ n ≤ run.last ∧
      (n - run.first) % run.step = 0 ∧ CaseRun.apply runs n = (n + run.shift).toNat := by
  induction runs with
  | nil => exact Or.inl rfl
  | cons run runs ih =>
    rw [CaseRun.apply]
    split
    · exact Or.inl rfl
    · rename_i hfirst
      split
      · rename_i hin
        simp only [Bool.and_eq_true, decide_eq_true_eq, beq_iff_eq] at hin
        exact Or.inr ⟨run, List.mem_cons_self, Nat.not_lt.1 hfirst, hin.1, hin.2, rfl⟩
      · refine ih.imp_right ?_
        rintro ⟨other, hother, h⟩
        exact ⟨other, List.mem_cons_of_mem _ hother, h⟩

theorem caseRun_apply_apply (n : Nat) :
    CaseRun.apply lowercaseTable (CaseRun.apply lowercaseTable n) =
      CaseRun.apply lowercaseTable n := by
  rcases caseRun_apply_eq_or_exists lowercaseTable n with
    hsame | ⟨run, hrun, hfirst, hlast, hstep, heq⟩
  · rw [hsame, hsame]
  · have havoid := List.all_eq_true.1 lowercaseTable_avoid run hrun
    have hshift := lowercaseTable_shift run hrun
    rw [heq]
    refine caseRun_apply_of_avoid havoid (by omega) (by omega) ?_
    intro halternating
    rw [Bool.or_eq_true, Nat.beq_eq, Nat.beq_eq] at halternating
    rcases halternating with htwo | hsingle
    · rw [htwo] at hstep
      omega
    · have hn : n = run.first := by omega
      rw [hn]

theorem lowerChar_lowerChar (c : Char) : lowerChar (lowerChar c) = lowerChar c := by
  rcases toNat_ofNat_eq_or_eq_zero (CaseRun.apply lowercaseTable c.toNat) with hn | hzero
  · rw [lowerChar, lowerChar, hn, caseRun_apply_apply]
  · have hnull : lowerChar c = '\x00' := Char.toNat_inj.1 hzero
    rw [hnull]
    rfl

/-- Whether a character is its own lowercase form, whatever stands around it. -/
def IsLowercase (c : Char) : Prop :=
  lowerChar c = c ∧ c ≠ 'İ'

/-- No other character has the dotted capital as its lowercase form. -/
theorem isLowercase_lowerChar (h : c ≠ 'İ') : IsLowercase (lowerChar c) := by
  refine ⟨lowerChar_lowerChar c, ?_⟩
  intro hdotted
  have hnat : (lowerChar c).toNat = 0x130 := congrArg Char.toNat hdotted
  have happly : CaseRun.apply lowercaseTable c.toNat = 0x130 := by
    rcases toNat_ofNat_eq_or_eq_zero (CaseRun.apply lowercaseTable c.toNat) with hn | hzero
    · exact hn.symm.trans hnat
    · exact absurd (hzero.symm.trans hnat) (by decide)
  have hout : ∀ run ∈ lowercaseTable,
      run.last + run.shift < 0x130 ∨ (0x130 : Int) < run.first + run.shift := by
    decide +kernel
  rcases caseRun_apply_eq_or_exists lowercaseTable c.toNat with
    hsame | ⟨run, hrun, hfirst, hlast, -, heq⟩
  · exact h (Char.toNat_inj.1 (hsame.symm.trans happly))
  · have hrange := hout run hrun
    omega

/-- The characters of a lowercased text do not change any more. -/
theorem isLowercase_of_mem_lowerFrom {before : List Char} (h : d ∈ lowerFrom before cs) :
    IsLowercase d := by
  rcases mem_lowerFrom h with ⟨c, -, hc, rfl⟩ | rfl | rfl | rfl | rfl
  · exact isLowercase_lowerChar hc
  · exact ⟨by decide, by decide⟩
  · exact ⟨by decide, by decide⟩
  · exact ⟨by decide, by decide⟩
  · exact ⟨by decide, by decide⟩

/-- A text of such characters is left as it is. -/
theorem lowerFrom_of_isLowercase {before : List Char} (h : ∀ c ∈ cs, IsLowercase c) :
    lowerFrom before cs = cs := by
  induction cs generalizing before with
  | nil => rfl
  | cons c cs ih =>
    rw [List.forall_mem_cons] at h
    have hsigma : c ≠ 'Σ' := by
      rintro rfl
      exact absurd h.1.1 (by decide)
    rw [lowerFrom, ih h.2, beq_eq_false_iff_ne.2 hsigma, beq_eq_false_iff_ne.2 h.1.2, h.1.1]
    rfl

/-- A character with one lowercase form everywhere leaves it in the text. -/
theorem mem_lowerChars (h : c ∈ cs) (hsigma : c ≠ 'Σ') (hdotted : c ≠ 'İ') :
    lowerChar c ∈ lowerChars cs := by
  suffices hfrom : ∀ before, lowerChar c ∈ lowerFrom before cs from hfrom []
  induction cs with
  | nil => simp at h
  | cons x cs ih =>
    intro before
    rw [lowerFrom, List.mem_append]
    rcases List.mem_cons.1 h with rfl | h
    · left
      simp [hsigma, hdotted]
    · exact Or.inr (ih h _)

end ProtocolBindings.Text
