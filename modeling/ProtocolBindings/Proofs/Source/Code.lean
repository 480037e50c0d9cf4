import ProtocolBindings.Proofs.Entries
import ProtocolBindings.Proofs.Naming.Characters
import ProtocolBindings.Proofs.Source.Lexical
import ProtocolBindings.Proofs.Text.Lines
import ProtocolBindings.Source.Module

/-!
# Generated text that is code

Names and hints are plain texts, which open and close nothing; wherever the protocol's own texts
are needed in code, they stand escaped in literals.  So records and signatures hold no comment
and no docstring, whatever they are made from.
-/

namespace ProtocolBindings

namespace Lexical

open Text (isBasicUpper isBasicLower isWordCharacter)

/-- A text of plain characters. -/
def IsPlain (text : String) : Prop :=
  ∀ c ∈ text.toList, isPlain c

/-- A text that is code throughout. -/
def IsCode (text : String) : Prop :=
  Code text.toList

instance (text : String) : Decidable (IsPlain text) :=
  decidable_of_iff (text.toList.all isPlain = true) List.all_eq_true

variable {a b : String} {c : Char} {texts : List String}

/-- A text that is spelled out is evaluated faster than one that has to be taken apart. -/
theorem isPlain_ofList {cs : List Char} (h : cs.all isPlain = true) :
    IsPlain (String.ofList cs) := by
  intro c hc
  rw [String.toList_ofList] at hc
  exact List.all_eq_true.1 h c hc

/-- The characters that are not plain. -/
def marks : List Char := ['"', '#', '\\', '\n', '\r']

theorem isPlain_iff : isPlain c ↔ c ∉ marks := by
  simp [isPlain, isLineEnd, marks, and_assoc]

/-- A test that every mark fails is passed by plain characters only. -/
theorem isPlain_of_test {p : Char → Bool} (hp : marks.any p = false) (h : p c) :
    isPlain c := by
  rw [isPlain_iff]
  intro hmark
  have hany : marks.any p = true := List.any_eq_true.2 ⟨c, hmark, h⟩
  exact absurd hany (by simp [hp])

theorem isPlain_of_isIdentifierContinue (h : Text.isIdentifierContinue c) : isPlain c :=
  isPlain_of_test (by decide) h

theorem isPlain_of_isWordCharacter (h : isWordCharacter c) : isPlain c :=
  isPlain_of_test (by decide) h

theorem isPlain_of_isBasic (h : isBasicUpper c || isBasicLower c || c == '_') : isPlain c :=
  isPlain_of_test (p := fun c => isBasicUpper c || isBasicLower c || c == '_') (by decide) h

/-- Lowercasing does not produce marks. -/
theorem isPlain_lowerChar (h : isPlain c) : isPlain (Text.lowerChar c) := by
  rw [isPlain_iff] at h ⊢
  intro hmark
  have hbounds : ∀ d ∈ marks, d.toNat ≠ 0 ∧ d.toNat < Text.firstSmallLetter := by
    simp [marks, Text.firstSmallLetter]
  obtain ⟨hpos, hlt⟩ := hbounds _ hmark
  have hsame := Text.eq_of_lowerChar_eq rfl hpos hlt
  exact h (hsame ▸ hmark)

theorem IsPlain.append (ha : IsPlain a) (hb : IsPlain b) : IsPlain (a ++ b) := by
  intro c hc
  rw [String.toList_append, List.mem_append] at hc
  rcases hc with hc | hc
  · exact ha c hc
  · exact hb c hc

theorem IsPlain.intercalate (separator : String) (hseparator : IsPlain separator)
    (h : ∀ t ∈ texts, IsPlain t) : IsPlain (separator.intercalate texts) := by
  intro c hc
  rw [String.toList_intercalate] at hc
  rcases Text.mem_or_exists_mem_of_mem_intercalate hc with hc | ⟨cs, hcs, hc⟩
  · exact hseparator c hc
  · obtain ⟨t, ht, rfl⟩ := List.mem_map.1 hcs
    exact h t ht c hc

theorem isPlain_of_isIdentifier (h : Text.isIdentifier a) : IsPlain a :=
  fun c hc => isPlain_of_isIdentifierContinue (Text.all_continue_of_isIdentifierChars h c hc)

theorem isPlain_ne (h : isPlain c) : c ≠ '"' ∧ c ≠ '\\' ∧ isLineEnd c = false := by
  simp only [isPlain, Bool.not_eq_true', Bool.or_eq_false_iff, beq_eq_false_iff_ne] at h
  exact ⟨h.1.1.1, h.1.2, h.2⟩

/-- Lines end in control characters. -/
theorem not_isLineEnd_of_le (h : ' ' ≤ c) : isLineEnd c = false := by
  rw [isLineEnd, Bool.or_eq_false_iff, beq_eq_false_iff_ne, beq_eq_false_iff_ne]
  constructor
  · rintro rfl
    exact absurd h (by decide)
  · rintro rfl
    exact absurd h (by decide)

theorem IsPlain.not_isLineEnd (h : IsPlain a) : ∀ c ∈ a.toList, isLineEnd c = false :=
  fun c hc => (isPlain_ne (h c hc)).2.2

theorem IsPlain.notMem_lineFeed (h : IsPlain a) : '\n' ∉ a.toList := by
  intro hmem
  have hend := h.not_isLineEnd _ hmem
  cases hend

theorem notMem_append (ha : c ∉ a.toList) (hb : c ∉ b.toList) :
    c ∉ (a ++ b).toList := by
  rw [String.toList_append, List.mem_append, not_or]
  exact ⟨ha, hb⟩

theorem notMem_intercalate {separator : String} (hseparator : c ∉ separator.toList)
    (h : ∀ t ∈ texts, c ∉ t.toList) : c ∉ (separator.intercalate texts).toList := by
  rw [String.toList_intercalate]
  exact Text.notMem_intercalate hseparator (List.forall_mem_map.2 h)

/-- Plain characters may stand in a literal. -/
theorem literalBody_of_isPlain {cs : List Char} (h : ∀ c ∈ cs, isPlain c) : LiteralBody cs := by
  induction cs with
  | nil => exact .nil
  | cons c cs ih =>
    rw [List.forall_mem_cons] at h
    obtain ⟨hquote, hback, hend⟩ := isPlain_ne h.1
    exact .char hquote hend hback (ih h.2)

/-- Plain characters may stand in a docstring, and quotes behind them. -/
theorem docstringBody_of_isPlain {cs quotes : List Char} (h : ∀ c ∈ cs, isPlain c)
    (hquotes : DocstringBody quotes) : DocstringBody (cs ++ quotes) := by
  induction cs with
  | nil => exact hquotes
  | cons c cs ih =>
    rw [List.forall_mem_cons] at h
    obtain ⟨hquote, hback, -⟩ := isPlain_ne h.1
    refine .char hback ?_ (ih h.2)
    intro hprefix
    rw [List.cons_prefix_cons] at hprefix
    exact hquote hprefix.1.symm

theorem IsPlain.isCode (h : IsPlain a) : IsCode a := by
  suffices hcs : ∀ cs : List Char, (∀ c ∈ cs, isPlain c) → Code cs from hcs a.toList h
  intro cs hcs
  induction cs with
  | nil => exact .nil
  | cons c cs ih =>
    rw [List.forall_mem_cons] at hcs
    exact .plain hcs.1 (ih hcs.2)

theorem code_append {text rest : List Char} (h : Code text) (hrest : Code rest)
    (hnext : rest.head? ≠ some '"') : Code (text ++ rest) := by
  induction h with
  | nil => exact hrest
  | plain hc h ih => exact .plain hc ih
  | lineFeed h ih => exact .lineFeed ih
  | @literal body text hbody hhead h ih =>
    rw [List.cons_append, List.append_assoc, List.cons_append]
    refine .literal hbody ?_ ih
    cases text with
    | nil => exact hnext
    | cons d text => simpa using hhead

/-- Code may follow code unless a quote would meet another one. -/
theorem IsCode.append (ha : IsCode a) (hb : IsCode b) (hnext : b.toList.head? ≠ some '"') :
    IsCode (a ++ b) := by
  rw [IsCode, String.toList_append]
  exact code_append ha hb hnext

/-- Any code may follow plain text. -/
theorem IsPlain.append_isCode (ha : IsPlain a) (hb : IsCode b) : IsCode (a ++ b) := by
  rw [IsCode, String.toList_append]
  suffices hcs : ∀ cs : List Char, (∀ c ∈ cs, isPlain c) → Code (cs ++ b.toList) from hcs _ ha
  intro cs hcs
  induction cs with
  | nil => exact hb
  | cons c cs ih =>
    rw [List.forall_mem_cons] at hcs
    exact .plain hcs.1 (ih hcs.2)

theorem IsCode.lineFeed (h : IsCode a) : IsCode ("\n" ++ a) := by
  rw [IsCode, String.toList_append]
  exact .lineFeed h

theorem isCode_quote (h : LiteralBody a.toList) : IsCode ("\"" ++ a ++ "\"") := by
  have hcode : Code ('"' :: (a.toList ++ '"' :: [])) := .literal h (by simp) .nil
  simpa [IsCode] using hcode

/-- A plain text may stand between quotes in the midst of plain text. -/
theorem isCode_quoted (before text behind : String) (hbefore : IsPlain before)
    (htext : IsPlain text) (hbehind : IsPlain behind) (hnext : behind.toList.head? ≠ some '"') :
    IsCode (before ++ ("\"" ++ text ++ "\"" ++ behind)) :=
  hbefore.append_isCode
    ((isCode_quote (literalBody_of_isPlain htext)).append hbehind.isCode hnext)

/-- Lines of code are code. -/
theorem isCode_lines (h : ∀ t ∈ texts, IsCode t) : IsCode ("\n".intercalate texts) := by
  induction texts with
  | nil => exact .nil
  | cons first rest ih =>
    rw [List.forall_mem_cons] at h
    cases rest with
    | nil => simpa using h.1
    | cons second rest =>
      rw [String.intercalate_cons_cons, String.append_assoc]
      exact h.1.append (ih h.2).lineFeed (by simp)

end Lexical

end ProtocolBindings
