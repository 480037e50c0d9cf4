import ProtocolBindings.Proofs.Schema.References
import ProtocolBindings.Proofs.Text.Blank

/-!
# How references are written

A reference is written as a word, or as two words joined by a dot.  No word has a dot in it, so a
text is written for one reference at most, and that is the reference which is read from it.
-/

namespace ProtocolBindings

namespace Reference

variable {reference : Reference} {text : String} {value : Json}

/-- Whether a reference is written as a text: its type's word alone, or behind the word of its
domain and a dot. -/
inductive IsWrittenAs : Reference → String → Prop where
  | alone {typeId : String} (htypeId : IsWord typeId) : IsWrittenAs ⟨none, typeId⟩ typeId
  | behindDomain {domain typeId : String} (hdomain : IsWord domain) (htypeId : IsWord typeId) :
      IsWrittenAs ⟨some domain, typeId⟩ (domain ++ "." ++ typeId)

theorem IsWord.dot_notMem (h : IsWord text) : '.' ∉ text.toList := by
  obtain ⟨first, rest, htext, hfirst, hrest⟩ := h
  rw [htext, List.mem_cons, not_or]
  constructor
  · rintro rfl
    revert hfirst
    decide
  · intro hdot
    exact absurd (hrest '.' hdot) (by decide)

theorem IsWord.ne_empty (h : IsWord text) : text ≠ "" := by
  rintro rfl
  obtain ⟨first, rest, htext, -⟩ := h
  simp at htext

theorem IsWord.pieces_eq (h : IsWord text) :
    Text.pieces (· == '.') text.toList = [text.toList] := by
  apply Text.pieces_of_forall_not
  intro c hc
  exact beq_eq_false_iff_ne.2 (ne_of_mem_of_not_mem hc h.dot_notMem)

theorem raw_of_isWord {domain : String} (hdomain : IsWord domain) (typeId : String) :
    raw ⟨some domain, typeId⟩ = domain ++ "." ++ typeId := by
  have hne : (domain == "") = false := beq_eq_false_iff_ne.2 hdomain.ne_empty
  simp only [raw, hne, Bool.false_eq_true, if_false]

theorem IsOf.isWrittenAs (h : reference.IsOf text) : reference.IsWrittenAs text := by
  obtain ⟨htypeId, hdomain, rfl⟩ := h
  obtain ⟨_ | domain, typeId⟩ := reference
  · exact .alone htypeId
  · have hword : IsWord domain := hdomain domain rfl
    rw [raw_of_isWord hword]
    exact .behindDomain hword htypeId

/-- A reference is read from the text that it is written as. -/
theorem IsWrittenAs.ofText?_eq (h : reference.IsWrittenAs text) :
    ofText? text = some reference := by
  have hpart : ∀ {text : String}, IsWord text → isPart text.toList :=
    fun hword => isPart_toList_iff.2 hword
  cases h with
  | alone htypeId =>
    rw [ofText?, htypeId.pieces_eq]
    dsimp only
    rw [if_pos (hpart htypeId), String.ofList_toList]
  | @behindDomain domain typeId hdomain htypeId =>
    have hchars : (domain ++ "." ++ typeId).toList = domain.toList ++ '.' :: typeId.toList := by
      simp
    rw [ofText?, hchars, Text.pieces_append_cons (p := (· == '.')) rfl, hdomain.pieces_eq,
      htypeId.pieces_eq]
    simp [hpart hdomain, hpart htypeId]

theorem parse_eq_ok_iff_isWrittenAs :
    parse value = .ok reference ↔
      ∃ text, value = .string text ∧ reference.IsWrittenAs text := by
  constructor
  · intro h
    obtain ⟨text, hvalue, hreference⟩ := exists_isOf_of_parse h
    exact ⟨text, hvalue, hreference.isWrittenAs⟩
  · rintro ⟨text, rfl, h⟩
    rw [parse, Json.text?, Option.bind_some, h.ofText?_eq]

theorem parse_eq_error_iff {error : GenerationError} :
    parse value = .error error ↔
      (∀ reference, parse value ≠ .ok reference) ∧
        error = { cause := .unresolvedReference value.display } := by
  rw [parse]
  split
  · simp
  · simp [eq_comm]

/-- A reference is read from exactly the values that are the text of a word or of two words joined
by a dot, and every other value is named in the error.  The text leaves no choice of the words, the
reference that is read is written and shown as it, and every reference whose parts are words is
read back from what it is written as. -/
theorem parse_exact :
    (∀ value reference, parse value = .ok reference ↔
      ∃ text, value = .string text ∧ reference.IsWrittenAs text) ∧
    (∀ value error, parse value = .error error ↔
      (¬∃ text, ∃ reference : Reference, value = .string text ∧ reference.IsWrittenAs text) ∧
        error = { cause := .unresolvedReference value.display }) ∧
    (∀ (text : String) (reference other : Reference), reference.IsWrittenAs text →
      other.IsWrittenAs text → other = reference) ∧
    (∀ value reference, parse value = .ok reference →
      value = .string reference.raw ∧ value = .string (TypeRef.named reference).label) ∧
    ∀ reference : Reference, (∀ domain ∈ reference.domain, IsWord domain) →
      IsWord reference.typeId → parse (.string reference.raw) = .ok reference := by
  refine ⟨fun _ _ => parse_eq_ok_iff_isWrittenAs, ?_, ?_, ?_, ?_⟩
  · intro value error
    rw [parse_eq_error_iff]
    simp only [ne_eq, parse_eq_ok_iff_isWrittenAs, not_exists]
    rw [forall_comm]
  · intro text reference other h hother
    exact Option.some.inj (hother.ofText?_eq.symm.trans h.ofText?_eq)
  · intro value reference h
    obtain ⟨text, rfl, hreference⟩ := exists_isOf_of_parse h
    rw [TypeRef.label, hreference.raw]
    exact ⟨rfl, rfl⟩
  · intro reference hdomain htypeId
    have hof : reference.IsOf reference.raw := ⟨htypeId, hdomain, rfl⟩
    exact parse_eq_ok_iff_isWrittenAs.2 ⟨_, rfl, hof.isWrittenAs⟩

end Reference

end ProtocolBindings
