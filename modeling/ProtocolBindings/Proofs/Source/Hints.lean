import ProtocolBindings.Proofs.Schema.References
import ProtocolBindings.Proofs.Source.Code

/-!
# Names and hints in code

The names that are made from the protocol's identifiers and the hints that are made from
well-formed references are plain texts.
-/

namespace ProtocolBindings

open Lexical

theorem Naming.isPlain_underscore {name : String} (h : IsPlain name) :
    IsPlain (underscore name) := by
  have hname := forall_mem_underscoreChars (p := fun c => isPlain c) (fun c => isPlain_lowerChar)
    (by decide) (by decide) (by decide) (by decide) h
  simpa [IsPlain, underscore] using hname

theorem Naming.isPlain_typeName {typeId : String} (h : IsPlain typeId) :
    IsPlain (typeName typeId) :=
  IsPlain.append (by decide) (isPlain_underscore h)

/-- The words of a command are kept in the name of its function. -/
theorem Naming.mem_functionName {command : String} {c : Char}
    (h : c ∈ (underscore command).toList) : c ∈ (functionName command).toList := by
  rw [functionName]
  split
  · rw [String.toList_append]
    exact List.mem_append_left _ h
  · exact h

theorem Naming.isPlain_underscore_of_functionName {command : String}
    (h : IsPlain (functionName command)) : IsPlain (underscore command) :=
  fun c hc => h c (mem_functionName hc)

theorem Naming.isPlain_resultName {command : String} (h : IsPlain (functionName command)) :
    IsPlain (resultName command) :=
  (isPlain_underscore_of_functionName h).append (by decide)

/-- The name of a command whose function has a plain name does not end a line. -/
theorem Naming.not_isLineEnd_of_functionName {command : String}
    (h : IsPlain (functionName command)) : ∀ c ∈ command.toList, isLineEnd c = false := by
  intro c hc
  cases hend : isLineEnd c with
  | false => rfl
  | true =>
    exfalso
    have hlower : Text.lowerChar c = c ∧ ¬ isPlain c ∧ c ≠ '_' ∧ c ≠ '-' ∧ c ≠ 'I' ∧ c ≠ 'D' ∧
        c ≠ 'Σ' ∧ c ≠ 'İ' := by
      simp only [isLineEnd, Bool.or_eq_true, beq_iff_eq] at hend
      rcases hend with rfl | rfl <;> decide
    obtain ⟨hsame, hplain, hlow, hhyphen, hI, hD, hsigma, hdotted⟩ := hlower
    have hmem := Text.mem_lowerChars (mem_joinedWords_of_mem hc hlow hhyphen hI hD) hsigma hdotted
    rw [hsame, ← underscoreChars_eq] at hmem
    exact hplain (isPlain_underscore_of_functionName h c (by simpa [underscore] using hmem))

theorem isPlain_of_isPart {part : String} (h : Reference.isPart part.toList) : IsPlain part := by
  intro c hc
  cases hcs : part.toList with
  | nil => simp [hcs] at hc
  | cons first rest =>
    rw [hcs] at h hc
    simp only [Reference.isPart, Bool.and_eq_true, List.all_eq_true] at h
    rcases List.mem_cons.1 hc with rfl | hc
    · exact isPlain_of_isBasic h.1
    · exact isPlain_of_isWordCharacter (h.2 c hc)

namespace TypeHint

/-- A hint that opens and closes nothing. -/
structure IsPlain (hint : TypeHint) : Prop where
  target : Lexical.IsPlain hint.target
  domains : ∀ d ∈ hint.domains, Lexical.IsPlain d

variable {hint : TypeHint} {current : String}

theorem IsPlain.orNone (h : hint.IsPlain) : hint.orNone.IsPlain :=
  ⟨h.target, h.domains⟩

theorem IsPlain.text (h : hint.IsPlain) : Lexical.IsPlain hint.text := by
  rw [TypeHint.text]
  split
  · exact h.target.append (by decide)
  · exact h.target

theorem IsPlain.isCode_expression (h : hint.IsPlain) : IsCode hint.expression := by
  rw [expression]
  split
  · exact isCode_quote (literalBody_of_isPlain h.text)
  · exact h.text.isCode

theorem isPlain_ofPrimitive (name : String) : (ofPrimitive name).IsPlain := by
  refine ⟨?_, by simp [ofPrimitive]⟩
  rw [ofPrimitive]
  unfold primitiveName
  split <;> decide

theorem isPlain_ofReference {reference : Reference} (h : reference.IsWellFormed) :
    (ofReference current reference).IsPlain := by
  have hname := Naming.isPlain_typeName (isPlain_of_isPart h.typeId)
  rw [ofReference]
  split
  · exact ⟨hname, by simp⟩
  · rename_i domain hdomain
    have hplain := isPlain_of_isPart (h.domain domain hdomain)
    split
    · exact ⟨hname, by simp⟩
    · exact ⟨(hplain.append (by decide)).append hname, by simpa using hplain⟩

/-- A hint of a well-formed reference is plain, through any depth of arrays. -/
theorem isPlain_ofTypeRef {r : TypeRef} (h : r.IsWellFormed) : (ofTypeRef current r).IsPlain := by
  induction r with
  | primitive name => exact isPlain_ofPrimitive name
  | named reference => exact isPlain_ofReference h
  | array items ih =>
    have hitems := ih h
    exact ⟨(IsPlain.append (by decide) hitems.text).append (by decide), hitems.domains⟩

theorem isPlain_ofProperty {p : Property} (h : p.typeRef.IsWellFormed) :
    (ofProperty current p).IsPlain := by
  have hrequired : (ofRequired current p).IsPlain := isPlain_ofTypeRef h
  rw [ofProperty]
  split
  · exact hrequired.orNone
  · exact hrequired

/-- A field comes from one of the properties. -/
theorem exists_of_mem_ofFields {properties : List Property}
    {field : String × TypeHint} (h : field ∈ ofFields current properties) :
    ∃ p ∈ properties, field = (p.name, ofProperty current p) := by
  obtain ⟨p, hp, heq⟩ := List.mem_map.1 (Entries.mem_of_mem_ofList h)
  exact ⟨p, hp, heq.symm⟩

theorem isPlain_of_mem_ofFields {properties : List Property}
    (h : ∀ p ∈ properties, p.typeRef.IsWellFormed) {field : String × TypeHint}
    (hfield : field ∈ ofFields current properties) : field.2.IsPlain := by
  obtain ⟨p, hp, rfl⟩ := exists_of_mem_ofFields hfield
  exact isPlain_ofProperty (h p hp)

theorem isPlain_ofTypeDef {t : TypeDef} (hitems : ∀ items ∈ t.shape.items?, items.IsWellFormed)
    (hproperties : ∀ p ∈ t.properties, p.typeRef.IsWellFormed) :
    (ofTypeDef current t).IsPlain := by
  rw [ofTypeDef]
  cases hshape : t.shape with
  | enumeration primitive => exact isPlain_ofPrimitive "string"
  | primitive name => exact isPlain_ofPrimitive name
  | array items =>
    have hwell := hitems items (by simp [hshape, TypeShape.items?])
    exact @isPlain_ofTypeRef current (.array items) hwell
  | unresolved =>
    have hany : Lexical.IsPlain anyName := by decide
    exact ⟨hany, by simp⟩
  | object =>
    have hrecord : Lexical.IsPlain "TypedDict" := by decide
    refine ⟨hrecord, ?_⟩
    intro d hd
    obtain ⟨field, hfield, hd⟩ := List.mem_flatMap.1 (Ascending.mem_ofList.1 hd)
    exact (isPlain_of_mem_ofFields hproperties hfield).domains d hd

end TypeHint

end ProtocolBindings
