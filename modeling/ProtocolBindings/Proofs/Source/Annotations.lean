import ProtocolBindings.Proofs.Source.Hints
import ProtocolBindings.Proofs.Source.TopLevel

/-!
# Annotations

The hints of a module are those that annotate its definitions, and besides them only hints of
primitives.
-/

namespace ProtocolBindings.Module

open TypeHint

/-- The annotations in the definitions of a domain's module, each with the type that it is the hint
of: the target of an alias of an array, the fields of an object and the fields of a record.  Of
several fields with one name only the last one is annotated. -/
inductive Annotates (d : Domain) : Definition → TypeRef → TypeHint → Prop where
  | target {t : TypeDef} {items : TypeRef} (hshape : t.shape = .array items) :
      Annotates d (.type t) (.array items) (ofTypeRef d.name (.array items))
  | field {t : TypeDef} {p : Property} (hshape : t.shape = .object) (hp : p ∈ t.properties)
      (hfield : (p.name, ofProperty d.name p) ∈ ofFields d.name t.properties) :
      Annotates d (.type t) p.typeRef (ofProperty d.name p)
  | result {c : Command} {p : Property} (hp : p ∈ c.returns)
      (hfield : (p.name, ofProperty d.name p) ∈ ofFields d.name c.returns) :
      Annotates d (.record c) p.typeRef (ofProperty d.name p)

variable {d : Domain} {f : Definition} {r : TypeRef} {hint : TypeHint}

/-- The declarations of a module are those of the types and the records of the commands that return
values. -/
theorem mem_declarations_iff {declaration : Declaration} :
    declaration ∈ (Contents.documented d).declarations ↔
      (∃ t ∈ d.types, Declaration.documented d.name t = declaration) ∨
        ∃ c ∈ d.commands, c.returns ≠ [] ∧ Declaration.ofResult d.name c
          (CommandFunction.wireMethod d.name c.name) = declaration := by
  have hresult : ∀ c, (CommandPart.documented d.name c).result = some declaration ↔
      c.returns ≠ [] ∧
        Declaration.ofResult d.name c (CommandFunction.wireMethod d.name c.name) = declaration := by
    intro c
    rw [CommandPart.documented]
    cases hreturns : c.returns <;> simp
  rw [Contents.declarations, Contents.documented, List.mem_append, List.mem_map,
    List.filterMap_map, List.mem_filterMap]
  exact or_congr_right (exists_congr fun c => and_congr_right fun hc => hresult c)

/-- No hint in a module is left out, but for those of primitives. -/
theorem exists_annotates_of_mem_hints (hhint : hint ∈ (Contents.documented d).hints) :
    (∃ f ∈ definitions d, ∃ r, Annotates d f r hint) ∨
      ∃ name, hint = ofPrimitive name := by
  obtain ⟨declaration, hdeclaration, hhint⟩ := List.mem_flatMap.1 hhint
  rcases mem_declarations_iff.1 hdeclaration with ⟨t, ht, rfl⟩ | ⟨c, hc, hreturns, rfl⟩
  · have hdefined := type_mem_definitions_iff.2 ht
    have hbare : hint ∈ (Declaration.bareOfTypeDef d.name t).hints := hhint
    rw [Declaration.bareOfTypeDef] at hbare
    split at hbare
    · rename_i hshape
      obtain ⟨field, hfield, rfl⟩ := List.mem_map.1 hbare
      obtain ⟨p, hp, rfl⟩ := exists_of_mem_ofFields hfield
      exact Or.inl ⟨_, hdefined, _, .field hshape hp hfield⟩
    · rename_i hobject
      obtain rfl := List.mem_singleton.1 hbare
      cases hshape : t.shape with
      | enumeration name =>
        rw [ofTypeDef, hshape]
        exact Or.inr ⟨"string", rfl⟩
      | object => exact absurd hshape hobject
      | primitive name =>
        rw [ofTypeDef, hshape]
        exact Or.inr ⟨name, rfl⟩
      | array items =>
        rw [ofTypeDef, hshape]
        exact Or.inl ⟨_, hdefined, _, .target hshape⟩
      | unresolved =>
        rw [ofTypeDef, hshape]
        exact Or.inr ⟨anyName, rfl⟩
  · obtain ⟨field, hfield, rfl⟩ := List.mem_map.1 hhint
    obtain ⟨p, hp, rfl⟩ := exists_of_mem_ofFields hfield
    exact Or.inl ⟨_, record_mem_definitions_iff.2 ⟨hc, hreturns⟩, _, .result hp hfield⟩

theorem documented_mem_declarations {t : TypeDef} (ht : t ∈ d.types) :
    Declaration.documented d.name t ∈ (Contents.documented d).declarations :=
  mem_declarations_iff.2 (Or.inl ⟨t, ht, rfl⟩)

/-- An annotation counts among the hints of its module. -/
theorem Annotates.mem_hints (h : Annotates d f r hint) (hf : f ∈ definitions d) :
    hint ∈ (Contents.documented d).hints := by
  cases h with
  | @target t items hshape =>
    have hdeclared := documented_mem_declarations (type_mem_definitions_iff.1 hf)
    refine List.mem_flatMap.2 ⟨_, hdeclared, ?_⟩
    rw [Declaration.documented, Declaration.bareOfTypeDef, hshape]
    simp [ofTypeDef, hshape]
  | @field t p hshape hp hfield =>
    have hdeclared := documented_mem_declarations (type_mem_definitions_iff.1 hf)
    refine List.mem_flatMap.2 ⟨_, hdeclared, ?_⟩
    rw [Declaration.documented, Declaration.bareOfTypeDef, hshape]
    exact List.mem_map_of_mem (f := (·.2)) hfield
  | @result c p hp hfield =>
    obtain ⟨hc, hreturns⟩ := record_mem_definitions_iff.1 hf
    have hdeclared := mem_declarations_iff.2 (Or.inr ⟨c, hc, hreturns, rfl⟩)
    exact List.mem_flatMap.2 ⟨_, hdeclared, List.mem_map_of_mem (f := (·.2)) hfield⟩

end ProtocolBindings.Module
