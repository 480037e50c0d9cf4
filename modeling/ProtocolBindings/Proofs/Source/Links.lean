import ProtocolBindings.Proofs.Source.Annotations

/-!
# Links between modules

An annotation is the hint of a type.  It names what the type refers to, inside as many arrays, by
names that are computed from the reference alone, and it stands in the text of its module.
-/

namespace ProtocolBindings

/-- The named type inside all arrays of a type, if there is one. -/
def TypeRef.leaf? : TypeRef → Option Reference
  | .primitive _ => none
  | .array items => items.leaf?
  | .named reference => some reference

/-- How many arrays of a type lie around its leaf. -/
def TypeRef.arrays : TypeRef → Nat
  | .array items => items.arrays + 1
  | _ => 0

namespace TypeHint

/-- The text of an array of arrays around the text of their elements. -/
def listOf : Nat → String → String
  | 0, leaf => leaf
  | n + 1, leaf => "list[" ++ listOf n leaf ++ "]"

/-- The text by which the domain `current` refers to a type of a domain: it is qualified exactly
if the domain is another one. -/
def linkText (current domain typeId : String) : String :=
  (if domain = current then "" else domain ++ ".") ++ Naming.typeName typeId

variable {current : String} {r : TypeRef} {reference : Reference}

/-- What the hint of a type with a leaf is made of. -/
structure LinksTo (hint : TypeHint) (current : String) (arrays : Nat) (domain typeId : String) :
    Prop where
  target : hint.target = listOf arrays (linkText current domain typeId)
  domains : hint.domains = if domain = current then [] else [domain]
  forward : hint.forward = true

theorem linksTo_ofReference (current : String) (reference : Reference) :
    (ofReference current reference).LinksTo current 0 (reference.domain.getD current)
      reference.typeId := by
  obtain ⟨domain, typeId⟩ := reference
  cases domain with
  | none => constructor <;> simp [ofReference, listOf, linkText]
  | some domain =>
    by_cases hsame : domain = current
    · constructor <;> simp [ofReference, listOf, linkText, hsame]
    · constructor <;> simp [ofReference, listOf, linkText, hsame, Naming.moduleName]

theorem nullable_ofTypeRef (current : String) (r : TypeRef) :
    (ofTypeRef current r).nullable = false := by
  induction r with
  | primitive name => rfl
  | array items ih => exact ih
  | named reference =>
    obtain ⟨domain, typeId⟩ := reference
    cases domain with
    | none => rfl
    | some domain =>
      rw [ofTypeRef, ofReference]
      dsimp only
      split <;> rfl

/-- The hint of a type names its leaf, inside as many arrays. -/
theorem linksTo_ofTypeRef (current : String) (hleaf : r.leaf? = some reference) :
    (ofTypeRef current r).LinksTo current r.arrays (reference.domain.getD current)
      reference.typeId := by
  induction r with
  | primitive name => cases hleaf
  | array items ih =>
    have h := ih hleaf
    refine ⟨?_, h.domains, h.forward⟩
    rw [ofTypeRef, TypeRef.arrays, listOf, text, nullable_ofTypeRef]
    exact congrArg (fun target => "list[" ++ target ++ "]") h.target
  | named other =>
    obtain rfl := Option.some.inj hleaf
    exact linksTo_ofReference current other

theorem linksTo_ofProperty {p : Property} (current : String)
    (hleaf : p.typeRef.leaf? = some reference) :
    (ofProperty current p).LinksTo current p.typeRef.arrays (reference.domain.getD current)
      reference.typeId := by
  have h := linksTo_ofTypeRef current hleaf
  rw [ofProperty]
  split
  · exact ⟨h.target, h.domains, h.forward⟩
  · exact h

/-- The hint of a type without a leaf is that of a primitive, inside as many arrays. -/
theorem ofTypeRef_of_leaf?_eq_none (current : String) (hleaf : r.leaf? = none) :
    ∃ name, ofTypeRef current r = { target := listOf r.arrays (primitiveName name) } := by
  induction r with
  | primitive name => exact ⟨name, rfl⟩
  | array items ih =>
    obtain ⟨name, hname⟩ := ih hleaf
    refine ⟨name, ?_⟩
    rw [ofTypeRef, hname, TypeRef.arrays, listOf, text]
    simp only [Bool.false_eq_true, if_false, String.append_assoc]
  | named other => cases hleaf

theorem listOf_injective (n : Nat) : Function.Injective (listOf n) := by
  induction n with
  | zero => exact fun a b h => h
  | succ n ih =>
    intro a b h
    rw [listOf, listOf, String.append_assoc, String.append_assoc] at h
    exact ih ((String.append_left_inj _).1 ((String.append_right_inj _).1 h))

/-- The expression of such a hint is its text between quotes. -/
theorem LinksTo.expression_eq {hint : TypeHint} {arrays : Nat} {domain typeId : String}
    (h : hint.LinksTo current arrays domain typeId) :
    hint.expression = "\"" ++ listOf arrays (linkText current domain typeId) ++
      (if hint.nullable then " | None" else "") ++ "\"" := by
  rw [expression, h.forward, if_pos rfl, text, h.target]
  split
  · simp only [String.append_assoc]
  · simp only [String.append_assoc, String.empty_append]

end TypeHint

namespace Module

open TypeHint

variable {d : Domain} {f : Definition} {r : TypeRef} {hint : TypeHint} {reference : Reference}

/-- The hint of an annotation names the leaf of its type. -/
theorem Annotates.linksTo (h : Annotates d f r hint) (hleaf : r.leaf? = some reference) :
    hint.LinksTo d.name r.arrays (reference.domain.getD d.name) reference.typeId := by
  cases h with
  | target hshape => exact linksTo_ofTypeRef d.name hleaf
  | field hshape hp hfield => exact linksTo_ofProperty d.name hleaf
  | result hp hfield => exact linksTo_ofProperty d.name hleaf

/-- The hint of an annotation without a leaf is one of a primitive. -/
theorem Annotates.of_leaf?_eq_none (h : Annotates d f r hint) (hleaf : r.leaf? = none) :
    (∃ name, hint.target = listOf r.arrays (primitiveName name)) ∧ hint.domains = [] := by
  obtain ⟨name, hname⟩ := ofTypeRef_of_leaf?_eq_none d.name hleaf
  have hproperty : ∀ p : Property, p.typeRef = r →
      (ofProperty d.name p).target = listOf r.arrays (primitiveName name) ∧
        (ofProperty d.name p).domains = [] := by
    rintro p rfl
    rw [ofProperty, ofRequired, hname]
    split <;> exact ⟨rfl, rfl⟩
  cases h with
  | target hshape => exact ⟨⟨name, congrArg TypeHint.target hname⟩, congrArg TypeHint.domains hname⟩
  | field hshape hp hfield => exact ⟨⟨name, (hproperty _ rfl).1⟩, (hproperty _ rfl).2⟩
  | result hp hfield => exact ⟨⟨name, (hproperty _ rfl).1⟩, (hproperty _ rfl).2⟩

/-! ## Where annotations stand -/

section

variable {part : List Char} {a b : String}

theorem infix_append_left (h : part <:+: a.toList) : part <:+: (a ++ b).toList := by
  rw [String.toList_append]
  exact h.trans (List.prefix_append _ _).isInfix

theorem infix_append_right (h : part <:+: b.toList) : part <:+: (a ++ b).toList := by
  rw [String.toList_append]
  exact h.trans (List.suffix_append _ _).isInfix

theorem infix_ofList {part cs : List Char} (h : part <:+: cs) :
    (String.ofList part).toList <:+: (String.ofList cs).toList := by
  rwa [String.toList_ofList, String.toList_ofList]

end

theorem infix_intercalate {separator text : String} {texts : List String} (h : text ∈ texts) :
    text.toList <:+: (separator.intercalate texts).toList := by
  induction texts with
  | nil => cases h
  | cons first rest ih =>
    cases rest with
    | nil =>
      rw [List.mem_singleton.1 h, String.intercalate_singleton]
    | cons second rest =>
      rw [String.intercalate_cons_cons]
      rcases List.mem_cons.1 h with rfl | h
      · exact infix_append_left (infix_append_left List.infix_rfl)
      · exact infix_append_right (ih h)

theorem intercalate_append {separator : String} {front back : List String} (hfront : front ≠ [])
    (hback : back ≠ []) : separator.intercalate (front ++ back) =
      separator.intercalate front ++ separator ++ separator.intercalate back := by
  induction front with
  | nil => exact absurd rfl hfront
  | cons first rest ih =>
    cases rest with
    | nil =>
      obtain ⟨second, others, rfl⟩ := List.exists_cons_of_ne_nil hback
      rw [List.singleton_append, String.intercalate_cons_cons, String.intercalate_singleton]
    | cons second rest =>
      rw [List.cons_append, List.cons_append, String.intercalate_cons_cons, ← List.cons_append,
        ih (List.cons_ne_nil _ _), String.intercalate_cons_cons]
      simp only [String.append_assoc]

/-- The expression of a field's hint stands in the text of its record. -/
theorem infix_recordText {name key : String} {fields : List (String × TypeHint)}
    (h : (key, hint) ∈ fields) :
    hint.expression.toList <:+: (Declaration.recordText name fields).toList := by
  have hline : hint.expression.toList <:+: (Declaration.recordField (key, hint)).toList := by
    rw [Declaration.recordField]
    exact infix_append_left (infix_append_right List.infix_rfl)
  have hempty : fields.isEmpty = false := by
    rw [List.isEmpty_eq_false_iff]
    exact List.ne_nil_of_mem h
  rw [Declaration.recordText, hempty, if_neg Bool.false_ne_true]
  refine hline.trans (infix_intercalate ?_)
  exact List.mem_append_left _ (List.mem_append_right _ (List.mem_map_of_mem h))

theorem infix_documented {domain : String} {t : TypeDef} {part : List Char}
    (h : part <:+: (Declaration.bareOfTypeDef domain t).text.toList) :
    part <:+: (Declaration.documented domain t).text.toList :=
  h.trans (infix_intercalate (List.mem_append_right _ (List.mem_singleton.2 rfl)))

theorem infix_sourceText {name result docText method : String} {part : List Char}
    (h : part <:+: (CommandFunction.implementation name result docText method).toList) :
    part <:+: (CommandFunction.sourceText name result docText method).toList :=
  h.trans (infix_intercalate (by simp))

/-- An annotation is written into its definition. -/
theorem Annotates.infix_text (h : Annotates d f r hint) :
    hint.expression.toList <:+: (f.text d).toList := by
  cases h with
  | @target t items hshape =>
    have htext : (Declaration.bareOfTypeDef d.name t).text =
        Naming.typeName t.id ++ ": TypeAlias = " ++
          (ofTypeRef d.name (.array items)).expression := by
      rw [Declaration.bareOfTypeDef, hshape]
      simp only [ofTypeDef, hshape]
    apply infix_documented
    rw [htext]
    exact infix_append_right List.infix_rfl
  | @field t p hshape hp hfield =>
    have htext : (Declaration.bareOfTypeDef d.name t).text =
        Declaration.recordText (Naming.typeName t.id) (ofFields d.name t.properties) := by
      rw [Declaration.bareOfTypeDef, hshape]
    apply infix_documented
    rw [htext]
    exact infix_recordText hfield
  | @result c p hp hfield =>
    rw [Definition.text, Declaration.ofResult]
    exact infix_append_right (infix_recordText hfield)

/-- A definition is written into the text of its module. -/
theorem infix_source (package version : String) (hf : f ∈ definitions d) :
    (f.text d).toList <:+: (documented package d version).source.toList := by
  obtain ⟨body, hsource, hspaced⟩ := source_documented package d version
  rw [hsource]
  have hbody := hspaced.infix_of_mem (List.mem_map_of_mem (f := (·.text d)) hf)
  exact infix_append_left (infix_append_right hbody)

end Module

end ProtocolBindings
