import ProtocolBindings.Proofs.Schema.References
import ProtocolBindings.Proofs.Source.Accepted

/-!
# Domains without their documentation

What is left of a domain when everything is taken out that only documents it.  The declarations
of its module, their order and the imports that they need depend on nothing else.
-/

namespace ProtocolBindings

/-- A property without its documentation. -/
def Property.undocumented (p : Property) : Property :=
  { p with description := none, experimental := false, deprecated := false, allowed := none }

/-- A type without its documentation. -/
def TypeDef.undocumented (t : TypeDef) : TypeDef :=
  { t with
    description := none
    experimental := false
    deprecated := false
    allowed := none
    properties := t.properties.map (·.undocumented) }

/-- A command without its documentation, of which its parameters are a part. -/
def Command.undocumented (c : Command) : Command :=
  { c with
    description := none
    experimental := false
    deprecated := false
    parameters := []
    returns := c.returns.map (·.undocumented) }

/-- A domain without its documentation.  Whether it is experimental stays, as code asks for it. -/
def Domain.undocumented (d : Domain) : Domain :=
  { d with
    description := none
    deprecated := false
    types := d.types.map (·.undocumented)
    commands := d.commands.map (·.undocumented) }

theorem Domain.isWellFormed_undocumented_iff {d : Domain} :
    d.undocumented.IsWellFormed ↔ d.IsWellFormed := by
  have hproperties : ∀ properties : List Property,
      (∀ p ∈ properties.map (·.undocumented), p.typeRef.IsWellFormed) ↔
        ∀ p ∈ properties, p.typeRef.IsWellFormed := by
    intro properties
    exact List.forall_mem_map
  constructor
  · rintro ⟨hitems, htypes, hreturns⟩
    rw [undocumented] at hitems htypes hreturns
    rw [List.forall_mem_map] at hitems htypes hreturns
    exact ⟨hitems, fun t ht => (hproperties t.properties).1 (htypes t ht),
      fun c hc => (hproperties c.returns).1 (hreturns c hc)⟩
  · rintro ⟨hitems, htypes, hreturns⟩
    refine ⟨?_, ?_, ?_⟩ <;> rw [undocumented, List.forall_mem_map]
    · exact hitems
    · exact fun t ht => (hproperties t.properties).2 (htypes t ht)
    · exact fun c hc => (hproperties c.returns).2 (hreturns c hc)

theorem TypeHint.ofFields_undocumented (current : String) (properties : List Property) :
    ofFields current (properties.map (·.undocumented)) = ofFields current properties := by
  rw [ofFields, ofFields, List.map_map]
  rfl

theorem Declaration.bareOfTypeDef_undocumented (domain : String) (t : TypeDef) :
    bareOfTypeDef domain t.undocumented = bareOfTypeDef domain t := by
  have hfields := TypeHint.ofFields_undocumented domain t.properties
  rw [bareOfTypeDef, bareOfTypeDef]
  cases hshape : t.shape <;>
    simp [TypeDef.undocumented, hshape, TypeHint.ofTypeDef, hfields]

theorem Declaration.ofResult_undocumented (domain : String) (c : Command) (method : String) :
    ofResult domain c.undocumented method = ofResult domain c method := by
  have hfields := TypeHint.ofFields_undocumented domain c.returns
  simp [ofResult, Command.undocumented, hfields]

theorem Command.isEmpty_returns_undocumented (c : Command) :
    c.undocumented.returns.isEmpty = c.returns.isEmpty := by
  simp [undocumented]

namespace Module

/-! ## The head of a module -/

/-- A declaration as the head of a module sees it. -/
def outline (declaration : Declaration) : Declaration :=
  { declaration with text := "" }

/-- The imports depend on the outlines of the declarations and on whether there are commands. -/
theorem importBlocks_congr {package current : String} {a b : Contents}
    (hdeclarations : a.declarations.map outline = b.declarations.map outline)
    (hcommands : a.commands.isEmpty = b.commands.isEmpty) :
    importBlocks package current a = importBlocks package current b := by
  have hhints : a.hints = b.hints := by
    have hflat := congrArg (List.flatMap (·.hints)) hdeclarations
    simpa only [List.flatMap_map, outline, Contents.hints] using hflat
  have halias : a.declarations.any (·.usesAlias) = b.declarations.any (·.usesAlias) := by
    have hany := congrArg (List.any · (·.usesAlias)) hdeclarations
    simpa only [List.any_map, Function.comp_def, outline] using hany
  have hrecord : a.declarations.any (·.usesRecord) = b.declarations.any (·.usesRecord) := by
    have hany := congrArg (List.any · (·.usesRecord)) hdeclarations
    simpa only [List.any_map, Function.comp_def, outline] using hany
  have hdomains : a.domains current = b.domains current := by
    rw [Contents.domains, Contents.domains, hhints]
  have htyping : typingNames a current = typingNames b current := by
    rw [typingNames, typingNames, hhints, halias, hrecord, hdomains, hcommands]
  have hstandard : standardImports a current = standardImports b current := by
    rw [standardImports, standardImports, htyping, hcommands]
  rw [importBlocks, importBlocks, hstandard, hdomains, hcommands]

theorem CommandPart.result_undocumented (domain : String) (c : Command) :
    (CommandPart.documented domain c.undocumented).result =
      (CommandPart.documented domain c).result := by
  have hresult := Declaration.ofResult_undocumented domain c
    (CommandFunction.wireMethod domain c.name)
  change (if c.undocumented.returns.isEmpty then none
    else some (Declaration.ofResult domain c.undocumented _)) = _
  rw [c.isEmpty_returns_undocumented]
  exact congrArg (fun r => if c.returns.isEmpty then none else some r) hresult

theorem outline_documented (domain : String) (t : TypeDef) :
    outline (Declaration.documented domain t) = outline (Declaration.bareOfTypeDef domain t) :=
  rfl

theorem outlines_undocumented (d : Domain) :
    (Contents.documented d.undocumented).declarations.map outline =
      (Contents.documented d).declarations.map outline := by
  have htypes : (Contents.documented d.undocumented).types.map outline =
      (Contents.documented d).types.map outline := by
    have htype : ∀ t, outline (Declaration.documented d.name t.undocumented) =
        outline (Declaration.documented d.name t) := by
      intro t
      rw [outline_documented, outline_documented, Declaration.bareOfTypeDef_undocumented]
    simp only [Contents.documented, Domain.undocumented, List.map_map, Function.comp_def, htype]
  have hresults : (Contents.documented d.undocumented).commands.filterMap (·.result) =
      (Contents.documented d).commands.filterMap (·.result) := by
    simp only [Contents.documented, Domain.undocumented, List.map_map, List.filterMap_map,
      Function.comp_def, CommandPart.result_undocumented]
  rw [Contents.declarations, Contents.declarations, List.map_append, List.map_append, htypes,
    hresults]

theorem definedNames_undocumented (d : Domain) : definedNames d.undocumented = definedNames d := by
  have hpart : ∀ c : Command, (if c.undocumented.returns.isEmpty then []
      else [Naming.resultName c.undocumented.name]) =
        (if c.returns.isEmpty then [] else [Naming.resultName c.name]) := by
    intro c
    rw [c.isEmpty_returns_undocumented]
    rfl
  simp only [definedNames, Domain.undocumented, List.map_map, List.flatMap_map, Function.comp_def,
    hpart]
  rfl

/-- Whether a module is generated does not depend on documentation. -/
theorem accepts_undocumented {d : Domain} (h : Accepts d) : Accepts d.undocumented := by
  refine ⟨h.domainName, ?_, ?_, ?_⟩
  · intro t ht
    obtain ⟨original, horiginal, rfl⟩ := List.mem_map.1 ht
    exact h.typeName original horiginal
  · intro c hc
    obtain ⟨original, horiginal, rfl⟩ := List.mem_map.1 hc
    exact h.functionName original horiginal
  · rw [definedNames_undocumented]
    exact h.distinct

end Module

end ProtocolBindings
