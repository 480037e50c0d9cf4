import ProtocolBindings.Proofs.Results
import ProtocolBindings.Schema.Build

/-!
# What is built from a document

A part of a schema is built exactly if every field it reads can be read, and then it holds what
the fields say.
-/

namespace ProtocolBindings

open Results Building

theorem requireObject_eq_ok_iff {part : String} {data : Json} {u : Unit} :
    requireObject part data = .ok u ↔ ∃ members, data = .object members := by
  cases data <;> simp [requireObject, Building.malformed]

theorem building_located_eq_ok_iff {α : Type} {location : String} {result : Building α} {a : α} :
    Building.located location result = .ok a ↔ result = .ok a :=
  mapError_eq_ok_iff

theorem documentDescription_eq_ok_iff {data : Json} {text : Option String} :
    documentDescription data = .ok text ↔ description data = .ok text := by
  rw [documentDescription]
  cases description data <;> simp [Building.malformed]

theorem recordDescription_eq_ok_iff {title : String} {data : Json} {text : Option String} :
    recordDescription title data = .ok text ↔ description data = .ok text := by
  rw [recordDescription]
  cases description data <;> simp

/-- The items of a list in an entry of the document; none if the entry has no such list. -/
def Json.itemsOf (entry : Json) (key : String) : List Json :=
  match entry.get? key with
  | some (.array items) => items
  | _ => []

theorem Building.itemsOf_eq {data : Json} {key : String} {items : List Json}
    (h : optionalList data key = .ok items) : data.itemsOf key = items := by
  rw [optionalList] at h
  rw [Json.itemsOf]
  split at h
  · rename_i hnone
    rw [hnone]
    exact Except.ok.inj h
  · rename_i hnull
    rw [hnull]
    exact Except.ok.inj h
  · rename_i hitems
    rw [hitems]
    exact Except.ok.inj h
  · simp [Building.malformed] at h

theorem Building.requireText_eq_ok_iff {data : Json} {key text : String} :
    requireText data key = .ok text ↔ data.get? key = some (.string text) ∧ text ≠ "" := by
  rw [requireText]
  split
  · rename_i s hget
    rw [hget]
    split
    · rename_i hempty
      obtain rfl := eq_of_beq hempty
      simp [Building.malformed]
    · rename_i hne
      have hne' : s ≠ "" := by simpa using hne
      constructor
      · rintro ⟨⟩
        exact ⟨rfl, hne'⟩
      · rintro ⟨⟨⟩, -⟩
        rfl
  · rename_i hother
    simp only [Building.malformed, reduceCtorEq, false_iff, not_and]
    exact fun hget => absurd hget (hother text)

theorem Building.get?_of_requireText {data : Json} {key text : String}
    (h : requireText data key = .ok text) : data.get? key = some (.string text) :=
  (requireText_eq_ok_iff.1 h).1

/-- The parts that are built from the items of a list, each from its own. -/
def Building.ListBuiltFrom {α : Type} (built : Json → α → Prop) (data : Json) (key : String)
    (parts : List α) : Prop :=
  ∃ items, optionalList data key = .ok items ∧ List.Forall₂ built items parts

/-- The parts of a list are built from its items one by one. -/
theorem Building.ListBuiltFrom.forall₂ {α : Type} {built : Json → α → Prop} {data : Json}
    {key : String} {parts : List α} (h : ListBuiltFrom built data key parts) :
    List.Forall₂ built (data.itemsOf key) parts := by
  obtain ⟨items, hitems, hbuilt⟩ := h
  rw [itemsOf_eq hitems]
  exact hbuilt

theorem Domain.repeatedTypeId?_eq_none_iff {d : Domain} :
    d.repeatedTypeId? = none ↔ (d.types.map (·.id)).Nodup := by
  rw [repeatedTypeId?, firstRepeated?_eq_none_iff]
  simp

theorem Schema.repeatedDomain?_eq_none_iff {schema : Schema} :
    schema.repeatedDomain? = none ↔ schema.domainNames.Nodup := by
  rw [repeatedDomain?, firstRepeated?_eq_none_iff]
  simp

variable [Host]

theorem TypeRef.requireShallow_eq_ok_iff {nesting : Nat} {u : Unit} :
    requireShallow nesting = .ok u ↔ nesting ≤ Host.typeDepth := by
  rw [requireShallow]
  split
  · simp
    omega
  · simp
    omega

/-- What a property holds that is built from `data`. -/
structure Property.IsBuiltFrom (data : Json) (p : Property) : Prop where
  isObject : ∃ members, data = .object members
  name : requireText data "name" = .ok p.name
  shallow : TypeRef.nesting data ≤ Host.typeDepth
  typeRef : TypeRef.ofJson data = .ok p.typeRef
  allowed : allowedValues data = .ok p.allowed
  description : Building.description data = .ok p.description
  optional : p.optional = flag data "optional"
  experimental : p.experimental = flag data "experimental"
  deprecated : p.deprecated = flag data "deprecated"

theorem Property.ofJson_eq_ok_iff {data : Json} {p : Property} :
    Property.ofJson data = .ok p ↔ p.IsBuiltFrom data := by
  simp only [Property.ofJson, bind_eq_ok_iff, pure_eq_ok_iff, requireObject_eq_ok_iff,
    TypeRef.requireShallow_eq_ok_iff, recordDescription_eq_ok_iff]
  constructor
  · rintro ⟨-, hobject, name, hname, -, hshallow, typeRef, htypeRef, allowed, hallowed,
      description, hdescription, rfl⟩
    exact ⟨hobject, hname, hshallow, htypeRef, hallowed, hdescription, rfl, rfl, rfl⟩
  · intro h
    obtain ⟨name, description, optional, experimental, deprecated, typeRef, allowed⟩ := p
    refine ⟨(), h.isObject, name, h.name, (), h.shallow, typeRef, h.typeRef, allowed, h.allowed,
      description, h.description, ?_⟩
    obtain rfl := h.optional
    obtain rfl := h.experimental
    obtain rfl := h.deprecated
    rfl

/-- What a type holds that is built from `data`. -/
structure TypeDef.IsBuiltFrom (data : Json) (t : TypeDef) : Prop where
  isObject : ∃ members, data = .object members
  id : requireText data "id" = .ok t.id
  shape : TypeShape.ofJson data = .ok t.shape
  properties : ListBuiltFrom Property.IsBuiltFrom data "properties" t.properties
  allowed : allowedValues data = .ok t.allowed
  description : Building.description data = .ok t.description
  experimental : t.experimental = flag data "experimental"
  deprecated : t.deprecated = flag data "deprecated"
  backed : t.shapeFault? = none

theorem TypeDef.ofJson_eq_ok_iff {data : Json} {t : TypeDef} :
    TypeDef.ofJson data = .ok t ↔ t.IsBuiltFrom data := by
  simp only [TypeDef.ofJson, bind_eq_ok_iff, requireObject_eq_ok_iff, mapM_eq_ok_iff,
    documentDescription_eq_ok_iff, Property.ofJson_eq_ok_iff]
  constructor
  · rintro ⟨-, hobject, id, hid, shape, hshape, items, hitems, properties, hproperties, allowed,
      hallowed, description, hdescription, h⟩
    split at h
    · simp [Building.malformed] at h
    · rename_i hfault
      obtain rfl := pure_eq_ok_iff.1 h
      exact ⟨hobject, hid, hshape, ⟨items, hitems, hproperties⟩, hallowed, hdescription, rfl, rfl,
        hfault⟩
  · intro h
    obtain ⟨id, description, experimental, deprecated, shape, allowed, properties⟩ := t
    obtain ⟨items, hitems, hproperties⟩ := h.properties
    refine ⟨(), h.isObject, id, h.id, shape, h.shape, items, hitems, properties, hproperties,
      allowed, h.allowed, description, h.description, ?_⟩
    obtain rfl := h.experimental
    obtain rfl := h.deprecated
    rw [h.backed]
    rfl

/-- What a command holds that is built from `data`. -/
structure Command.IsBuiltFrom (data : Json) (c : Command) : Prop where
  isObject : ∃ members, data = .object members
  name : requireText data "name" = .ok c.name
  parameters : ListBuiltFrom Property.IsBuiltFrom data "parameters" c.parameters
  returns : ListBuiltFrom Property.IsBuiltFrom data "returns" c.returns
  description : Building.description data = .ok c.description
  experimental : c.experimental = flag data "experimental"
  deprecated : c.deprecated = flag data "deprecated"

theorem Command.ofJson_eq_ok_iff {data : Json} {c : Command} :
    Command.ofJson data = .ok c ↔ c.IsBuiltFrom data := by
  simp only [Command.ofJson, bind_eq_ok_iff, pure_eq_ok_iff, requireObject_eq_ok_iff,
    mapM_eq_ok_iff, recordDescription_eq_ok_iff, Property.ofJson_eq_ok_iff]
  constructor
  · rintro ⟨-, hobject, name, hname, items, hitems, parameters, hparameters, others, hothers,
      returns, hreturns, description, hdescription, rfl⟩
    exact ⟨hobject, hname, ⟨items, hitems, hparameters⟩, ⟨others, hothers, hreturns⟩,
      hdescription, rfl, rfl⟩
  · intro h
    obtain ⟨name, description, experimental, deprecated, parameters, returns⟩ := c
    obtain ⟨items, hitems, hparameters⟩ := h.parameters
    obtain ⟨others, hothers, hreturns⟩ := h.returns
    refine ⟨(), h.isObject, name, h.name, items, hitems, parameters, hparameters, others, hothers,
      returns, hreturns, description, h.description, ?_⟩
    obtain rfl := h.experimental
    obtain rfl := h.deprecated
    rfl

/-- What a domain holds that is built from `data`. -/
structure Domain.IsBuiltFrom (data : Json) (d : Domain) : Prop where
  isObject : ∃ members, data = .object members
  name : requireText data "domain" = .ok d.name
  types : ListBuiltFrom TypeDef.IsBuiltFrom data "types" d.types
  commands : ListBuiltFrom Command.IsBuiltFrom data "commands" d.commands
  dependencies : ∃ items, optionalList data "dependencies" = .ok items ∧
    d.dependencies = items.map (·.display)
  description : Building.description data = .ok d.description
  experimental : d.experimental = flag data "experimental"
  deprecated : d.deprecated = flag data "deprecated"
  distinct : (d.types.map (·.id)).Nodup

theorem Domain.ofJson_eq_ok_iff {data : Json} {d : Domain} :
    Domain.ofJson data = .ok d ↔ d.IsBuiltFrom data := by
  simp only [Domain.ofJson, bind_eq_ok_iff, requireObject_eq_ok_iff, mapM_eq_ok_iff,
    building_located_eq_ok_iff, documentDescription_eq_ok_iff, TypeDef.ofJson_eq_ok_iff,
    Command.ofJson_eq_ok_iff]
  constructor
  · rintro ⟨-, hobject, name, hname, typeItems, htypeItems, types, htypes, commandItems,
      hcommandItems, commands, hcommands, dependencies, hdependencies, description, hdescription,
      h⟩
    split at h
    · simp [Building.malformed] at h
    · rename_i hdistinct
      obtain rfl := pure_eq_ok_iff.1 h
      exact ⟨hobject, hname, ⟨typeItems, htypeItems, htypes⟩,
        ⟨commandItems, hcommandItems, hcommands⟩, ⟨dependencies, hdependencies, rfl⟩,
        hdescription, rfl, rfl, repeatedTypeId?_eq_none_iff.1 hdistinct⟩
  · intro h
    have hdistinct := repeatedTypeId?_eq_none_iff.2 h.distinct
    obtain ⟨name, description, experimental, deprecated, texts, types, commands⟩ := d
    obtain ⟨typeItems, htypeItems, htypes⟩ := h.types
    obtain ⟨commandItems, hcommandItems, hcommands⟩ := h.commands
    obtain ⟨dependencies, hdependencies, rfl⟩ := h.dependencies
    refine ⟨(), h.isObject, name, h.name, typeItems, htypeItems, types, htypes, commandItems,
      hcommandItems, commands, hcommands, dependencies, hdependencies, description, h.description,
      ?_⟩
    obtain rfl := h.experimental
    obtain rfl := h.deprecated
    rw [hdistinct]
    rfl

theorem Domain.listOfJson_eq_ok_iff {position : Nat} {entries : List Json}
    {domains : List Domain} :
    Domain.listOfJson position entries = .ok domains ↔
      List.Forall₂ Domain.IsBuiltFrom entries domains := by
  induction entries generalizing position domains with
  | nil =>
    rw [listOfJson, List.forall₂_nil_left_iff]
    simp [eq_comm]
  | cons data rest ih =>
    simp only [listOfJson, bind_eq_ok_iff, pure_eq_ok_iff, building_located_eq_ok_iff,
      Domain.ofJson_eq_ok_iff, ih, List.forall₂_cons_left_iff]
    constructor
    · rintro ⟨d, hd, others, hothers, rfl⟩
      exact ⟨d, others, hd, hothers, rfl⟩
    · rintro ⟨d, others, hd, hothers, rfl⟩
      exact ⟨d, hd, others, hothers, rfl⟩

/-- What a schema holds that is built from `document`. -/
structure Schema.IsBuiltFrom (version : ProtocolVersion) (document : Json) (schema : Schema) :
    Prop where
  version : schema.version = version.name
  domains : ∃ entries, document.get? "domains" = some (.array entries) ∧
    List.Forall₂ Domain.IsBuiltFrom entries schema.domains
  distinct : schema.domainNames.Nodup

theorem Schema.ofJson_eq_ok_iff {version : ProtocolVersion} {document : Json} {schema : Schema} :
    Schema.ofJson version document = .ok schema ↔ schema.IsBuiltFrom version document := by
  rw [Schema.ofJson]
  constructor
  · intro h
    split at h
    · rename_i entries hentries
      obtain ⟨domains, hdomains, h⟩ := bind_eq_ok_iff.1 h
      rw [Domain.listOfJson_eq_ok_iff] at hdomains
      dsimp only at h
      split at h
      · simp [Building.malformed] at h
      · rename_i hdistinct
        obtain rfl := pure_eq_ok_iff.1 h
        exact ⟨rfl, ⟨entries, hentries, hdomains⟩, repeatedDomain?_eq_none_iff.1 hdistinct⟩
    · simp [Building.malformed] at h
  · intro h
    obtain ⟨entries, hentries, hdomains⟩ := h.domains
    have hdistinct := repeatedDomain?_eq_none_iff.2 h.distinct
    obtain ⟨name, domains⟩ := schema
    obtain rfl := h.version
    rw [hentries]
    refine bind_eq_ok_iff.2 ⟨domains, Domain.listOfJson_eq_ok_iff.2 hdomains, ?_⟩
    dsimp only
    rw [hdistinct]
    rfl

end ProtocolBindings
