import ProtocolBindings.Proofs.Schema.Build

/-!
# Faults that are not reported as such

A fault in a document is to end the construction of a schema with an error that says what is
wrong with the document and where.  Two kinds of faults escape this: a description in a property
or a command that is not a text, and arrays that lie too deep inside one another.  The
construction ends with them exactly if everything before them can be built.
-/

namespace ProtocolBindings

open Results Building

/-- The reasons that lie in the protocol: its file is missing, its document is malformed, or a
reference in it cannot be taken apart. -/
def GenerationError.Cause.IsOfProtocol : GenerationError.Cause → Prop
  | .general _ => False
  | _ => True

/-- The errors that are reported with a reason that lies in the protocol. -/
def BuildError.IsOfProtocol : BuildError → Prop
  | .generation e => e.cause.IsOfProtocol
  | _ => False

theorem BuildError.isOfProtocol_within {location : String} {e : BuildError} :
    (e.within location).IsOfProtocol ↔ e.IsOfProtocol := by
  cases e with
  | generation e =>
    rw [within, IsOfProtocol, IsOfProtocol, GenerationError.within]
    split
    · rfl
    · rfl
  | invalidRecord e => rfl
  | tooDeep => rfl

/-- Whether a construction ends with an error that is not reported as one of the protocol. -/
def Building.Escapes {α : Type} (result : Building α) : Prop :=
  ∃ e, result = .error e ∧ ¬e.IsOfProtocol

/-- Whether every error of a construction is one of the protocol that has no location yet. -/
def Building.IsSimple {α : Type} (result : Building α) : Prop :=
  ∀ e, result = .error e →
    ∃ cause : GenerationError.Cause, cause.IsOfProtocol ∧ e = .generation { cause }

namespace Building

variable {α β : Type} {data : Json}

theorem isSimple_ok {a : α} : IsSimple (.ok a : Building α) := by
  intro e h
  cases h

theorem isSimple_malformed {malformation : Malformation} :
    IsSimple (malformed malformation : Building α) := by
  intro e h
  obtain rfl := Except.error.inj h
  exact ⟨.schemaMalformed malformation, trivial, rfl⟩

theorem IsSimple.map {x : Building α} {f : α → β} (h : IsSimple x) : IsSimple (x.map f) :=
  fun e hmap => h e (map_eq_error_iff.1 hmap)

theorem IsSimple.not_escapes {result : Building α} (h : IsSimple result) : ¬Escapes result := by
  rintro ⟨e, herror, he⟩
  obtain ⟨cause, hcause, rfl⟩ := h e herror
  exact he hcause

theorem not_escapes_ok {a : α} : ¬Escapes (.ok a : Building α) :=
  isSimple_ok.not_escapes

theorem not_escapes_pure {a : α} : ¬Escapes (pure a : Building α) :=
  not_escapes_ok

theorem not_escapes_malformed {malformation : Malformation} :
    ¬Escapes (malformed malformation : Building α) :=
  isSimple_malformed.not_escapes

theorem escapes_tooDeep : Escapes (.error .tooDeep : Building α) :=
  ⟨_, rfl, fun h => h⟩

theorem escapes_bind_iff {x : Building α} {f : α → Building β} :
    Escapes (x >>= f) ↔ Escapes x ∨ ∃ a, x = .ok a ∧ Escapes (f a) := by
  constructor
  · rintro ⟨e, h, he⟩
    rcases bind_eq_error_iff.1 h with hx | ⟨a, ha, hf⟩
    · exact Or.inl ⟨e, hx, he⟩
    · exact Or.inr ⟨a, ha, e, hf, he⟩
  · rintro (⟨e, hx, he⟩ | ⟨a, ha, e, hf, he⟩)
    · exact ⟨e, bind_eq_error_iff.2 (Or.inl hx), he⟩
    · exact ⟨e, bind_eq_error_iff.2 (Or.inr ⟨a, ha, hf⟩), he⟩

theorem escapes_map_iff {x : Building α} {f : α → β} : Escapes (x.map f) ↔ Escapes x := by
  refine exists_congr fun e => and_congr_left fun _ => ?_
  exact map_eq_error_iff

theorem escapes_located_iff {location : String} {result : Building α} :
    Escapes (Building.located location result) ↔ Escapes result := by
  constructor
  · rintro ⟨_, h, he⟩
    obtain ⟨e, hresult, rfl⟩ := mapError_eq_error_iff.1 h
    exact ⟨e, hresult, fun hprotocol => he (BuildError.isOfProtocol_within.2 hprotocol)⟩
  · rintro ⟨e, h, he⟩
    exact ⟨e.within location, mapError_eq_error_iff.2 ⟨e, h, rfl⟩,
      fun hprotocol => he (BuildError.isOfProtocol_within.1 hprotocol)⟩

/-- Whether the first item of a list of parts that cannot be built is one with the given
property. -/
def FirstFault (built : Json → α → Prop) (fault : Json → Prop) (items : List Json) : Prop :=
  ∃ before item after, items = before ++ item :: after ∧ (∀ x ∈ before, ∃ a, built x a) ∧
    fault item

theorem escapes_mapM_iff {f : Json → Building α} {built : Json → α → Prop}
    {fault : Json → Prop} {items : List Json} (hbuilt : ∀ x a, f x = .ok a ↔ built x a)
    (hfault : ∀ x, Escapes (f x) ↔ fault x) :
    Escapes (items.mapM f) ↔ FirstFault built fault items := by
  constructor
  · rintro ⟨e, h, he⟩
    obtain ⟨before, item, after, hitems, hbefore, hitem⟩ := mapM_eq_error_iff.1 h
    refine ⟨before, item, after, hitems, ?_, (hfault item).1 ⟨e, hitem, he⟩⟩
    intro x hx
    obtain ⟨a, ha⟩ := hbefore x hx
    exact ⟨a, (hbuilt x a).1 ha⟩
  · rintro ⟨before, item, after, hitems, hbefore, hitem⟩
    obtain ⟨e, hfe, he⟩ := (hfault item).2 hitem
    refine ⟨e, mapM_eq_error_iff.2 ⟨before, item, after, hitems, ?_, hfe⟩, he⟩
    intro x hx
    obtain ⟨a, ha⟩ := hbefore x hx
    exact ⟨a, (hbuilt x a).2 ha⟩

/-! ## Fields -/

theorem isSimple_requireObject {part : String} : IsSimple (requireObject part data) := by
  cases data with
  | object members => exact isSimple_ok
  | _ => exact isSimple_malformed

theorem isSimple_requireText {key : String} : IsSimple (requireText data key) := by
  rw [requireText]
  split
  · split
    · exact isSimple_malformed
    · exact isSimple_ok
  · exact isSimple_malformed

theorem isSimple_optionalList {key : String} : IsSimple (optionalList data key) := by
  rw [optionalList]
  split
  · exact isSimple_ok
  · exact isSimple_ok
  · exact isSimple_ok
  · exact isSimple_malformed

theorem isSimple_allowedValues : IsSimple (allowedValues data) := by
  rw [allowedValues]
  split
  · exact isSimple_ok
  · exact isSimple_ok
  · exact isSimple_ok
  · exact isSimple_malformed

theorem isSimple_documentDescription : IsSimple (documentDescription data) := by
  rw [documentDescription]
  split
  · exact isSimple_ok
  · exact isSimple_malformed

/-- Whether there is a description that is neither a text nor null. -/
def DescriptionIsNoText (data : Json) : Prop :=
  ∃ value, data.get? "description" = some value ∧ value ≠ .null ∧ ∀ s, value ≠ .string s

theorem description_eq_error_iff :
    (∃ e, description data = .error e) ↔ DescriptionIsNoText data := by
  rw [description, DescriptionIsNoText]
  rcases data.get? "description" with _ | value
  · simp
  · cases value <;> simp

/-- A description is reported as a fault of its record only. -/
theorem escapes_recordDescription_iff {title : String} :
    Escapes (recordDescription title data) ↔ DescriptionIsNoText data := by
  rw [← description_eq_error_iff, recordDescription]
  cases description data with
  | ok text => simp [not_escapes_ok]
  | error e => simpa using ⟨_, rfl, fun h => h⟩

end Building

/-! ## Type references -/

theorem Reference.isSimple_parse (ref : Json) :
    IsSimple ((Reference.parse ref).mapError .generation) := by
  intro e h
  obtain ⟨d, hd, rfl⟩ := mapError_eq_error_iff.1 h
  rw [Reference.parse] at hd
  split at hd
  · cases hd
  · obtain rfl := Except.error.inj hd
    exact ⟨.unresolvedReference ref.display, trivial, rfl⟩

/-- Nothing but a reference is a fault in a node of a document. -/
theorem TypeRef.isSimple_built :
    (∀ data, IsSimple (TypeRef.ofJson data)) ∧
      (∀ members rest, IsSimple (TypeRef.ofMembers members rest)) ∧
        ∀ members, IsSimple (TypeRef.itemsOf members) := by
  apply TypeRef.ofJson.mutual_induct
  case case1 =>
    intro members ih
    rwa [TypeRef.ofJson]
  case case2 =>
    intro other hother
    rw [TypeRef.ofJson]
    · exact isSimple_ok
    · exact hother
  case case3 =>
    intro members rest ref href
    rw [TypeRef.ofMembers, href]
    intro e h
    obtain ⟨d, hd, rfl⟩ := mapError_eq_error_iff.1 h
    exact Reference.isSimple_parse ref _
      (mapError_eq_error_iff.2 ⟨d, map_eq_error_iff.1 hd, rfl⟩)
  case case4 =>
    intro members rest href htype ih
    rw [TypeRef.ofMembers, href, htype]
    exact ih.map
  case case5 =>
    intro members rest href name hname htype
    rw [TypeRef.ofMembers, href, htype]
    simp only
    exact isSimple_ok
  case case6 =>
    intro members rest href harray htext
    rw [TypeRef.ofMembers, href]
    simp only
    exact isSimple_ok
  case case7 =>
    rw [TypeRef.itemsOf]
    exact isSimple_ok
  case case8 =>
    intro name value rest hname ih
    rwa [TypeRef.itemsOf, if_pos hname]
  case case9 =>
    intro name value rest hname ih
    rwa [TypeRef.itemsOf, if_neg hname]

variable [Host]

theorem TypeRef.escapes_requireShallow_iff {nesting : Nat} :
    Escapes (TypeRef.requireShallow nesting) ↔ Host.typeDepth < nesting := by
  rw [requireShallow]
  split
  · rename_i hdepth
    simp [hdepth, escapes_tooDeep]
  · rename_i hdepth
    simp [hdepth, not_escapes_ok]

/-- Whether the elements of an array type lie too deep. -/
def TypeShape.IsTooDeep (data : Json) : Prop :=
  data.get? "type" = some (.string "array") ∧
    ∃ members, data = .object members ∧ Host.typeDepth < TypeRef.itemsNesting members

theorem TypeRef.escapes_elementsOf_iff {data : Json} : Escapes (TypeRef.elementsOf data) ↔
    ∃ members, data = .object members ∧ Host.typeDepth < TypeRef.itemsNesting members := by
  rw [elementsOf.eq_def]
  split
  · rename_i members
    simp [escapes_bind_iff, (TypeRef.isSimple_built.2.2 members).not_escapes,
      escapes_requireShallow_iff]
  · rename_i hother
    simp only [not_escapes_ok, false_iff, not_exists, not_and]
    exact fun members hobject => absurd hobject (hother members)

theorem TypeShape.escapes_ofJson_iff {data : Json} :
    Escapes (TypeShape.ofJson data) ↔ IsTooDeep data := by
  rw [TypeShape.ofJson, IsTooDeep]
  split
  · rename_i name htype
    rw [htype]
    split
    · rename_i henum
      rw [Bool.and_eq_true, beq_iff_eq] at henum
      simp [not_escapes_ok, henum.1]
    · split
      · rename_i hobject
        rw [Bool.and_eq_true, beq_iff_eq] at hobject
        simp [not_escapes_ok, hobject.1]
      · split
        · rename_i harray
          rw [escapes_map_iff, TypeRef.escapes_elementsOf_iff]
          simp [eq_of_beq harray]
        · rename_i harray
          have hname : name ≠ "array" := fun heq => harray (beq_iff_eq.2 heq)
          simp [not_escapes_ok, hname]
  · rename_i hother
    simp only [not_escapes_ok, false_iff, not_and]
    intro htype
    exact absurd htype (hother "array")

/-! ## Parts of a schema -/

/-- Whether a property cannot be built for a reason that is not reported as one of the protocol:
its type lies too deep, whatever that type is, or nothing is wrong with it but its description. -/
def Property.HasEscape (data : Json) : Prop :=
  (∃ members, data = .object members) ∧ (∃ name, requireText data "name" = .ok name) ∧
    (Host.typeDepth < TypeRef.nesting data ∨
      TypeRef.nesting data ≤ Host.typeDepth ∧ (∃ r, TypeRef.ofJson data = .ok r) ∧
        (∃ allowed, allowedValues data = .ok allowed) ∧ DescriptionIsNoText data)

theorem Property.escapes_ofJson_iff {data : Json} :
    Escapes (Property.ofJson data) ↔ Property.HasEscape data := by
  simp only [Property.ofJson, escapes_bind_iff, isSimple_requireObject.not_escapes,
    isSimple_requireText.not_escapes, (TypeRef.isSimple_built.1 data).not_escapes,
    isSimple_allowedValues.not_escapes, not_escapes_pure, TypeRef.escapes_requireShallow_iff,
    escapes_recordDescription_iff, requireObject_eq_ok_iff, TypeRef.requireShallow_eq_ok_iff,
    false_or, and_false, exists_false, or_false]
  constructor
  · rintro ⟨-, hobject, name, hname, hdepth | ⟨-, hshallow, r, hr, allowed, hallowed, htext⟩⟩
    · exact ⟨hobject, ⟨name, hname⟩, Or.inl hdepth⟩
    · exact ⟨hobject, ⟨name, hname⟩, Or.inr ⟨hshallow, ⟨r, hr⟩, ⟨allowed, hallowed⟩, htext⟩⟩
  · rintro ⟨hobject, ⟨name, hname⟩, hdepth | ⟨hshallow, ⟨r, hr⟩, ⟨allowed, hallowed⟩, htext⟩⟩
    · exact ⟨(), hobject, name, hname, Or.inl hdepth⟩
    · exact ⟨(), hobject, name, hname, Or.inr ⟨(), hshallow, r, hr, allowed, hallowed, htext⟩⟩

/-- Whether the first property of a list that cannot be built is one of those. -/
abbrev Property.ListHasEscape (items : List Json) : Prop :=
  FirstFault Property.IsBuiltFrom Property.HasEscape items

theorem Property.escapes_list_iff {items : List Json} :
    Escapes (items.mapM Property.ofJson) ↔ ListHasEscape items :=
  escapes_mapM_iff (fun _ _ => Property.ofJson_eq_ok_iff) fun _ => Property.escapes_ofJson_iff

/-- Whether a type cannot be built for such a reason: its elements lie too deep, or its first
fault is that of a property. -/
def TypeDef.HasEscape (data : Json) : Prop :=
  (∃ members, data = .object members) ∧ (∃ id, requireText data "id" = .ok id) ∧
    (TypeShape.IsTooDeep data ∨
      (∃ shape, TypeShape.ofJson data = .ok shape) ∧
        ∃ items, optionalList data "properties" = .ok items ∧ Property.ListHasEscape items)

theorem TypeDef.escapes_ofJson_iff {data : Json} :
    Escapes (TypeDef.ofJson data) ↔ TypeDef.HasEscape data := by
  simp only [TypeDef.ofJson, escapes_bind_iff, isSimple_requireObject.not_escapes,
    isSimple_requireText.not_escapes, isSimple_optionalList.not_escapes,
    isSimple_allowedValues.not_escapes, isSimple_documentDescription.not_escapes,
    TypeShape.escapes_ofJson_iff, Property.escapes_list_iff, requireObject_eq_ok_iff, false_or]
  constructor
  · rintro ⟨-, hobject, id, hid, hdeep | ⟨shape, hshape, items, hitems, h⟩⟩
    · exact ⟨hobject, ⟨id, hid⟩, Or.inl hdeep⟩
    · refine ⟨hobject, ⟨id, hid⟩, Or.inr ⟨⟨shape, hshape⟩, items, hitems, ?_⟩⟩
      rcases h with hfault | ⟨properties, -, allowed, -, description, -, hchecked⟩
      · exact hfault
      · split at hchecked
        · exact absurd hchecked not_escapes_malformed
        · exact absurd hchecked not_escapes_pure
  · rintro ⟨hobject, ⟨id, hid⟩, hdeep | ⟨⟨shape, hshape⟩, items, hitems, hfault⟩⟩
    · exact ⟨(), hobject, id, hid, Or.inl hdeep⟩
    · exact ⟨(), hobject, id, hid, Or.inr ⟨shape, hshape, items, hitems, Or.inl hfault⟩⟩

/-- Whether a command cannot be built for such a reason: its first fault is that of a parameter or
of a returned value, or nothing is wrong with it but its description. -/
def Command.HasEscape (data : Json) : Prop :=
  (∃ members, data = .object members) ∧ (∃ name, requireText data "name" = .ok name) ∧
    ∃ items, optionalList data "parameters" = .ok items ∧
      (Property.ListHasEscape items ∨
        (∃ parameters, List.Forall₂ Property.IsBuiltFrom items parameters) ∧
          ∃ others, optionalList data "returns" = .ok others ∧
            (Property.ListHasEscape others ∨
              (∃ returns, List.Forall₂ Property.IsBuiltFrom others returns) ∧
                DescriptionIsNoText data))

theorem Command.escapes_ofJson_iff {data : Json} :
    Escapes (Command.ofJson data) ↔ Command.HasEscape data := by
  simp only [Command.ofJson, escapes_bind_iff, isSimple_requireObject.not_escapes,
    isSimple_requireText.not_escapes, isSimple_optionalList.not_escapes, not_escapes_pure,
    escapes_recordDescription_iff, Property.escapes_list_iff, requireObject_eq_ok_iff,
    mapM_eq_ok_iff, Property.ofJson_eq_ok_iff, false_or, and_false, exists_false, or_false]
  constructor
  · rintro ⟨-, hobject, name, hname, items, hitems, h⟩
    refine ⟨hobject, ⟨name, hname⟩, items, hitems, ?_⟩
    rcases h with hfault | ⟨parameters, hparameters, others, hothers, h⟩
    · exact Or.inl hfault
    · refine Or.inr ⟨⟨parameters, hparameters⟩, others, hothers, ?_⟩
      rcases h with hfault | ⟨returns, hreturns, htext⟩
      · exact Or.inl hfault
      · exact Or.inr ⟨⟨returns, hreturns⟩, htext⟩
  · rintro ⟨hobject, ⟨name, hname⟩, items, hitems, h⟩
    refine ⟨(), hobject, name, hname, items, hitems, ?_⟩
    rcases h with hfault | ⟨⟨parameters, hparameters⟩, others, hothers, h⟩
    · exact Or.inl hfault
    · refine Or.inr ⟨parameters, hparameters, others, hothers, ?_⟩
      rcases h with hfault | ⟨⟨returns, hreturns⟩, htext⟩
      · exact Or.inl hfault
      · exact Or.inr ⟨returns, hreturns, htext⟩

/-- Whether a domain cannot be built for such a reason: its first fault is that of a type or of a
command. -/
def Domain.HasEscape (data : Json) : Prop :=
  (∃ members, data = .object members) ∧ (∃ name, requireText data "domain" = .ok name) ∧
    ∃ items, optionalList data "types" = .ok items ∧
      (FirstFault TypeDef.IsBuiltFrom TypeDef.HasEscape items ∨
        (∃ types, List.Forall₂ TypeDef.IsBuiltFrom items types) ∧
          ∃ others, optionalList data "commands" = .ok others ∧
            FirstFault Command.IsBuiltFrom Command.HasEscape others)

theorem Domain.escapes_ofJson_iff {data : Json} :
    Escapes (Domain.ofJson data) ↔ Domain.HasEscape data := by
  have htypes : ∀ (name : String) (items : List Json),
      Escapes (items.mapM fun t =>
          Building.located (partLocation name t "id") (TypeDef.ofJson t)) ↔
        FirstFault TypeDef.IsBuiltFrom TypeDef.HasEscape items :=
    fun name items => escapes_mapM_iff
      (fun _ _ => building_located_eq_ok_iff.trans TypeDef.ofJson_eq_ok_iff)
      fun _ => escapes_located_iff.trans TypeDef.escapes_ofJson_iff
  have hcommands : ∀ (name : String) (items : List Json),
      Escapes (items.mapM fun c =>
          Building.located (partLocation name c "name") (Command.ofJson c)) ↔
        FirstFault Command.IsBuiltFrom Command.HasEscape items :=
    fun name items => escapes_mapM_iff
      (fun _ _ => building_located_eq_ok_iff.trans Command.ofJson_eq_ok_iff)
      fun _ => escapes_located_iff.trans Command.escapes_ofJson_iff
  simp only [Domain.ofJson, escapes_bind_iff, isSimple_requireObject.not_escapes,
    isSimple_requireText.not_escapes, isSimple_optionalList.not_escapes,
    isSimple_documentDescription.not_escapes, htypes, hcommands, requireObject_eq_ok_iff,
    mapM_eq_ok_iff, building_located_eq_ok_iff, TypeDef.ofJson_eq_ok_iff, false_or]
  constructor
  · rintro ⟨-, hobject, name, hname, items, hitems, h⟩
    refine ⟨hobject, ⟨name, hname⟩, items, hitems, ?_⟩
    rcases h with hfault | ⟨types, htypes, others, hothers, h⟩
    · exact Or.inl hfault
    · refine Or.inr ⟨⟨types, htypes⟩, others, hothers, ?_⟩
      rcases h with hfault | ⟨commands, -, dependencies, -, description, -, hchecked⟩
      · exact hfault
      · split at hchecked
        · exact absurd hchecked not_escapes_malformed
        · exact absurd hchecked not_escapes_pure
  · rintro ⟨hobject, ⟨name, hname⟩, items, hitems, h⟩
    refine ⟨(), hobject, name, hname, items, hitems, ?_⟩
    rcases h with hfault | ⟨⟨types, htypes⟩, others, hothers, hfault⟩
    · exact Or.inl hfault
    · exact Or.inr ⟨types, htypes, others, hothers, Or.inl hfault⟩

theorem Domain.escapes_listOfJson_iff {position : Nat} {entries : List Json} :
    Escapes (Domain.listOfJson position entries) ↔
      FirstFault Domain.IsBuiltFrom Domain.HasEscape entries := by
  induction entries generalizing position with
  | nil =>
    rw [listOfJson]
    refine ⟨fun h => absurd h not_escapes_ok, ?_⟩
    rintro ⟨before, item, after, hitems, -, -⟩
    simp at hitems
  | cons data rest ih =>
    simp only [listOfJson, escapes_bind_iff, escapes_located_iff, Domain.escapes_ofJson_iff,
      building_located_eq_ok_iff, Domain.ofJson_eq_ok_iff, ih, not_escapes_pure, and_false,
      exists_false, or_false]
    constructor
    · rintro (hfault | ⟨d, hd, before, item, after, rfl, hbefore, hfault⟩)
      · exact ⟨[], data, rest, rfl, by simp, hfault⟩
      · refine ⟨data :: before, item, after, rfl, ?_, hfault⟩
        exact List.forall_mem_cons.2 ⟨⟨d, hd⟩, hbefore⟩
    · rintro ⟨before, item, after, hitems, hbefore, hfault⟩
      cases before with
      | nil =>
        obtain ⟨rfl, rfl⟩ := List.cons.inj hitems
        exact Or.inl hfault
      | cons first before =>
        obtain ⟨rfl, rfl⟩ := List.cons.inj hitems
        obtain ⟨⟨d, hd⟩, hbefore⟩ := List.forall_mem_cons.1 hbefore
        exact Or.inr ⟨d, hd, before, item, after, rfl, hbefore, hfault⟩

/-- Whether a schema cannot be built for such a reason: the first fault in a domain is one of
those. -/
def Schema.HasEscape (document : Json) : Prop :=
  ∃ entries, document.get? "domains" = some (.array entries) ∧
    FirstFault Domain.IsBuiltFrom Domain.HasEscape entries

theorem Schema.escapes_ofJson_iff (version : ProtocolVersion) (document : Json) :
    Escapes (Schema.ofJson version document) ↔ Schema.HasEscape document := by
  rw [Schema.ofJson, HasEscape]
  split
  · rename_i entries hentries
    rw [hentries, escapes_bind_iff, Domain.escapes_listOfJson_iff]
    constructor
    · rintro (hfault | ⟨domains, -, hchecked⟩)
      · exact ⟨entries, rfl, hfault⟩
      · dsimp only at hchecked
        split at hchecked
        · exact absurd hchecked not_escapes_malformed
        · exact absurd hchecked not_escapes_pure
    · rintro ⟨_, ⟨⟩, hfault⟩
      exact Or.inl hfault
  · rename_i hother
    refine ⟨fun h => absurd h not_escapes_malformed, ?_⟩
    rintro ⟨entries, hentries, -⟩
    exact absurd hentries (hother entries)

end ProtocolBindings
