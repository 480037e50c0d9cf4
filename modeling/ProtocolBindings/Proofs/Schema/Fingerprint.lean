import ProtocolBindings.Proofs.Json.RoundTrip
import ProtocolBindings.Schema.Fingerprint

/-!
# What a fingerprint is taken of

The record of a schema holds no numbers, and no object in it has two members of one name.  So its
text is read back as the record, and the record gives away every field of the schema: the texts of
two schemas are the same only if the schemas are.
-/

namespace ProtocolBindings

/-! ## Texts that can be read back -/

namespace Json

variable {n : Nat} {value first second : Json}

/-- More arrays and objects may lie inside one another than do. -/
theorem Readable.mono (h : Readable n value) {m : Nat} (hle : n ≤ m) : Readable m value := by
  induction h generalizing m with
  | null => exact .null
  | bool b => exact .bool b
  | string s => exact .string s
  | array _ ih =>
    obtain ⟨m, rfl⟩ := Nat.exists_eq_add_of_le' (Nat.le_of_add_left_le hle)
    exact .array fun item hitem => ih item hitem (Nat.le_of_add_le_add_right hle)
  | object hnames _ ih =>
    obtain ⟨m, rfl⟩ := Nat.exists_eq_add_of_le' (Nat.le_of_add_left_le hle)
    exact .object hnames fun member hmember => ih member hmember (Nat.le_of_add_le_add_right hle)

/-- The text on one line tells the value. -/
theorem Readable.eq_of_write_eq (hfirst : Readable n first) (hsecond : Readable n second)
    (h : first.write = second.write) : first = second := by
  have hread := hfirst.spells_write.read _ [] (Nat.lt_succ_self _)
  have hread' := hsecond.spells_write.read _ [] (Nat.lt_succ_self _)
  rw [← h, hread] at hread'
  exact congrArg Prod.fst (Except.ok.inj hread')

/-- A value that can be read back where enough arrays and objects may lie inside one another. -/
def IsReadable (value : Json) : Prop :=
  ∃ n, Readable n value

theorem isReadable_string (s : String) : IsReadable (.string s) := ⟨0, .string s⟩

theorem isReadable_bool (b : Bool) : IsReadable (.bool b) := ⟨0, .bool b⟩

theorem isReadable_ofText? (text : Option String) : IsReadable (ofText? text) := by
  cases text with
  | none => exact ⟨0, .null⟩
  | some s => exact isReadable_string s

/-- One depth is enough for finitely many values. -/
theorem exists_readable_of_forall {values : List Json} (h : ∀ value ∈ values, IsReadable value) :
    ∃ n, ∀ value ∈ values, Readable n value := by
  induction values with
  | nil => exact ⟨0, by simp⟩
  | cons first rest ih =>
    obtain ⟨hfirst, hrest⟩ := List.forall_mem_cons.1 h
    obtain ⟨n, hn⟩ := hfirst
    obtain ⟨m, hm⟩ := ih hrest
    refine ⟨max n m, List.forall_mem_cons.2 ⟨hn.mono (Nat.le_max_left n m), ?_⟩⟩
    exact fun value hvalue => (hm value hvalue).mono (Nat.le_max_right n m)

theorem isReadable_array {items : List Json} (h : ∀ item ∈ items, IsReadable item) :
    IsReadable (.array items) := by
  obtain ⟨n, hn⟩ := exists_readable_of_forall h
  exact ⟨n + 1, .array hn⟩

theorem isReadable_object {members : List (String × Json)} (hnames : (members.map Prod.fst).Nodup)
    (h : ∀ value ∈ members.map Prod.snd, IsReadable value) : IsReadable (.object members) := by
  obtain ⟨n, hn⟩ := exists_readable_of_forall h
  exact ⟨n + 1, .object hnames fun member hmember => hn _ (List.mem_map_of_mem hmember)⟩

theorem isReadable_ofTexts (texts : List String) : IsReadable (ofTexts texts) := by
  refine isReadable_array ?_
  rw [List.forall_mem_map]
  exact fun s _ => isReadable_string s

/-- An array of records can be read back if each record can. -/
theorem isReadable_records {α : Type} {record : α → Json} (h : ∀ a, IsReadable (record a))
    (items : List α) : IsReadable (.array (items.map record)) := by
  refine isReadable_array ?_
  rw [List.forall_mem_map]
  exact fun a _ => h a

/-- Values that can be read back and have the same text are the same. -/
theorem toText_inj (hfirst : IsReadable first) (hsecond : IsReadable second) :
    first.toText = second.toText ↔ first = second := by
  constructor
  · intro h
    obtain ⟨n, hn⟩ := hfirst
    obtain ⟨m, hm⟩ := hsecond
    have hwrite : first.write = second.write := String.ofList_injective h
    exact (hn.mono (Nat.le_max_left n m)).eq_of_write_eq (hm.mono (Nat.le_max_right n m)) hwrite
  · rintro rfl
    rfl

theorem ofText?_injective : Function.Injective ofText? := by
  intro a b h
  cases a <;> cases b <;> simp_all [ofText?]

theorem ofTexts_injective : Function.Injective ofTexts := by
  intro a b h
  have hinj : Function.Injective Json.string := fun _ _ => Json.string.inj
  exact List.map_injective_iff.2 hinj (Json.array.inj h)

end Json

open Json (isReadable_string isReadable_bool isReadable_ofText? isReadable_ofTexts
  isReadable_object isReadable_records ofText?_injective ofTexts_injective)

/-! ## The records -/

theorem isReadable_allowedToJson (allowed : Option (List String)) :
    (allowedToJson allowed).IsReadable := by
  cases allowed with
  | none => exact ⟨0, .null⟩
  | some values => exact isReadable_ofTexts values

/-- No list of allowed values differs from an empty one. -/
theorem allowedToJson_injective : Function.Injective allowedToJson := by
  intro a b h
  cases a with
  | none =>
    cases b with
    | none => rfl
    | some values => cases h
  | some values =>
    cases b with
    | none => cases h
    | some values' => rw [ofTexts_injective h]

theorem TypeRef.isReadable_toJson (reference : TypeRef) : reference.toJson.IsReadable := by
  induction reference with
  | primitive name =>
    exact isReadable_object (by decide : ["name"].Nodup) (by simp [isReadable_string])
  | array items ih =>
    exact isReadable_object (by decide : ["items"].Nodup) (by simpa using ih)
  | named reference =>
    exact isReadable_object (by decide : ["domain", "type_id"].Nodup)
      (by simp [isReadable_string, isReadable_ofText?])

/-- Primitives, arrays and named types have different records at every depth. -/
theorem TypeRef.toJson_injective : Function.Injective TypeRef.toJson := by
  intro a
  induction a with
  | primitive name =>
    intro b h
    cases b <;> simp_all [TypeRef.toJson]
  | array items ih =>
    intro b h
    cases b with
    | primitive name => simp [TypeRef.toJson] at h
    | array items' =>
      simp only [TypeRef.toJson, Json.object.injEq, List.cons.injEq, Prod.mk.injEq, true_and,
        and_true] at h
      rw [ih h]
    | named reference => simp [TypeRef.toJson] at h
  | named reference =>
    intro b h
    cases b with
    | primitive name => simp [TypeRef.toJson] at h
    | array items => simp [TypeRef.toJson] at h
    | named reference' =>
      obtain ⟨domain, typeId⟩ := reference
      obtain ⟨domain', typeId'⟩ := reference'
      simp only [TypeRef.toJson, Json.object.injEq, List.cons.injEq, Prod.mk.injEq, true_and,
        and_true, Json.string.injEq] at h
      obtain ⟨hdomain, rfl⟩ := h
      rw [ofText?_injective hdomain]

theorem Property.isReadable_toJson (p : Property) : p.toJson.IsReadable := by
  have hnames : ["deprecated", "description", "enum", "experimental", "name", "optional",
    "type_ref"].Nodup := by decide
  refine isReadable_object hnames ?_
  simp [isReadable_bool, isReadable_string, isReadable_ofText?, isReadable_allowedToJson,
    TypeRef.isReadable_toJson]

theorem Property.toJson_injective : Function.Injective Property.toJson := by
  rintro ⟨name, description, optional, experimental, deprecated, typeRef, allowed⟩
    ⟨name', description', optional', experimental', deprecated', typeRef', allowed'⟩ h
  simp only [Property.toJson, Json.object.injEq, List.cons.injEq, Prod.mk.injEq, true_and,
    and_true, Json.bool.injEq, Json.string.injEq] at h
  obtain ⟨rfl, hdescription, hallowed, rfl, rfl, rfl, htype⟩ := h
  rw [ofText?_injective hdescription, allowedToJson_injective hallowed,
    TypeRef.toJson_injective htype]

/-- The element type of a shape as the record of its type holds it. -/
def TypeShape.itemsToJson (shape : TypeShape) : Json :=
  match shape.items? with
  | none => .null
  | some items => items.toJson

theorem TypeShape.isReadable_itemsToJson (shape : TypeShape) : shape.itemsToJson.IsReadable := by
  rw [TypeShape.itemsToJson]
  split
  · exact ⟨0, .null⟩
  · exact TypeRef.isReadable_toJson _

/-- The word for a shape, its primitive and its element type tell the shape. -/
theorem TypeShape.eq_of_parts {a b : TypeShape} (hkind : a.kindName = b.kindName)
    (hprimitive : a.primitive? = b.primitive?) (hitems : a.itemsToJson = b.itemsToJson) :
    a = b := by
  cases a with
  | enumeration primitive =>
    cases b <;> simp_all [kindName, primitive?]
  | object => cases b <;> simp_all [kindName]
  | primitive name =>
    cases b <;> simp_all [kindName, primitive?]
  | array items =>
    cases b with
    | array items' => rw [TypeRef.toJson_injective hitems]
    | _ => simp [kindName] at hkind
  | unresolved => cases b <;> simp_all [kindName]

theorem TypeDef.isReadable_toJson (t : TypeDef) : t.toJson.IsReadable := by
  have hnames : ["deprecated", "description", "enum", "experimental", "id", "items", "kind",
    "primitive", "properties"].Nodup := by decide
  have hproperties := isReadable_records Property.isReadable_toJson t.properties
  refine isReadable_object hnames ?_
  simp only [List.map_cons, List.map_nil, List.forall_mem_cons, List.not_mem_nil, false_implies,
    implies_true, and_true]
  exact ⟨isReadable_bool _, isReadable_ofText? _, isReadable_allowedToJson _, isReadable_bool _,
    isReadable_string _, t.shape.isReadable_itemsToJson, isReadable_string _,
    isReadable_ofText? _, hproperties⟩

theorem TypeDef.toJson_injective : Function.Injective TypeDef.toJson := by
  rintro ⟨id, description, experimental, deprecated, shape, allowed, properties⟩
    ⟨id', description', experimental', deprecated', shape', allowed', properties'⟩ h
  simp only [TypeDef.toJson, Json.object.injEq, List.cons.injEq, Prod.mk.injEq, true_and,
    and_true, Json.bool.injEq, Json.string.injEq, Json.array.injEq] at h
  obtain ⟨rfl, hdescription, hallowed, rfl, rfl, hitems, hkind, hprimitive, hproperties⟩ := h
  rw [ofText?_injective hdescription, allowedToJson_injective hallowed,
    TypeShape.eq_of_parts hkind (ofText?_injective hprimitive) hitems,
    List.map_injective_iff.2 Property.toJson_injective hproperties]

theorem Command.isReadable_toJson (c : Command) : c.toJson.IsReadable := by
  have hnames : ["deprecated", "description", "experimental", "name", "parameters",
    "returns"].Nodup := by decide
  have hparameters := isReadable_records Property.isReadable_toJson c.parameters
  have hreturns := isReadable_records Property.isReadable_toJson c.returns
  refine isReadable_object hnames ?_
  simp [isReadable_bool, isReadable_string, isReadable_ofText?, hparameters, hreturns]

theorem Command.toJson_injective : Function.Injective Command.toJson := by
  rintro ⟨name, description, experimental, deprecated, parameters, returns⟩
    ⟨name', description', experimental', deprecated', parameters', returns'⟩ h
  simp only [Command.toJson, Json.object.injEq, List.cons.injEq, Prod.mk.injEq, true_and,
    and_true, Json.bool.injEq, Json.string.injEq, Json.array.injEq] at h
  obtain ⟨rfl, hdescription, rfl, rfl, hparameters, hreturns⟩ := h
  rw [ofText?_injective hdescription,
    List.map_injective_iff.2 Property.toJson_injective hparameters,
    List.map_injective_iff.2 Property.toJson_injective hreturns]

theorem Domain.isReadable_toJson (d : Domain) : d.toJson.IsReadable := by
  have hnames : ["commands", "dependencies", "deprecated", "description", "experimental", "name",
    "types"].Nodup := by decide
  have hcommands := isReadable_records Command.isReadable_toJson d.commands
  have htypes := isReadable_records TypeDef.isReadable_toJson d.types
  refine isReadable_object hnames ?_
  simp [isReadable_bool, isReadable_string, isReadable_ofText?, isReadable_ofTexts, hcommands,
    htypes]

theorem Domain.toJson_injective : Function.Injective Domain.toJson := by
  rintro ⟨name, description, experimental, deprecated, dependencies, types, commands⟩
    ⟨name', description', experimental', deprecated', dependencies', types', commands'⟩ h
  simp only [Domain.toJson, Json.object.injEq, List.cons.injEq, Prod.mk.injEq, true_and,
    and_true, Json.bool.injEq, Json.string.injEq, Json.array.injEq] at h
  obtain ⟨hcommands, hdependencies, rfl, hdescription, rfl, rfl, htypes⟩ := h
  rw [ofText?_injective hdescription, ofTexts_injective hdependencies,
    List.map_injective_iff.2 Command.toJson_injective hcommands,
    List.map_injective_iff.2 TypeDef.toJson_injective htypes]

namespace Schema

variable (s : Schema)

theorem isReadable_toJson : s.toJson.IsReadable := by
  have hdomains := isReadable_records Domain.isReadable_toJson s.domains
  refine isReadable_object (by decide : ["domains", "version"].Nodup) ?_
  simp [isReadable_string, hdomains]

theorem toJson_injective : Function.Injective toJson := by
  rintro ⟨version, domains⟩ ⟨version', domains'⟩ h
  simp only [toJson, Json.object.injEq, List.cons.injEq, Prod.mk.injEq, true_and, and_true,
    Json.string.injEq, Json.array.injEq] at h
  obtain ⟨hdomains, rfl⟩ := h
  rw [List.map_injective_iff.2 Domain.toJson_injective hdomains]

/-- The texts that the fingerprints of two schemas are taken of are equal exactly if the schemas
are equal in every field. -/
theorem fingerprintText_eq_iff (s t : Schema) : s.fingerprintText = t.fingerprintText ↔ s = t := by
  rw [fingerprintText, fingerprintText, Json.toText_inj s.isReadable_toJson t.isReadable_toJson]
  exact toJson_injective.eq_iff

end Schema

end ProtocolBindings
