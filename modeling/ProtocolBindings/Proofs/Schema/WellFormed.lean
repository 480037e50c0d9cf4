import Mathlib.Data.List.Nodup
import ProtocolBindings.Proofs.Schema.References

/-!
# Well-formed schemas

What is promised of every schema that was built from a document, and of every selection from it.
The single promises are kept in different places: by the fields that may not be empty, by the way
types are told apart, by the rules of distinct names and by what is taken for a reference.
-/

namespace ProtocolBindings

open Results Building

/-- What is promised of a property that a node of the document stands for. -/
structure Property.IsSoundFor (node : Json) (p : Property) : Prop where
  name : p.name ≠ ""
  typeRef : p.typeRef.IsWrittenIn node

/-- What is promised of a type that a node of the document stands for. -/
structure TypeDef.IsSoundFor (node : Json) (t : TypeDef) : Prop where
  id : t.id ≠ ""
  items_iff : t.shape.items? ≠ none ↔ t.shape.kindName = "array"
  primitive_iff : t.shape.primitive? ≠ none ↔
    t.shape.kindName = "enum" ∨ t.shape.kindName = "primitive"
  primitive : ∀ name ∈ t.shape.primitive?, name ≠ ""
  enumeration : t.shape.kindName = "enum" → t.shape.primitive? = some "string"
  items : ∀ items ∈ t.shape.items?, (TypeRef.array items).IsWrittenIn node
  properties : List.Forall₂ Property.IsSoundFor (node.itemsOf "properties") t.properties

/-- What is promised of a command that a node of the document stands for. -/
structure Command.IsSoundFor (node : Json) (c : Command) : Prop where
  name : c.name ≠ ""
  parameters : List.Forall₂ Property.IsSoundFor (node.itemsOf "parameters") c.parameters
  returns : List.Forall₂ Property.IsSoundFor (node.itemsOf "returns") c.returns

/-- What is promised of a domain that an entry of the document stands for. -/
structure Domain.IsSoundFor (entry : Json) (d : Domain) : Prop where
  entry_name : entry.get? "domain" = some (.string d.name)
  name : d.name ≠ ""
  distinct : (d.types.map (·.id)).Nodup
  types : List.Forall₂ TypeDef.IsSoundFor (entry.itemsOf "types") d.types
  commands : List.Forall₂ Command.IsSoundFor (entry.itemsOf "commands") d.commands
  type?_iff : ∀ id t, d.type? id = some t ↔ t ∈ d.types ∧ t.id = id

/-- What is promised of a schema for some entries of a document. -/
structure Schema.IsSoundFor (entries : List Json) (schema : Schema) : Prop where
  version : schema.version ∈ ["1-2", "1-3", "tot"]
  distinct : schema.domainNames.Nodup
  domains : ∀ d ∈ schema.domains, ∃ entry ∈ entries, d.IsSoundFor entry
  domain?_iff : ∀ name d, schema.domain? name = some d ↔ d ∈ schema.domains ∧ d.name = name

/-! ## Finding by name -/

/-- Where keys are not repeated, what is found by a key is what carries it. -/
theorem find?_key_eq_some_iff {α : Type} {key : α → String} {items : List α}
    (h : (items.map key).Nodup) {text : String} {a : α} :
    items.find? (fun item => key item == text) = some a ↔ a ∈ items ∧ key a = text := by
  constructor
  · intro hfind
    exact ⟨List.mem_of_find?_eq_some hfind, by simpa using List.find?_some hfind⟩
  · rintro ⟨hmem, rfl⟩
    cases hfind : items.find? (fun item => key item == key a) with
    | none => simpa using List.find?_eq_none.1 hfind a hmem
    | some b =>
      have hkey : key b = key a := by simpa using List.find?_some hfind
      rw [List.inj_on_of_nodup_map h (List.mem_of_find?_eq_some hfind) hmem hkey]

/-! ## Parts of a domain -/

theorem TypeShape.items?_ne_none_iff (shape : TypeShape) :
    shape.items? ≠ none ↔ shape.kindName = "array" := by
  cases shape <;> simp [items?, kindName]

theorem TypeShape.primitive?_ne_none_iff (shape : TypeShape) :
    shape.primitive? ≠ none ↔ shape.kindName = "enum" ∨ shape.kindName = "primitive" := by
  cases shape <;> simp [primitive?, kindName]

theorem TypeDef.ne_empty_of_shapeFault? {t : TypeDef} {name : String}
    (h : t.shapeFault? = none) (hname : name ∈ t.shape.primitive?) : name ≠ "" := by
  rintro rfl
  rw [shapeFault?, Option.mem_def.1 hname] at h
  cases h

theorem ProtocolVersion.name_mem (v : ProtocolVersion) : v.name ∈ ["1-2", "1-3", "tot"] := by
  cases v <;> decide

/-- A selection keeps every promise. -/
theorem Schema.IsSoundFor.select {entries : List Json} {schema : Schema}
    (h : schema.IsSoundFor entries) (names : List String) :
    (schema.select names).IsSoundFor entries := by
  have hdistinct : (schema.select names).domainNames.Nodup := by
    rw [domainNames, domains_select]
    exact h.distinct.sublist (List.filter_sublist.map _)
  refine ⟨?_, hdistinct, ?_, fun name d => find?_key_eq_some_iff hdistinct⟩
  · rw [version_select]
    exact h.version
  · intro d hd
    exact h.domains d ((schema.mem_domains_select names).1 hd).1

theorem Schema.IsSoundFor.foldl_select {entries : List Json} {schema : Schema}
    (h : schema.IsSoundFor entries) (selections : List (List String)) :
    (selections.foldl Schema.select schema).IsSoundFor entries := by
  induction selections generalizing schema with
  | nil => exact h
  | cons names rest ih => exact ih (h.select names)

section

variable [Host]

theorem Property.IsBuiltFrom.isSoundFor {data : Json} {p : Property} (h : p.IsBuiltFrom data) :
    p.IsSoundFor data :=
  ⟨(requireText_eq_ok_iff.1 h.name).2, TypeRef.isWrittenIn_of_ofJson h.typeRef⟩

theorem Building.ListBuiltFrom.isSoundFor {data : Json} {key : String} {parts : List Property}
    (h : ListBuiltFrom Property.IsBuiltFrom data key parts) :
    List.Forall₂ Property.IsSoundFor (data.itemsOf key) parts :=
  h.forall₂.imp fun _ _ => Property.IsBuiltFrom.isSoundFor

theorem TypeShape.primitive?_of_enum {data : Json} {shape : TypeShape}
    (h : TypeShape.ofJson data = .ok shape) (henum : shape.kindName = "enum") :
    shape.primitive? = some "string" := by
  rw [TypeShape.ofJson] at h
  split at h
  · split at h
    · obtain rfl := Except.ok.inj h
      rfl
    · split at h
      · obtain rfl := Except.ok.inj h
        simp [kindName] at henum
      · split at h
        · obtain ⟨items, -, rfl⟩ := map_eq_ok_iff.1 h
          simp [kindName] at henum
        · obtain rfl := Except.ok.inj h
          simp [kindName] at henum
  · obtain rfl := Except.ok.inj h
    simp [kindName] at henum

theorem TypeDef.IsBuiltFrom.isSoundFor {data : Json} {t : TypeDef} (h : t.IsBuiltFrom data) :
    t.IsSoundFor data where
  id := (requireText_eq_ok_iff.1 h.id).2
  items_iff := t.shape.items?_ne_none_iff
  primitive_iff := t.shape.primitive?_ne_none_iff
  primitive _ hname := ne_empty_of_shapeFault? h.backed hname
  enumeration := TypeShape.primitive?_of_enum h.shape
  items _ hitems := TypeShape.isWrittenIn_of_ofJson h.shape hitems
  properties := h.properties.isSoundFor

theorem Command.IsBuiltFrom.isSoundFor {data : Json} {c : Command} (h : c.IsBuiltFrom data) :
    c.IsSoundFor data where
  name := (requireText_eq_ok_iff.1 h.name).2
  parameters := h.parameters.isSoundFor
  returns := h.returns.isSoundFor

theorem Domain.IsBuiltFrom.isSoundFor {data : Json} {d : Domain} (h : d.IsBuiltFrom data) :
    d.IsSoundFor data := by
  obtain ⟨hentry, hname⟩ := requireText_eq_ok_iff.1 h.name
  refine ⟨hentry, hname, h.distinct, ?_, ?_, fun id t => find?_key_eq_some_iff h.distinct⟩
  · exact h.types.forall₂.imp fun _ _ => TypeDef.IsBuiltFrom.isSoundFor
  · exact h.commands.forall₂.imp fun _ _ => Command.IsBuiltFrom.isSoundFor

/-! ## Schemas -/

theorem Schema.IsBuiltFrom.exists_isSoundFor {version : ProtocolVersion} {document : Json}
    {schema : Schema} (h : schema.IsBuiltFrom version document) :
    ∃ entries, document.get? "domains" = some (.array entries) ∧ schema.IsSoundFor entries := by
  obtain ⟨entries, hentries, hbuilt⟩ := h.domains
  refine ⟨entries, hentries, ?_, h.distinct, ?_, fun name d => find?_key_eq_some_iff h.distinct⟩
  · rw [h.version]
    exact version.name_mem
  · intro d hd
    obtain ⟨entry, hentry, hdomain⟩ := exists_of_mem_forall₂ hbuilt hd
    exact ⟨entry, hentry, hdomain.isSoundFor⟩

end

/-- A type whose elements are arrays of references. -/
def framesNode : Json :=
  .object [("id", .string "Frames"), ("type", .string "array"),
    ("items", .object [("type", .string "array"),
      ("items", .object [("$ref", .string "Page.FrameId")])])]

/-- A document with one domain, in which references lie in arrays. -/
def frameDocument : Json :=
  .object [("domains", .array [.object
    [("domain", .string "Page"),
      ("types", .array [
        .object [("id", .string "FrameId"), ("type", .string "string")],
        framesNode])]])]

def frameSchema : Schema where
  version := "1-3"
  domains :=
    [{ name := "Page"
       types :=
        [{ id := "FrameId", shape := .primitive "string" },
          { id := "Frames", shape := .array (.array (.named ⟨some "Page", "FrameId"⟩)) }] }]

theorem Schema.ofJson_frameDocument :
    Schema.ofJson (ProtocolVersion.select (some "1-3")) frameDocument = .ok frameSchema := by
  have hreference : TypeRef.ofJson (.object [("$ref", .string "Page.FrameId")]) =
      .ok (.named ⟨some "Page", "FrameId"⟩) := by
    rw [TypeRef.ofJson, TypeRef.ofMembers]
    rfl
  have helements : TypeRef.ofJson (.object [("type", .string "array"),
      ("items", .object [("$ref", .string "Page.FrameId")])]) =
        .ok (.array (.named ⟨some "Page", "FrameId"⟩)) := by
    rw [TypeRef.ofJson, TypeRef.ofMembers]
    change (TypeRef.itemsOf _).map TypeRef.array = _
    rw [TypeRef.itemsOf, if_neg (by decide), TypeRef.itemsOf, if_pos (by decide), hreference]
    rfl
  have hshape : TypeShape.ofJson framesNode =
      .ok (.array (.array (.named ⟨some "Page", "FrameId"⟩))) := by
    change (TypeRef.requireShallow (TypeRef.itemsNesting _) >>= fun _ =>
      TypeRef.itemsOf _).map TypeShape.array = _
    have hnesting : TypeRef.itemsNesting [("id", .string "Frames"), ("type", .string "array"),
        ("items", .object [("type", .string "array"),
          ("items", .object [("$ref", .string "Page.FrameId")])])] = 2 := by
      simp [TypeRef.itemsNesting, TypeRef.nesting, List.lookup_cons]
    rw [hnesting, TypeRef.itemsOf, if_neg (by decide), TypeRef.itemsOf, if_neg (by decide),
      TypeRef.itemsOf, if_pos (by decide), helements]
    rfl
  have hidentifier : TypeDef.IsBuiltFrom (.object [("id", .string "FrameId"),
      ("type", .string "string")]) { id := "FrameId", shape := .primitive "string" } :=
    ⟨⟨_, rfl⟩, rfl, rfl, ⟨[], rfl, .nil⟩, rfl, rfl, rfl, rfl, rfl⟩
  have hframes : TypeDef.IsBuiltFrom framesNode
      { id := "Frames", shape := .array (.array (.named ⟨some "Page", "FrameId"⟩)) } :=
    ⟨⟨_, rfl⟩, rfl, hshape, ⟨[], rfl, .nil⟩, rfl, rfl, rfl, rfl, rfl⟩
  rw [ofJson_eq_ok_iff]
  refine ⟨rfl, ⟨_, rfl, .cons ?_ .nil⟩, by decide⟩
  exact ⟨⟨_, rfl⟩, rfl, ⟨_, rfl, .cons hidentifier (.cons hframes .nil)⟩, ⟨[], rfl, .nil⟩,
    ⟨[], rfl, rfl⟩, rfl, rfl, rfl, by decide⟩

/-- Every schema that is built from a document, for any request of a version, is well formed, and
remains so however often domains are selected from it. -/
theorem Schema.isSoundFor_foldl_select [Host] {request : Option String} {document : Json}
    {schema : Schema} (h : Schema.ofJson (ProtocolVersion.select request) document = .ok schema) :
    ∃ entries, document.get? "domains" = some (.array entries) ∧
      ∀ selections : List (List String), (selections.foldl select schema).IsSoundFor entries := by
  obtain ⟨entries, hentries, hsound⟩ := (ofJson_eq_ok_iff.1 h).exists_isSoundFor
  exact ⟨entries, hentries, fun selections => hsound.foldl_select selections⟩

theorem Schema.isSoundFor_foldl_select_frame :
    Schema.ofJson (ProtocolVersion.select (some "1-3")) frameDocument = .ok frameSchema ∧
      ∃ entries, frameDocument.get? "domains" = some (.array entries) ∧
        (frameSchema.select ["Page"]).domains = frameSchema.domains ∧
        (frameSchema.select ["Page"]).IsSoundFor entries := by
  obtain ⟨entries, hentries, hsound⟩ := isSoundFor_foldl_select ofJson_frameDocument
  exact ⟨ofJson_frameDocument, entries, hentries, by decide, hsound [["Page"]]⟩

end ProtocolBindings
