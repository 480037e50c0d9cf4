import ProtocolBindings.Proofs.Schema.WellFormed
import ProtocolBindings.Proofs.Entries
import ProtocolBindings.Schema.Fingerprint
import ProtocolBindings.Source.Package

/-!
# Documents that define the same

A schema is built from certain members of the objects in a document: those that are read at the
place of the object, whatever their order and whatever lies beside them.  Two documents that hold
the same in all of them define the same.

What is read can depend on what else is there.  A node that holds a reference is read no further,
and only the elements of an array are looked at.
-/

namespace ProtocolBindings

open Results Building

namespace Json

/-- Two values hold the same under each of the given keys. -/
def AgreeOn (keys : List String) (a b : Json) : Prop :=
  ∀ key ∈ keys, a.get? key = b.get? key

variable {keys : List String}

end Json

/-! ### Readers of one member -/

namespace Building

variable {a b : Json} {key : String}

theorem requireText_congr (h : a.get? key = b.get? key) :
    requireText a key = requireText b key := by
  rw [requireText, requireText, h]

theorem flag_congr (h : a.get? key = b.get? key) : flag a key = flag b key := by
  rw [flag, flag, h]

theorem optionalList_congr (h : a.get? key = b.get? key) :
    optionalList a key = optionalList b key := by
  rw [optionalList, optionalList, h]

theorem allowedValues_congr (h : a.get? "enum" = b.get? "enum") :
    allowedValues a = allowedValues b := by
  rw [allowedValues, allowedValues, h]

theorem description_congr (h : a.get? "description" = b.get? "description") :
    description a = description b := by
  rw [description, description, h]

theorem documentDescription_congr (h : a.get? "description" = b.get? "description") :
    documentDescription a = documentDescription b := by
  rw [documentDescription, documentDescription, description_congr h]

theorem recordDescription_congr {title : String}
    (h : a.get? "description" = b.get? "description") :
    recordDescription title a = recordDescription title b := by
  rw [recordDescription, recordDescription, description_congr h]

theorem partLocation_congr {domain : String} (h : a.get? key = b.get? key) :
    partLocation domain a key = partLocation domain b key := by
  rw [partLocation, partLocation, h]

end Building

/-! ### Types -/

namespace TypeRef

def elementsNode (data : Json) : Json :=
  (data.get? "items").getD .null

/-- Only an object has members. -/
theorem exists_object_of_get? {data value : Json} {name : String}
    (h : data.get? name = some value) : ∃ members, data = .object members := by
  cases data with
  | object members => exact ⟨members, rfl⟩
  | _ => cases h

/-- Two nodes that define the same type: they hold the same reference, or neither holds one and
they name the same type, with elements that define the same if it is an array. -/
inductive SameNode : Json → Json → Prop where
  | same (node : Json) : SameNode node node
  | reference {a b ref : Json} (ha : a.get? "$ref" = some ref) (hb : b.get? "$ref" = some ref) :
      SameNode a b
  | plain {a b : Json} (ha : a.get? "$ref" = none) (hb : b.get? "$ref" = none)
      (hname : a.get? "type" = b.get? "type") (hplain : a.get? "type" ≠ some (.string "array")) :
      SameNode a b
  | array {a b : Json} (ha : a.get? "$ref" = none) (hb : b.get? "$ref" = none)
      (hname : a.get? "type" = b.get? "type")
      (helements : SameNode (elementsNode a) (elementsNode b)) : SameNode a b

/-- Nodes that hold the same where a node can be read define the same. -/
theorem SameNode.of_agreeOn {a b : Json} (h : Json.AgreeOn ["$ref", "type", "items"] a b) :
    SameNode a b := by
  have href := h "$ref" (by simp)
  have hname := h "type" (by simp)
  cases ha : a.get? "$ref" with
  | some ref => exact .reference ha (href ▸ ha)
  | none =>
    refine .array ha (href ▸ ha) hname ?_
    rw [elementsNode, elementsNode, h "items" (by simp)]
    exact .same _

theorem itemsOf_eq (members : List (String × Json)) :
    itemsOf members = ofJson ((members.lookup "items").getD .null) := by
  induction members with
  | nil => simp [itemsOf, ofJson]
  | cons member rest ih =>
    obtain ⟨name, value⟩ := member
    rw [itemsOf, List.lookup_cons]
    by_cases hname : name = "items"
    · subst hname
      rfl
    · have hname' : ("items" == name) = false := beq_eq_false_iff_ne.2 (Ne.symm hname)
      rw [if_neg (by simpa using hname), ih, hname']

/-- What a node points at, said by its members alone. -/
theorem ofJson_eq (data : Json) :
    ofJson data =
      match data.get? "$ref" with
      | some ref => (Reference.parse ref).map .named |>.mapError .generation
      | none =>
        match data.get? "type" with
        | some (.string "array") => (ofJson (elementsNode data)).map .array
        | some (.string name) => .ok (.primitive name)
        | _ => .ok (.primitive "any") := by
  cases data with
  | object members =>
    rw [ofJson, ofMembers, itemsOf_eq]
    rfl
  | _ => simp [ofJson, Json.get?]

theorem ofJson_eq_of_sameNode {a b : Json} (h : SameNode a b) : ofJson a = ofJson b := by
  induction h with
  | same node => rfl
  | @reference a b ref ha hb => rw [ofJson_eq a, ofJson_eq b, ha, hb]
  | @plain a b ha hb hname hplain =>
    rw [ofJson_eq a, ofJson_eq b, ha, hb, ← hname]
    dsimp only
    split
    · rename_i harray
      exact absurd harray hplain
    · rfl
    · rfl
  | @array a b ha hb hname helements ih => rw [ofJson_eq a, ofJson_eq b, ha, hb, hname, ih]

theorem itemsNesting_eq (members : List (String × Json)) :
    itemsNesting members = nesting ((members.lookup "items").getD .null) := by
  induction members with
  | nil => simp [itemsNesting, nesting]
  | cons member rest ih =>
    obtain ⟨name, value⟩ := member
    rw [itemsNesting, List.lookup_cons]
    by_cases hname : name = "items"
    · subst hname
      rfl
    · have hname' : ("items" == name) = false := beq_eq_false_iff_ne.2 (Ne.symm hname)
      rw [if_neg (by simpa using hname), ih, hname']

/-- How deep a node is, said by its members alone. -/
theorem nesting_eq (data : Json) :
    nesting data =
      match data.get? "$ref", data.get? "type" with
      | none, some (.string "array") => nesting (elementsNode data) + 1
      | _, _ => 1 := by
  cases data with
  | object members =>
    rw [nesting, itemsNesting_eq]
    rfl
  | _ => simp [nesting, Json.get?]

theorem nesting_eq_of_sameNode {a b : Json} (h : SameNode a b) : nesting a = nesting b := by
  induction h with
  | same node => rfl
  | @reference a b ref ha hb => rw [nesting_eq a, nesting_eq b, ha, hb]
  | @plain a b ha hb hname hplain =>
    rw [nesting_eq a, nesting_eq b, ha, hb, ← hname]
    split
    · rename_i harray
      exact absurd harray hplain
    · rfl
  | @array a b ha hb hname helements ih => rw [nesting_eq a, nesting_eq b, ha, hb, hname, ih]

theorem elementsOf_eq [Host] {data : Json} (h : ∃ members, data = .object members) :
    elementsOf data = (requireShallow (nesting (elementsNode data)) >>= fun _ =>
      ofJson (elementsNode data)) := by
  obtain ⟨members, rfl⟩ := h
  rw [elementsOf, itemsOf_eq, itemsNesting_eq]
  rfl

end TypeRef

/-! ### Lists of parts -/

namespace Building

variable {β γ : Type} {agree : Json → Json → Prop} {a b : Json} {key : String}

/-- Two items that define the same: one value twice, or two objects that agree in what is read. -/
inductive SameItem (agree : Json → Json → Prop) : Json → Json → Prop where
  | same (item : Json) : SameItem agree item item
  | objects {members others : List (String × Json)}
      (h : agree (.object members) (.object others)) :
      SameItem agree (.object members) (.object others)

/-- A reader that only reads what items agree in, and nothing unless they are objects. -/
theorem SameItem.congr {f : Json → β} (h : SameItem agree a b)
    (hf : ∀ members others : List (String × Json), agree (.object members) (.object others) →
      f (.object members) = f (.object others)) : f a = f b := by
  cases h with
  | same item => rfl
  | objects h => exact hf _ _ h

/-- The same value under a key, or two lists whose items define the same one by one. -/
inductive SameList (agree : Json → Json → Prop) (a b : Json) (key : String) : Prop where
  | same (h : a.get? key = b.get? key) : SameList agree a b key
  | lists {items others : List Json} (ha : a.get? key = some (.array items))
      (hb : b.get? key = some (.array others))
      (h : List.Forall₂ (SameItem agree) items others) : SameList agree a b key

theorem SameList.isSome_eq (h : SameList agree a b key) :
    (a.get? key).isSome = (b.get? key).isSome := by
  cases h with
  | same h => rw [h]
  | lists ha hb h => rw [ha, hb]; rfl

/-- What is built from the items of two lists that define the same, and from what follows. -/
theorem SameList.bind_congr {f : Json → Building β} {next next' : List β → Building γ}
    (h : SameList agree a b key) (hf : ∀ x y, SameItem agree x y → f x = f y)
    (hnext : ∀ parts, next parts = next' parts) :
    (optionalList a key >>= fun items => items.mapM f >>= next) =
      optionalList b key >>= fun items => items.mapM f >>= next' := by
  obtain rfl := funext hnext
  cases h with
  | same h => rw [optionalList_congr h]
  | lists ha hb h =>
    rw [optionalList, optionalList, ha, hb]
    exact congrArg (· >>= next) (mapM_congr_forall₂ (h.imp hf))

end Building

/-! ### Parts of a schema -/

section

variable [Host]

namespace Property

/-- Two properties that define the same. -/
structure SameDefinition (a b : Json) : Prop where
  read : Json.AgreeOn
    ["name", "description", "optional", "experimental", "deprecated", "enum"] a b
  node : TypeRef.SameNode a b

theorem SameDefinition.ofJson_eq {members others : List (String × Json)}
    (h : SameDefinition (.object members) (.object others)) :
    ofJson (.object members) = ofJson (.object others) := by
  rw [ofJson, ofJson, requireText_congr (h.read "name" (by simp)),
    TypeRef.nesting_eq_of_sameNode h.node, TypeRef.ofJson_eq_of_sameNode h.node,
    allowedValues_congr (h.read "enum" (by simp)),
    recordDescription_congr (h.read "description" (by simp)),
    flag_congr (h.read "optional" (by simp)), flag_congr (h.read "experimental" (by simp)),
    flag_congr (h.read "deprecated" (by simp))]
  rfl

theorem ofJson_eq_of_sameItem {a b : Json} (h : SameItem SameDefinition a b) :
    ofJson a = ofJson b :=
  h.congr fun _ _ => SameDefinition.ofJson_eq

end Property

namespace TypeDef

/-- Two types that define the same. -/
structure SameDefinition (a b : Json) : Prop where
  read : Json.AgreeOn ["id", "type", "enum", "description", "experimental", "deprecated"] a b
  properties : SameList Property.SameDefinition a b "properties"
  elements : a.get? "type" = some (.string "array") →
    TypeRef.SameNode (TypeRef.elementsNode a) (TypeRef.elementsNode b)

theorem SameDefinition.shape_eq {a b : Json} (h : SameDefinition a b) :
    TypeShape.ofJson a = TypeShape.ofJson b := by
  rw [TypeShape.ofJson, TypeShape.ofJson, ← h.read "type" (by simp), ← h.read "enum" (by simp),
    ← h.properties.isSome_eq]
  split
  · rename_i name hname
    have helements : name = "array" → TypeRef.elementsOf a = TypeRef.elementsOf b := by
      rintro rfl
      have hsame := h.elements hname
      rw [TypeRef.elementsOf_eq (TypeRef.exists_object_of_get? hname),
        TypeRef.elementsOf_eq (TypeRef.exists_object_of_get? (h.read "type" (by simp) ▸ hname)),
        TypeRef.nesting_eq_of_sameNode hsame, TypeRef.ofJson_eq_of_sameNode hsame]
    by_cases harray : name = "array"
    · rw [helements harray]
    · simp [harray]
  · rfl

theorem SameDefinition.ofJson_eq {members others : List (String × Json)}
    (h : SameDefinition (.object members) (.object others)) :
    ofJson (.object members) = ofJson (.object others) := by
  rw [ofJson, ofJson, requireText_congr (h.read "id" (by simp)), h.shape_eq,
    allowedValues_congr (h.read "enum" (by simp)),
    documentDescription_congr (h.read "description" (by simp)),
    flag_congr (h.read "experimental" (by simp)), flag_congr (h.read "deprecated" (by simp))]
  refine bind_congr fun _ => bind_congr fun id => bind_congr fun shape => ?_
  exact h.properties.bind_congr (fun _ _ => Property.ofJson_eq_of_sameItem) fun _ => rfl

/-- A type that defines the same fails in the same place. -/
theorem located_ofJson_eq_of_sameItem {domain : String} {a b : Json}
    (h : SameItem SameDefinition a b) :
    Building.located (partLocation domain a "id") (ofJson a) =
      Building.located (partLocation domain b "id") (ofJson b) := by
  refine h.congr (f := fun item => Building.located (partLocation domain item "id") (ofJson item))
    fun members others hsame => ?_
  rw [partLocation_congr (hsame.read "id" (by simp)), hsame.ofJson_eq]

end TypeDef

namespace Command

/-- Two commands that define the same. -/
structure SameDefinition (a b : Json) : Prop where
  read : Json.AgreeOn ["name", "description", "experimental", "deprecated"] a b
  parameters : SameList Property.SameDefinition a b "parameters"
  returns : SameList Property.SameDefinition a b "returns"

theorem SameDefinition.ofJson_eq {members others : List (String × Json)}
    (h : SameDefinition (.object members) (.object others)) :
    ofJson (.object members) = ofJson (.object others) := by
  rw [ofJson, ofJson, requireText_congr (h.read "name" (by simp)),
    recordDescription_congr (h.read "description" (by simp)),
    flag_congr (h.read "experimental" (by simp)), flag_congr (h.read "deprecated" (by simp))]
  refine bind_congr fun _ => bind_congr fun name => ?_
  refine h.parameters.bind_congr (fun _ _ => Property.ofJson_eq_of_sameItem) fun parameters => ?_
  exact h.returns.bind_congr (fun _ _ => Property.ofJson_eq_of_sameItem) fun _ => rfl

/-- A command that defines the same fails in the same place. -/
theorem located_ofJson_eq_of_sameItem {domain : String} {a b : Json}
    (h : SameItem SameDefinition a b) :
    Building.located (partLocation domain a "name") (ofJson a) =
      Building.located (partLocation domain b "name") (ofJson b) := by
  refine h.congr (f := fun item => Building.located (partLocation domain item "name") (ofJson item))
    fun members others hsame => ?_
  rw [partLocation_congr (hsame.read "name" (by simp)), hsame.ofJson_eq]

end Command

namespace Domain

/-- Two domains that define the same. -/
structure SameDefinition (a b : Json) : Prop where
  read : Json.AgreeOn ["domain", "description", "experimental", "deprecated", "dependencies"] a b
  types : SameList TypeDef.SameDefinition a b "types"
  commands : SameList Command.SameDefinition a b "commands"

theorem SameDefinition.ofJson_eq {members others : List (String × Json)}
    (h : SameDefinition (.object members) (.object others)) :
    ofJson (.object members) = ofJson (.object others) := by
  rw [ofJson, ofJson, requireText_congr (h.read "domain" (by simp)),
    optionalList_congr (h.read "dependencies" (by simp)),
    documentDescription_congr (h.read "description" (by simp)),
    flag_congr (h.read "experimental" (by simp)), flag_congr (h.read "deprecated" (by simp))]
  refine bind_congr fun _ => bind_congr fun name => ?_
  refine h.types.bind_congr (fun _ _ => TypeDef.located_ofJson_eq_of_sameItem) fun types => ?_
  exact h.commands.bind_congr (fun _ _ => Command.located_ofJson_eq_of_sameItem) fun _ => rfl

/-- A domain that defines the same, in the same position, fails in the same place. -/
theorem located_ofJson_eq_of_sameItem {position : Nat} {a b : Json}
    (h : SameItem SameDefinition a b) :
    Building.located (location position a) (ofJson a) =
      Building.located (location position b) (ofJson b) := by
  refine h.congr (f := fun item => Building.located (location position item) (ofJson item))
    fun members others hsame => ?_
  rw [location, location, hsame.read "domain" (by simp), hsame.ofJson_eq]

theorem listOfJson_congr {position : Nat} {entries others : List Json}
    (h : List.Forall₂ (SameItem SameDefinition) entries others) :
    listOfJson position entries = listOfJson position others := by
  induction h generalizing position with
  | nil => rfl
  | cons hhead hrest ih =>
    rw [listOfJson, listOfJson, located_ofJson_eq_of_sameItem hhead, ih]

end Domain

end

namespace Schema

/-- Two documents that define the same. -/
def SameDefinition (a b : Json) : Prop :=
  SameList Domain.SameDefinition a b "domains"

variable {version : ProtocolVersion} {document other : Json}

theorem SameDefinition.ofJson_eq [Host] (h : SameDefinition document other) :
    ofJson version document = ofJson version other := by
  rw [ofJson, ofJson]
  cases h with
  | same h => rw [h]
  | lists ha hb h =>
    rw [ha, hb]
    dsimp only
    rw [Domain.listOfJson_congr h]

/-- The schema depends only on what the document defines: two documents that define the same give
the same schema, or fail with the same error in the same place.  So their schemas have one
fingerprint, and the same files are generated from them. -/
theorem ofJson_eq_of_sameDefinition [Host] (h : SameDefinition document other) :
    ofJson version document = ofJson version other ∧
      ∀ schema schema', ofJson version document = .ok schema →
        ofJson version other = .ok schema' →
        schema.fingerprint = schema'.fingerprint ∧
          ∀ package, Package.files package schema = Package.files package schema' := by
  refine ⟨h.ofJson_eq, fun schema schema' hschema hschema' => ?_⟩
  rw [h.ofJson_eq, hschema'] at hschema
  obtain rfl := Except.ok.inj hschema
  exact ⟨rfl, fun package => rfl⟩

/-- The document of frames with its members in another order, and with members that are not
read: beside the domains, in the domain, in its types and beside a reference. -/
def reorderedFrameDocument : Json :=
  .object [("version", .object [("major", .string "1")]),
    ("domains", .array [.object
      [("types", .array [
          .object [("type", .string "string"), ("minLength", .integer 1),
            ("id", .string "FrameId")],
          .object [
            ("items", .object [
              ("items", .object [("type", .string "object"), ("$ref", .string "Page.FrameId")]),
              ("type", .string "array")]),
            ("type", .string "array"), ("id", .string "Frames")]]),
        ("events", .array []), ("domain", .string "Page")]])]

theorem sameDefinition_reorderedFrameDocument :
    SameDefinition frameDocument reorderedFrameDocument := by
  have hreference : TypeRef.SameNode (.object [("$ref", .string "Page.FrameId")])
      (.object [("type", .string "object"), ("$ref", .string "Page.FrameId")]) :=
    .reference rfl rfl
  have hplain : (Json.string "string") ≠ .string "array" :=
    fun h => absurd (Json.string.inj h) (by decide)
  refine .lists rfl rfl (.cons (.objects ⟨?_, .lists rfl rfl ?_, .same rfl⟩) .nil)
  · simp only [Json.AgreeOn, List.forall_mem_cons]
    exact ⟨rfl, rfl, rfl, rfl, rfl, List.forall_mem_nil _⟩
  · refine .cons (.objects ⟨?_, .same rfl, ?_⟩) (.cons (.objects ⟨?_, .same rfl, ?_⟩) .nil)
    · simp only [Json.AgreeOn, List.forall_mem_cons]
      exact ⟨rfl, rfl, rfl, rfl, rfl, rfl, List.forall_mem_nil _⟩
    · exact fun h => absurd (Option.some.inj h) hplain
    · simp only [Json.AgreeOn, List.forall_mem_cons]
      exact ⟨rfl, rfl, rfl, rfl, rfl, rfl, List.forall_mem_nil _⟩
    · exact fun _ => .array rfl rfl rfl hreference

theorem ofJson_reorderedFrameDocument :
    SameDefinition frameDocument reorderedFrameDocument ∧
      ofJson (ProtocolVersion.select (some "1-3")) reorderedFrameDocument = .ok frameSchema := by
  obtain ⟨hschema, -⟩ := ofJson_eq_of_sameDefinition sameDefinition_reorderedFrameDocument
  exact ⟨sameDefinition_reorderedFrameDocument, hschema ▸ ofJson_frameDocument⟩

end Schema

end ProtocolBindings
