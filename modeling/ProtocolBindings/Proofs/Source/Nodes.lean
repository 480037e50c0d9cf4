import ProtocolBindings.Proofs.Schema.Agreement
import ProtocolBindings.Proofs.Source.Layers

/-!
# Nodes as types and as properties

A node of a document can be given a name as a type, where it is sorted by its shape, or as a
property, where it is read as a type reference.  Both ways lead to the same hint, unless the node
has fields, which only a type can have, or is a reference, which only a property can be.
-/

namespace ProtocolBindings

open Building

variable {node : Json} {shape : TypeShape} {r : TypeRef}

/-- The elements of an array are the same in a shape and in a type reference. -/
theorem TypeRef.ofJson_elementsNode_of_elementsOf [Host] (h : TypeRef.elementsOf node = .ok r) :
    TypeRef.ofJson (TypeRef.elementsNode node) = .ok r := by
  cases node with
  | object members =>
    rw [elementsOf_eq ⟨members, rfl⟩] at h
    obtain ⟨-, -, h⟩ := Results.bind_eq_ok_iff.1 h
    exact h
  | _ => simpa [elementsOf, elementsNode, ofJson, Json.get?] using h

theorem TypeRef.ofJson_of_type {name : String} (href : node.get? "$ref" = none)
    (htype : node.get? "type" = some (.string name)) (hname : name ≠ "array") :
    TypeRef.ofJson node = .ok (.primitive name) := by
  rw [ofJson_eq, href, htype]
  dsimp only
  split
  · rename_i harray
    cases harray
    exact absurd rfl hname
  · rename_i other _ hother
    cases hother
    rfl
  · rename_i hother
    exact absurd rfl (hother name)

/-- A node that is neither a reference nor an object with fields has the shape of an alias of the
type that it points at. -/
theorem TypeShape.aliased?_of_ofJson [Host] (href : node.get? "$ref" = none)
    (hobject : ¬(node.get? "type" = some (.string "object") ∧
      (node.get? "properties").isSome = true))
    (hshape : TypeShape.ofJson node = .ok shape) (hr : TypeRef.ofJson node = .ok r) :
    shape.aliased? = some r := by
  rw [TypeShape.ofJson] at hshape
  split at hshape
  · rename_i name htype
    split at hshape
    · -- A text out of a list is a text, whatever is listed.
      rename_i htext
      obtain ⟨rfl, -⟩ : name = "string" ∧ _ := by simpa using htext
      rw [TypeRef.ofJson_of_type href htype (by decide)] at hr
      obtain rfl := Except.ok.inj hshape
      obtain rfl := Except.ok.inj hr
      rfl
    split at hshape
    · rename_i hfields
      obtain ⟨rfl, hproperties⟩ : name = "object" ∧ _ := by simpa using hfields
      exact absurd ⟨htype, hproperties⟩ hobject
    split at hshape
    · rename_i harray
      obtain rfl := eq_of_beq harray
      obtain ⟨items, hitems, rfl⟩ := Results.map_eq_ok_iff.1 hshape
      rw [TypeRef.ofJson_eq, href, htype] at hr
      obtain ⟨elements, helements, rfl⟩ := Results.map_eq_ok_iff.1 hr
      rw [TypeRef.ofJson_elementsNode_of_elementsOf hitems] at helements
      obtain rfl := Except.ok.inj helements
      rfl
    · rename_i harray
      rw [TypeRef.ofJson_of_type href htype (by simpa using harray)] at hr
      obtain rfl := Except.ok.inj hshape
      obtain rfl := Except.ok.inj hr
      rfl
  · -- A type that is no text counts as none.
    rename_i hother
    have hany : TypeRef.ofJson node = .ok (.primitive "any") := by
      rw [TypeRef.ofJson_eq, href]
      dsimp only
      split
      · rename_i harray
        exact absurd harray (hother _)
      · rename_i htype
        exact absurd htype (hother _)
      · rfl
    rw [hany] at hr
    obtain rfl := Except.ok.inj hshape
    obtain rfl := Except.ok.inj hr
    rfl

/-! ## Nodes with a name -/

variable {members : List (String × Json)} {id name : Json} {t : TypeDef} {p : Property}

/-- A member besides those that are read makes no difference. -/
theorem Json.get?_set_of_ne {key other : String} {value : Json} (h : other ≠ key) :
    (Json.object (Entries.set key value members)).get? other =
      (Json.object members).get? other := by
  rw [get?, get?, Entries.lookup_set_of_ne h]

/-- A node means the same with an identifier as a type and with a name as a property, whatever its
`type` and however deep its elements: the hints of the two are equal and not nullable.  The node is
no reference and no object with fields. -/
theorem ofTypeDef_eq_ofRequired_of_node [Host]
    (href : (Json.object members).get? "$ref" = none)
    (hobject : ¬((Json.object members).get? "type" = some (.string "object") ∧
      ((Json.object members).get? "properties").isSome = true))
    (ht : TypeDef.ofJson (.object (Entries.set "id" id members)) = .ok t)
    (hp : Property.ofJson (.object (Entries.set "name" name members)) = .ok p)
    (current : String) :
    TypeHint.ofTypeDef current t = TypeHint.ofRequired current p ∧
      (TypeHint.ofTypeDef current t).nullable = false := by
  have hshape := (TypeDef.ofJson_eq_ok_iff.1 ht).shape
  have htypeRef := (Property.ofJson_eq_ok_iff.1 hp).typeRef
  have hsame : TypeRef.SameNode (.object (Entries.set "id" id members))
      (.object (Entries.set "name" name members)) := by
    refine .of_agreeOn fun key hkey => ?_
    have hkeys : key ≠ "id" ∧ key ≠ "name" := by
      simp only [List.mem_cons, List.not_mem_nil, or_false] at hkey
      rcases hkey with rfl | rfl | rfl <;> decide
    rw [Json.get?_set_of_ne hkeys.1, Json.get?_set_of_ne hkeys.2]
  rw [← TypeRef.ofJson_eq_of_sameNode hsame] at htypeRef
  have haliased : t.shape.aliased? = some p.typeRef := by
    refine TypeShape.aliased?_of_ofJson ?_ ?_ hshape htypeRef
    · rw [Json.get?_set_of_ne (by decide)]
      exact href
    · rw [Json.get?_set_of_ne (by decide), Json.get?_set_of_ne (by decide)]
      exact hobject
  rw [TypeHint.ofTypeDef_of_aliased? haliased]
  exact ⟨rfl, TypeHint.nullable_ofTypeRef current p.typeRef⟩

/-- A node of arrays of a type of another domain. -/
def rowNode : Json :=
  .object [("type", .string "array"), ("items", .object [("$ref", .string "Page.FrameId")])]

/-- A node of arrays of these. -/
def rowsNode : List (String × Json) :=
  [("type", .string "array"), ("description", .string "The rows."), ("items", rowNode)]

theorem TypeRef.ofJson_rowNode :
    TypeRef.ofJson rowNode = .ok (.array (.named ⟨some "Page", "FrameId"⟩)) := by
  have hleaf : TypeRef.ofJson (.object [("$ref", .string "Page.FrameId")]) =
      .ok (.named ⟨some "Page", "FrameId"⟩) := by
    rw [ofJson_eq]
    rfl
  rw [ofJson_eq]
  exact congrArg (Except.map TypeRef.array) hleaf

theorem TypeRef.nesting_rowNode : TypeRef.nesting rowNode = 2 := by
  have hleaf : TypeRef.nesting (.object [("$ref", .string "Page.FrameId")]) = 1 := by
    rw [nesting_eq]
    rfl
  rw [nesting_eq]
  exact congrArg (· + 1) hleaf

theorem TypeDef.ofJson_rowsNode :
    TypeDef.ofJson (.object (Entries.set "id" (.string "Rows") rowsNode)) = .ok
      { id := "Rows"
        description := some "The rows."
        shape := .array (.array (.named ⟨some "Page", "FrameId"⟩)) } := by
  have hshape : TypeShape.ofJson (.object (Entries.set "id" (.string "Rows") rowsNode)) =
      .ok (.array (.array (.named ⟨some "Page", "FrameId"⟩))) := by
    have helements : TypeRef.elementsOf (.object (Entries.set "id" (.string "Rows") rowsNode)) =
        .ok (.array (.named ⟨some "Page", "FrameId"⟩)) := by
      rw [TypeRef.elementsOf_eq ⟨_, rfl⟩]
      change (TypeRef.requireShallow (TypeRef.nesting rowNode) >>= fun _ =>
        TypeRef.ofJson rowNode) = _
      rw [TypeRef.nesting_rowNode, TypeRef.ofJson_rowNode]
      rfl
    exact congrArg (Except.map TypeShape.array) helements
  refine ofJson_eq_ok_iff.2 ⟨⟨_, rfl⟩, by rfl, hshape, ⟨[], by rfl, .nil⟩, ?_, ?_, ?_, ?_, ?_⟩
  all_goals rfl

theorem Property.ofJson_rowsNode :
    Property.ofJson (.object (Entries.set "name" (.string "rows") rowsNode)) = .ok
      { name := "rows"
        description := some "The rows."
        typeRef := .array (.array (.named ⟨some "Page", "FrameId"⟩)) } := by
  have hnesting : TypeRef.nesting (.object (Entries.set "name" (.string "rows") rowsNode)) = 3 := by
    rw [TypeRef.nesting_eq]
    exact congrArg (· + 1) TypeRef.nesting_rowNode
  have hshallow : TypeRef.nesting (.object (Entries.set "name" (.string "rows") rowsNode)) ≤
      Host.typeDepth := by
    rw [hnesting]
    decide
  have hr : TypeRef.ofJson (.object (Entries.set "name" (.string "rows") rowsNode)) =
      .ok (.array (.array (.named ⟨some "Page", "FrameId"⟩))) := by
    rw [TypeRef.ofJson_eq]
    exact congrArg (Except.map TypeRef.array) TypeRef.ofJson_rowNode
  refine ofJson_eq_ok_iff.2 ⟨⟨_, rfl⟩, by rfl, hshallow, hr, ?_, ?_, ?_, ?_, ?_⟩
  all_goals rfl

theorem ofTypeDef_eq_ofRequired_rowsNode :
    ∃ t p, TypeDef.ofJson (.object (Entries.set "id" (.string "Rows") rowsNode)) = .ok t ∧
      Property.ofJson (.object (Entries.set "name" (.string "rows") rowsNode)) = .ok p ∧
        TypeHint.ofTypeDef "DOM" t = TypeHint.ofRequired "DOM" p ∧
          (TypeHint.ofTypeDef "DOM" t).target = "list[list[Page.cdp_frame_id]]" := by
  have hfields : ¬((Json.object rowsNode).get? "type" = some (.string "object") ∧
      ((Json.object rowsNode).get? "properties").isSome = true) := by
    simp [rowsNode, Json.get?]
  obtain ⟨heq, -⟩ := ofTypeDef_eq_ofRequired_of_node rfl hfields TypeDef.ofJson_rowsNode
    Property.ofJson_rowsNode "DOM"
  exact ⟨_, _, TypeDef.ofJson_rowsNode, Property.ofJson_rowsNode, heq, by decide⟩

end ProtocolBindings
