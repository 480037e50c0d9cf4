import ProtocolBindings.Proofs.Schema.Build

/-!
# References in a schema

A reference is taken over from a document only if its parts are words of letters, digits and low
lines, and it is written in the schema as it is in the document, however deep it lies in arrays.
So every reference in a schema that was built can stand in code as it is written.
-/

namespace ProtocolBindings

open Results

/-- Whether a reference can be written in a document. -/
structure Reference.IsWellFormed (reference : Reference) : Prop where
  typeId : isPart reference.typeId.toList
  domain : ∀ domain ∈ reference.domain, isPart domain.toList

/-- Whether a text is a basic letter or a low line with word characters behind it. -/
def Reference.IsWord (text : String) : Prop :=
  ∃ first rest, text.toList = first :: rest ∧
    ('A' ≤ first ∧ first ≤ 'Z' ∨ 'a' ≤ first ∧ first ≤ 'z' ∨ first = '_') ∧
    ∀ c ∈ rest, Text.isWordCharacter c = true

/-- Whether a reference is the one that a text stands for: its parts are words, and it is written as
the text is. -/
structure Reference.IsOf (reference : Reference) (text : String) : Prop where
  typeId : IsWord reference.typeId
  domain : ∀ domain ∈ reference.domain, IsWord domain
  raw : reference.raw = text

/-- Whether the reference inside all arrays of a type, if there is one, is that in the node to which
as many `items` lead. -/
def TypeRef.IsWrittenIn : TypeRef → Json → Prop
  | .primitive _, _ => True
  | .array items, node => items.IsWrittenIn ((node.get? "items").getD .null)
  | .named reference, node => ∃ text, node.get? "$ref" = some (.string text) ∧ reference.IsOf text

def TypeRef.IsWellFormed : TypeRef → Prop
  | .primitive _ => True
  | .array items => items.IsWellFormed
  | .named reference => reference.IsWellFormed

/-- Whether every type reference that the code of a domain rests on can be written in a document.
The parameters of commands are documentation only. -/
structure Domain.IsWellFormed (d : Domain) : Prop where
  items : ∀ t ∈ d.types, ∀ items ∈ t.shape.items?, items.IsWellFormed
  properties : ∀ t ∈ d.types, ∀ p ∈ t.properties, p.typeRef.IsWellFormed
  returns : ∀ c ∈ d.commands, ∀ p ∈ c.returns, p.typeRef.IsWellFormed

theorem Reference.isPart_toList_iff {text : String} : isPart text.toList ↔ IsWord text := by
  rw [IsWord]
  cases htext : text.toList with
  | nil => simp [isPart]
  | cons first rest =>
    simp [isPart, Text.isBasicUpper, Text.isBasicLower, Char.le_def, or_assoc]

/-- What is taken apart is put together again. -/
theorem Reference.isOf_of_ofText? {text : String} {reference : Reference}
    (h : ofText? text = some reference) : reference.IsOf text := by
  have hjoin := Text.intercalate_pieces '.' text.toList
  rw [ofText?] at h
  split at h
  · rename_i typeId hpieces
    split at h
    · rename_i hpart
      obtain rfl := Option.some.inj h
      rw [hpieces] at hjoin
      have htext : String.ofList typeId = text := by
        rw [← String.ofList_toList (s := text), ← hjoin]
        simp
      refine ⟨isPart_toList_iff.1 (by simpa using hpart), by simp, ?_⟩
      rw [raw, htext]
    · cases h
  · rename_i domain typeId hpieces
    split at h
    · rename_i hparts
      obtain rfl := Option.some.inj h
      rw [Bool.and_eq_true] at hparts
      rw [hpieces] at hjoin
      refine ⟨isPart_toList_iff.1 (by simpa using hparts.2),
        fun part hpart => ?_, ?_⟩
      · obtain rfl := Option.some.inj hpart
        exact isPart_toList_iff.1 (by simpa using hparts.1)
      · have hdomain : (String.ofList domain == "") = false := by
          rw [beq_eq_false_iff_ne]
          rintro hempty
          obtain rfl : domain = [] := by simpa using congrArg String.toList hempty
          simp [isPart] at hparts
        rw [raw]
        dsimp only
        rw [hdomain, if_neg Bool.false_ne_true, ← String.ofList_toList (s := text), ← hjoin]
        apply String.toList_inj.1
        simp
    · cases h
  · cases h

theorem Reference.exists_isOf_of_parse {value : Json} {reference : Reference}
    (h : parse value = .ok reference) : ∃ text, value = .string text ∧ reference.IsOf text := by
  rw [parse] at h
  split at h
  · rename_i parsed hparsed
    obtain rfl := Except.ok.inj h
    obtain ⟨text, hvalue, htext⟩ := Option.bind_eq_some_iff.1 hparsed
    cases value with
    | string s =>
      obtain rfl := Option.some.inj hvalue
      exact ⟨s, rfl, isOf_of_ofText? htext⟩
    | _ => cases hvalue
  · cases h

/-- A node of a document, an object's members and the elements of an array give the references only
that are written there. -/
theorem TypeRef.isWrittenIn_of_built :
    (∀ data r, TypeRef.ofJson data = .ok r → r.IsWrittenIn data) ∧
      (∀ members rest r, TypeRef.ofMembers members rest = .ok r →
        members.lookup "items" = rest.lookup "items" → r.IsWrittenIn (.object members)) ∧
        ∀ members r, TypeRef.itemsOf members = .ok r →
          r.IsWrittenIn ((members.lookup "items").getD .null) := by
  have hany : ∀ (name : String) (node : Json) (r : TypeRef),
      (.ok (.primitive name) : Building TypeRef) = .ok r → r.IsWrittenIn node := by
    rintro name node r ⟨⟩
    trivial
  apply TypeRef.ofJson.mutual_induct
  case case1 =>
    intro members ih r h
    exact ih r (by rwa [TypeRef.ofJson] at h) rfl
  case case2 =>
    intro other hother r h
    rw [TypeRef.ofJson] at h
    · exact hany _ other r h
    · exact hother
  case case3 =>
    intro members rest ref href r h _
    rw [TypeRef.ofMembers, href] at h
    obtain ⟨reference, hparse, rfl⟩ := map_eq_ok_iff.1 (mapError_eq_ok_iff.1 h)
    obtain ⟨text, rfl, hreference⟩ := Reference.exists_isOf_of_parse hparse
    exact ⟨text, href, hreference⟩
  case case4 =>
    intro members rest href htype ih r h hitems
    rw [TypeRef.ofMembers, href, htype] at h
    obtain ⟨items, helements, rfl⟩ := map_eq_ok_iff.1 h
    rw [TypeRef.IsWrittenIn, Json.get?, hitems]
    exact ih items helements
  case case5 =>
    intro members rest href name hname htype r h _
    rw [TypeRef.ofMembers, href, htype] at h
    simp only at h
    exact hany _ _ r h
  case case6 =>
    intro members rest href harray htext r h _
    rw [TypeRef.ofMembers, href] at h
    simp only at h
    exact hany _ _ r h
  case case7 =>
    intro r h
    rw [TypeRef.itemsOf] at h
    exact hany _ _ r h
  case case8 =>
    intro name value rest hname ih r h
    rw [TypeRef.itemsOf, if_pos hname] at h
    rw [List.lookup_cons, BEq.comm, hname]
    exact ih r h
  case case9 =>
    intro name value rest hname ih r h
    rw [TypeRef.itemsOf, if_neg hname] at h
    rw [List.lookup_cons, BEq.comm, Bool.eq_false_iff.2 hname]
    exact ih r h

theorem TypeRef.isWrittenIn_of_ofJson {data : Json} {r : TypeRef}
    (h : TypeRef.ofJson data = .ok r) : r.IsWrittenIn data :=
  isWrittenIn_of_built.1 data r h

/-- What is written in a document can be written in one. -/
theorem TypeRef.IsWrittenIn.isWellFormed {r : TypeRef} {node : Json} (h : r.IsWrittenIn node) :
    r.IsWellFormed := by
  induction r generalizing node with
  | primitive name => trivial
  | array items ih => exact ih h
  | named reference =>
    obtain ⟨text, -, hreference⟩ := h
    refine ⟨Reference.isPart_toList_iff.2 hreference.typeId, fun domain hdomain => ?_⟩
    exact Reference.isPart_toList_iff.2 (hreference.domain domain hdomain)

/-- Every part of a list is built from one of its items. -/
theorem Building.ListBuiltFrom.exists_of_mem {α : Type} {built : Json → α → Prop} {data : Json}
    {key : String} {parts : List α} (h : ListBuiltFrom built data key parts) {part : α}
    (hpart : part ∈ parts) : ∃ item, built item part := by
  obtain ⟨items, -, hbuilt⟩ := h
  obtain ⟨item, -, hitem⟩ := exists_of_mem_forall₂ hbuilt hpart
  exact ⟨item, hitem⟩

variable [Host]

theorem TypeRef.isWrittenIn_of_elementsOf {data : Json} {items : TypeRef}
    (h : TypeRef.elementsOf data = .ok items) : (TypeRef.array items).IsWrittenIn data := by
  rw [elementsOf.eq_def] at h
  split at h
  · rename_i members
    obtain ⟨-, -, h⟩ := bind_eq_ok_iff.1 h
    exact isWrittenIn_of_built.2.2 members items h
  · obtain rfl := Except.ok.inj h
    trivial

theorem TypeShape.isWrittenIn_of_ofJson {data : Json} {shape : TypeShape} {items : TypeRef}
    (h : TypeShape.ofJson data = .ok shape) (hitems : items ∈ shape.items?) :
    (TypeRef.array items).IsWrittenIn data := by
  rw [TypeShape.ofJson] at h
  split at h
  · split at h
    · obtain rfl := Except.ok.inj h
      simp [items?] at hitems
    · split at h
      · obtain rfl := Except.ok.inj h
        simp [items?] at hitems
      · split at h
        · obtain ⟨elements, helements, rfl⟩ := map_eq_ok_iff.1 h
          obtain rfl : elements = items := by simpa [items?] using hitems
          exact TypeRef.isWrittenIn_of_elementsOf helements
        · obtain rfl := Except.ok.inj h
          simp [items?] at hitems
  · obtain rfl := Except.ok.inj h
    simp [items?] at hitems

theorem Domain.IsBuiltFrom.isWellFormed {data : Json} {d : Domain} (h : d.IsBuiltFrom data) :
    d.IsWellFormed := by
  refine ⟨?_, ?_, ?_⟩
  · intro t ht items hitems
    obtain ⟨_, hbuilt⟩ := h.types.exists_of_mem ht
    exact (TypeShape.isWrittenIn_of_ofJson hbuilt.shape hitems).isWellFormed
  · intro t ht p hp
    obtain ⟨_, hbuilt⟩ := h.types.exists_of_mem ht
    obtain ⟨_, hproperty⟩ := hbuilt.properties.exists_of_mem hp
    exact (TypeRef.isWrittenIn_of_ofJson hproperty.typeRef).isWellFormed
  · intro c hc p hp
    obtain ⟨_, hbuilt⟩ := h.commands.exists_of_mem hc
    obtain ⟨_, hproperty⟩ := hbuilt.returns.exists_of_mem hp
    exact (TypeRef.isWrittenIn_of_ofJson hproperty.typeRef).isWellFormed

/-- The domains of a schema that was built refer by well-formed references only. -/
theorem Schema.isWellFormed_of_ofJson {version : ProtocolVersion} {document : Json}
    {schema : Schema} (h : Schema.ofJson version document = .ok schema) {d : Domain}
    (hd : d ∈ schema.domains) : d.IsWellFormed := by
  obtain ⟨entries, -, hbuilt⟩ := (Schema.ofJson_eq_ok_iff.1 h).domains
  obtain ⟨entry, -, hentry⟩ := exists_of_mem_forall₂ hbuilt hd
  exact hentry.isWellFormed

end ProtocolBindings
