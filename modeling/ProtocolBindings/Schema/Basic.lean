import ProtocolBindings.TypeRef

/-!
# Schemas

A protocol document in its domain terms: domains own named types and commands, and both are
described by properties.  Within a domain the identifiers of types differ, and within a schema
the names of domains do; `Domain.repeatedTypeId?` and `Schema.repeatedDomain?` find the first
breach of these rules.
-/

namespace ProtocolBindings

/-- A field of an object, a parameter of a command or one of the values it returns. -/
structure Property where
  name : String
  description : Option String := none
  optional : Bool := false
  experimental : Bool := false
  deprecated : Bool := false
  typeRef : TypeRef := .primitive "any"
  /-- The values a text may have, if they are listed. -/
  allowed : Option (List String) := none
deriving DecidableEq, Repr

/-- What a named type is made of. -/
inductive TypeShape where
  /-- A text out of a list of values. -/
  | enumeration (primitive : String)
  | object
  | primitive (name : String)
  | array (items : TypeRef)
  | unresolved
deriving DecidableEq, Repr

namespace TypeShape

def kindName : TypeShape → String
  | .enumeration _ => "enum"
  | .object => "object"
  | .primitive _ => "primitive"
  | .array _ => "array"
  | .unresolved => "unresolved"

/-- The primitive a shape rests on, if it rests on one. -/
def primitive? : TypeShape → Option String
  | .enumeration name | .primitive name => some name
  | _ => none

/-- The type of the elements, if the shape is an array. -/
def items? : TypeShape → Option TypeRef
  | .array items => some items
  | _ => none

end TypeShape

/-- A named type that a domain owns. -/
structure TypeDef where
  id : String
  description : Option String := none
  experimental : Bool := false
  deprecated : Bool := false
  shape : TypeShape := .unresolved
  /-- The values a text may have, if they are listed. -/
  allowed : Option (List String) := none
  properties : List Property := []
deriving DecidableEq, Repr

/-- An operation that can be asked for remotely. -/
structure Command where
  name : String
  description : Option String := none
  experimental : Bool := false
  deprecated : Bool := false
  parameters : List Property := []
  returns : List Property := []
deriving DecidableEq, Repr

/-- A group of types and commands. -/
structure Domain where
  name : String
  description : Option String := none
  experimental : Bool := false
  deprecated : Bool := false
  dependencies : List String := []
  types : List TypeDef := []
  commands : List Command := []
deriving DecidableEq, Repr

/-- The domains of one version of the protocol. -/
structure Schema where
  version : String
  domains : List Domain := []
deriving DecidableEq, Repr

/-- The first text of a list that repeats an earlier one; `seen` holds those before the list. -/
def firstRepeated? (seen : List String) : List String → Option String
  | [] => none
  | text :: rest =>
    if seen.contains text then some text else firstRepeated? (text :: seen) rest

namespace Domain

/-- The first type identifier that repeats an earlier one. -/
def repeatedTypeId? (domain : Domain) : Option String :=
  firstRepeated? [] (domain.types.map (·.id))

def type? (domain : Domain) (id : String) : Option TypeDef :=
  domain.types.find? (·.id == id)

end Domain

namespace Schema

def domainNames (schema : Schema) : List String :=
  schema.domains.map (·.name)

/-- The first domain name that repeats an earlier one. -/
def repeatedDomain? (schema : Schema) : Option String :=
  firstRepeated? [] schema.domainNames

def domain? (schema : Schema) (name : String) : Option Domain :=
  schema.domains.find? (·.name == name)

/-- The schema with the named domains only, in the order of the schema.  Naming none selects
all. -/
def select (schema : Schema) (names : List String) : Schema :=
  if names.isEmpty then schema
  else { schema with domains := schema.domains.filter fun d => names.contains d.name }

variable (schema : Schema) (names : List String)

theorem version_select : (schema.select names).version = schema.version := by
  rw [select]
  split <;> rfl

theorem domains_select : (schema.select names).domains =
    schema.domains.filter fun d => names.isEmpty || names.contains d.name := by
  rw [select]
  split
  · rename_i hempty
    simp only [hempty, Bool.true_or]
    exact (List.filter_eq_self.2 fun _ _ => rfl).symm
  · rename_i hempty
    simp [hempty]

/-- The domains of a selection are those that are named, or all if none is named. -/
theorem mem_domains_select {d : Domain} : d ∈ (schema.select names).domains ↔
    d ∈ schema.domains ∧ (names = [] ∨ d.name ∈ names) := by
  rw [domains_select, List.mem_filter, Bool.or_eq_true, List.isEmpty_iff, List.contains_iff_mem]

end Schema

theorem firstRepeated?_eq_none_iff {seen texts : List String} :
    firstRepeated? seen texts = none ↔ texts.Nodup ∧ ∀ t ∈ texts, t ∉ seen := by
  induction texts generalizing seen with
  | nil => simp [firstRepeated?]
  | cons text rest ih =>
    rw [firstRepeated?]
    split
    · rename_i h
      have h' : text ∈ seen := by simpa using h
      simp [h']
    · rename_i h
      have h' : text ∉ seen := by simpa using h
      rw [ih]
      simp only [List.nodup_cons, List.mem_cons, forall_eq_or_imp, not_or]
      constructor
      · rintro ⟨hn, hr⟩
        exact ⟨⟨fun hm => (hr text hm).1 rfl, hn⟩, h', fun t ht => (hr t ht).2⟩
      · rintro ⟨⟨hm, hn⟩, _, hr⟩
        exact ⟨hn, fun t ht => ⟨fun e => hm (e ▸ ht), hr t ht⟩⟩

/-- The first text that repeats an earlier one is found. -/
theorem firstRepeated?_append_cons {seen before after : List String} {text : String}
    (hbefore : before.Nodup) (hnew : ∀ other ∈ before, other ∉ seen)
    (h : text ∈ before ∨ text ∈ seen) :
    firstRepeated? seen (before ++ text :: after) = some text := by
  induction before generalizing seen with
  | nil =>
    have hseen : text ∈ seen := by simpa using h
    rw [List.nil_append, firstRepeated?, if_pos (List.contains_iff_mem.2 hseen)]
  | cons first before ih =>
    rw [List.nodup_cons] at hbefore
    rw [List.forall_mem_cons] at hnew
    have hfirst : ¬seen.contains first = true := fun hmem => hnew.1 (List.contains_iff_mem.1 hmem)
    rw [List.cons_append, firstRepeated?, if_neg hfirst]
    apply ih hbefore.2
    · intro other hother hmem
      rcases List.mem_cons.1 hmem with rfl | hmem
      · exact hbefore.1 hother
      · exact hnew.2 other hother hmem
    · rcases h with h | h
      · rcases List.mem_cons.1 h with rfl | h
        · exact Or.inr List.mem_cons_self
        · exact Or.inl h
      · exact Or.inr (List.mem_cons_of_mem _ h)

/-- The text that is found repeats an earlier one, and no text in front of it does. -/
theorem firstRepeated?_eq_some_iff {seen texts : List String} {text : String} :
    firstRepeated? seen texts = some text ↔
      ∃ before after, texts = before ++ text :: after ∧ before.Nodup ∧
        (∀ other ∈ before, other ∉ seen) ∧ (text ∈ before ∨ text ∈ seen) := by
  constructor
  · intro h
    induction texts generalizing seen with
    | nil => cases h
    | cons first rest ih =>
      rw [firstRepeated?] at h
      split at h
      · rename_i hseen
        obtain rfl := Option.some.inj h
        exact ⟨[], rest, rfl, .nil, by simp, Or.inr (List.contains_iff_mem.1 hseen)⟩
      · rename_i hnew
        obtain ⟨before, after, rfl, hbefore, hother, hrepeated⟩ := ih h
        have hfirst : first ∉ before := fun hmem => hother first hmem List.mem_cons_self
        refine ⟨first :: before, after, rfl, List.nodup_cons.2 ⟨hfirst, hbefore⟩, ?_, ?_⟩
        · intro other hmem
          rcases List.mem_cons.1 hmem with rfl | hmem
          · exact fun hseen => hnew (List.contains_iff_mem.2 hseen)
          · exact fun hseen => hother other hmem (List.mem_cons_of_mem _ hseen)
        · rcases hrepeated with hmem | hmem
          · exact Or.inl (List.mem_cons_of_mem _ hmem)
          · rcases List.mem_cons.1 hmem with rfl | hmem
            · exact Or.inl List.mem_cons_self
            · exact Or.inr hmem
  · rintro ⟨before, after, rfl, hbefore, hnew, h⟩
    exact firstRepeated?_append_cons hbefore hnew h

end ProtocolBindings
