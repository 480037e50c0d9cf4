import ProtocolBindings.Proofs.Schema.Located

/-!
# The first error of a document

The parts of a document are built one after the other, and the first that cannot be built ends the
construction.  What is wrong with a type or a command is located there, and what is wrong with the
rest of an entry at the entry.  What comes after the first error takes no part in it.
-/

namespace ProtocolBindings

open Results Building
open GenerationError (Cause)

/-! ## Members of a domain -/

namespace Building

variable {α : Type} {data : Json} {location : String} {cause : Cause}

/-- Whether a location is that of a member of a domain: what tells the member apart stands behind
the name of the domain, if it is there and counts as true. -/
def IsMemberLocation (domain : String) (member : Json) (key location : String) : Prop :=
  (∃ value, member.get? key = some value ∧ value.isTruthy = true ∧
      location = domain ++ "." ++ value.display) ∨
    (∀ value, member.get? key = some value → value.isTruthy = false) ∧ location = domain

theorem isMemberLocation_iff {domain : String} {member : Json} {key : String} :
    IsMemberLocation domain member key location ↔ location = partLocation domain member key := by
  rw [IsMemberLocation, partLocation]
  rcases member.get? key with _ | value
  · simp
  · cases htruthy : value.isTruthy <;> simp [htruthy]

theorem partLocation_ne_empty {domain key : String} (hdomain : domain ≠ "") :
    partLocation domain data key ≠ "" := by
  rw [partLocation]
  split
  · split
    · simp
    · exact hdomain
  · exact hdomain

/-- What is wrong with the members of a domain, and where: they are no list, or one of them is the
first that cannot be built. -/
inductive MembersFail (build : Json → Building α) (domain : String) (data : Json)
    (list key : String) : String → Cause → Prop where
  | noList (h : IsNoList data list) :
      MembersFail build domain data list key domain (.schemaMalformed (.notAList list))
  | member {before after : List Json} {item : Json} {e : GenerationError} {location : String}
      (hitems : optionalList data list = .ok (before ++ item :: after))
      (hbefore : ∀ other ∈ before, ∃ a, build other = .ok a)
      (h : build item = .error (.generation e))
      (hlocation : IsMemberLocation domain item key location) :
      MembersFail build domain data list key location e.cause

/-- The members of a domain, each located by what tells it apart. -/
def membersOf (build : Json → Building α) (domain : String) (data : Json) (list key : String) :
    Building (List α) :=
  optionalList data list >>= fun items =>
    items.mapM fun item => Building.located (partLocation domain item key) (build item)

variable {build : Json → Building α} {domain list key : String}

theorem membersOf_eq_ok_iff {parts : List α} :
    membersOf build domain data list key = .ok parts ↔
      ListBuiltFrom (build · = .ok ·) data list parts := by
  simp only [membersOf, bind_eq_ok_iff, mapM_eq_ok_iff, building_located_eq_ok_iff, ListBuiltFrom]

theorem reports_membersOf_iff (hbuild : ∀ item, Unlocated (build item)) (hdomain : domain ≠ "") :
    Reports domain (membersOf build domain data list key) location cause ↔
      MembersFail build domain data list key location cause := by
  simp only [membersOf, reports_bind_iff, reports_optionalList_iff, reports_mapM_iff,
    building_located_eq_ok_iff]
  constructor
  · rintro (⟨hlist, rfl, rfl⟩ | ⟨_, hitems, before, item, after, rfl, hbefore, hitem⟩)
    · exact .noList hlist
    · obtain ⟨e, he, hlocation, rfl⟩ :=
        (reports_located_iff (hbuild item) (partLocation_ne_empty hdomain)).1 hitem
      exact .member hitems hbefore he (isMemberLocation_iff.2 hlocation)
  · intro h
    cases h with
    | noList hlist => exact Or.inl ⟨hlist, rfl, rfl⟩
    | @member before after item e _ hitems hbefore he hlocation =>
      have hreports : Reports domain
          (Building.located (partLocation domain item key) (build item)) location e.cause :=
        (reports_located_iff (hbuild item) (partLocation_ne_empty hdomain)).2
          ⟨e, he, isMemberLocation_iff.1 hlocation, rfl⟩
      exact Or.inr ⟨_, hitems, before, item, after, rfl, hbefore, hreports⟩

end Building

/-! ## Domains -/

namespace Domain

/-- Whether a location is that of an entry of the document: its name, if it is there and counts as
true, or else its position. -/
def IsLocation (position : Nat) (data : Json) (location : String) : Prop :=
  (∃ value, data.get? "domain" = some value ∧ value.isTruthy = true ∧
      location = value.display) ∨
    (∀ value, data.get? "domain" = some value → value.isTruthy = false) ∧
      location = "domains[" ++ toString position ++ "]"

variable {position : Nat} {data : Json} {name location : String} {cause : Cause}

theorem isLocation_iff : IsLocation position data location ↔
    location = Domain.location position data := by
  rw [IsLocation, Domain.location]
  rcases data.get? "domain" with _ | value
  · simp
  · cases htruthy : value.isTruthy <;> simp [htruthy]

theorem location_of_not_object (h : ∀ members, data ≠ .object members) :
    Domain.location position data = "domains[" ++ toString position ++ "]" := by
  cases data with
  | object members => exact absurd rfl (h members)
  | _ => rfl

/-- What is wrong with a member lies in the protocol. -/
theorem isOfProtocol_of_membersFail {α : Type} {build : Json → Building α} {list key : String}
    (hbuild : ∀ item, Unlocated (build item))
    (h : MembersFail build name data list key location cause) : cause.IsOfProtocol := by
  cases h with
  | noList => trivial
  | @member before after item e _ hitems hbefore he hlocation => exact (hbuild item _ he).2

theorem isObject_of_requireText {key : String} (h : requireText data key = .ok name) :
    ∃ members, data = .object members := by
  have hget := (requireText_eq_ok_iff.1 h).1
  cases data with
  | object members => exact ⟨members, rfl⟩
  | _ => cases hget

/-- The location of an entry with a name is the name. -/
theorem location_of_requireText (h : requireText data "domain" = .ok name) :
    Domain.location position data = name := by
  obtain ⟨hget, hne⟩ := requireText_eq_ok_iff.1 h
  have htruthy : (Json.string name).isTruthy = true := bne_iff_ne.2 hne
  rw [Domain.location, hget]
  dsimp only
  rw [if_pos htruthy]
  rfl

variable [Host]

/-- What is wrong with an entry of the document that stands for no domain, and where.  The order of
the cases is that in which the entry is read, and each rests on those before it. -/
inductive FailsAt (position : Nat) (data : Json) : String → Cause → Prop where
  | notObject (h : ∀ members, data ≠ .object members) :
      FailsAt position data ("domains[" ++ toString position ++ "]")
        (.schemaMalformed (.notAnObject "domain" data.kindName))
  | noName {location : String} (hobject : ∃ members, data = .object members)
      (h : ∀ name, data.get? "domain" = some (.string name) → name = "")
      (hlocation : IsLocation position data location) :
      FailsAt position data location (.schemaMalformed (.noField "domain"))
  | types {name location : String} {cause : Cause} (hname : requireText data "domain" = .ok name)
      (h : MembersFail TypeDef.ofJson name data "types" "id" location cause) :
      FailsAt position data location cause
  | commands {name location : String} {cause : Cause} {types : List TypeDef}
      (hname : requireText data "domain" = .ok name)
      (htypes : ListBuiltFrom (TypeDef.ofJson · = .ok ·) data "types" types)
      (h : MembersFail Command.ofJson name data "commands" "name" location cause) :
      FailsAt position data location cause
  | dependencies {name : String} {types : List TypeDef} {commands : List Command}
      (hname : requireText data "domain" = .ok name)
      (htypes : ListBuiltFrom (TypeDef.ofJson · = .ok ·) data "types" types)
      (hcommands : ListBuiltFrom (Command.ofJson · = .ok ·) data "commands" commands)
      (h : IsNoList data "dependencies") :
      FailsAt position data name (.schemaMalformed (.notAList "dependencies"))
  | description {name : String} {types : List TypeDef} {commands : List Command}
      {items : List Json} {fault : FieldError} (hname : requireText data "domain" = .ok name)
      (htypes : ListBuiltFrom (TypeDef.ofJson · = .ok ·) data "types" types)
      (hcommands : ListBuiltFrom (Command.ofJson · = .ok ·) data "commands" commands)
      (hdependencies : optionalList data "dependencies" = .ok items)
      (h : Building.description data = .error fault) :
      FailsAt position data name (.schemaMalformed (.invalidField fault.fault))
  | repeatedTypeId {name id : String} {types : List TypeDef} {commands : List Command}
      {items : List Json} {text : Option String} (hname : requireText data "domain" = .ok name)
      (htypes : ListBuiltFrom (TypeDef.ofJson · = .ok ·) data "types" types)
      (hcommands : ListBuiltFrom (Command.ofJson · = .ok ·) data "commands" commands)
      (hdependencies : optionalList data "dependencies" = .ok items)
      (hdescription : Building.description data = .ok text)
      (h : firstRepeated? [] (types.map (·.id)) = some id) :
      FailsAt position data name (.schemaMalformed (.invalidField (repeatedFault "type id" id)))

def ofMembers (data : Json) (name : String) (types : List TypeDef) (commands : List Command) :
    Building Domain := do
  let dependencies ← optionalList data "dependencies"
  let description ← documentDescription data
  let d : Domain :=
    { name
      description
      experimental := flag data "experimental"
      deprecated := flag data "deprecated"
      dependencies := dependencies.map (·.display)
      types
      commands }
  match d.repeatedTypeId? with
  | some id => Building.malformed (.invalidField (repeatedFault "type id" id))
  | none => return d

theorem ofJson_eq (data : Json) :
    Domain.ofJson data =
      requireObject "domain" data >>= fun _ =>
      requireText data "domain" >>= fun name =>
      membersOf TypeDef.ofJson name data "types" "id" >>= fun types =>
      membersOf Command.ofJson name data "commands" "name" >>= fun commands =>
      ofMembers data name types commands := by
  simp only [membersOf, bind_assoc]
  rfl

variable {types : List TypeDef} {commands : List Command}

/-- An entry without a fault before its dependencies fails by what follows. -/
theorem failsAt_of_reports_ofMembers (hname : requireText data "domain" = .ok name)
    (htypes : ListBuiltFrom (TypeDef.ofJson · = .ok ·) data "types" types)
    (hcommands : ListBuiltFrom (Command.ofJson · = .ok ·) data "commands" commands)
    (h : Reports name (ofMembers data name types commands) location cause) :
    FailsAt position data location cause := by
  rcases reports_bind_iff.1 h with hreports | ⟨items, hitems, h⟩
  · obtain ⟨hlist, rfl, rfl⟩ := reports_optionalList_iff.1 hreports
    exact .dependencies hname htypes hcommands hlist
  rcases reports_bind_iff.1 h with hreports | ⟨text, htext, h⟩
  · obtain ⟨fault, hfault, rfl, rfl⟩ := reports_documentDescription_iff.1 hreports
    exact .description hname htypes hcommands hitems hfault
  rw [documentDescription_eq_ok_iff] at htext
  dsimp only at h
  split at h
  · rename_i id hid
    obtain ⟨rfl, rfl⟩ := reports_malformed_iff.1 h
    exact .repeatedTypeId hname htypes hcommands hitems htext hid
  · exact absurd h reports_ok

theorem failsAt_of_reports
    (h : Reports (Domain.location position data) (Domain.ofJson data) location cause) :
    FailsAt position data location cause := by
  rw [ofJson_eq] at h
  rcases reports_bind_iff.1 h with hreports | ⟨_, hobject, h⟩
  · obtain ⟨hobject, rfl, rfl⟩ := reports_requireObject_iff.1 hreports
    rw [location_of_not_object hobject]
    exact .notObject hobject
  rcases reports_bind_iff.1 h with hreports | ⟨name, hname, h⟩
  · obtain ⟨hname, hlocation, rfl⟩ := reports_requireText_iff.1 hreports
    exact .noName (requireObject_eq_ok_iff.1 hobject) hname (isLocation_iff.2 hlocation)
  rw [location_of_requireText hname] at h
  have hne : name ≠ "" := (requireText_eq_ok_iff.1 hname).2
  rcases reports_bind_iff.1 h with hreports | ⟨types, htypes, h⟩
  · exact .types hname ((reports_membersOf_iff TypeDef.unlocated_ofJson hne).1 hreports)
  rw [membersOf_eq_ok_iff] at htypes
  rcases reports_bind_iff.1 h with hreports | ⟨commands, hcommands, h⟩
  · exact .commands hname htypes
      ((reports_membersOf_iff Command.unlocated_ofJson hne).1 hreports)
  rw [membersOf_eq_ok_iff] at hcommands
  exact failsAt_of_reports_ofMembers hname htypes hcommands h

/-- What an entry with a name reports is what is wrong with its parts. -/
theorem reports_of_name (hname : requireText data "domain" = .ok name)
    (h : Reports name
      (membersOf TypeDef.ofJson name data "types" "id" >>= fun types =>
        membersOf Command.ofJson name data "commands" "name" >>= fun commands =>
        ofMembers data name types commands) location cause) :
    Reports (Domain.location position data) (Domain.ofJson data) location cause := by
  have hobject := isObject_of_requireText hname
  rw [ofJson_eq, location_of_requireText hname]
  refine reports_bind_iff.2 (Or.inr ⟨(), requireObject_eq_ok_iff.2 hobject, ?_⟩)
  exact reports_bind_iff.2 (Or.inr ⟨name, hname, h⟩)

theorem reports_of_types (hname : requireText data "domain" = .ok name)
    (htypes : ListBuiltFrom (TypeDef.ofJson · = .ok ·) data "types" types)
    (h : Reports name
      (membersOf Command.ofJson name data "commands" "name" >>= fun commands =>
        ofMembers data name types commands) location cause) :
    Reports (Domain.location position data) (Domain.ofJson data) location cause :=
  reports_of_name hname (reports_bind_iff.2 (Or.inr ⟨types, membersOf_eq_ok_iff.2 htypes, h⟩))

theorem reports_of_commands (hname : requireText data "domain" = .ok name)
    (htypes : ListBuiltFrom (TypeDef.ofJson · = .ok ·) data "types" types)
    (hcommands : ListBuiltFrom (Command.ofJson · = .ok ·) data "commands" commands)
    (h : Reports name (ofMembers data name types commands) location cause) :
    Reports (Domain.location position data) (Domain.ofJson data) location cause :=
  reports_of_types hname htypes
    (reports_bind_iff.2 (Or.inr ⟨commands, membersOf_eq_ok_iff.2 hcommands, h⟩))

theorem reports_of_failsAt (h : FailsAt position data location cause) :
    Reports (Domain.location position data) (Domain.ofJson data) location cause := by
  cases h with
  | notObject hobject =>
    rw [ofJson_eq, location_of_not_object hobject]
    exact reports_bind_iff.2 (Or.inl (reports_requireObject_iff.2 ⟨hobject, rfl, rfl⟩))
  | noName hobject hname hlocation =>
    have hreports := reports_requireText_iff.2 ⟨hname, isLocation_iff.1 hlocation, rfl⟩
    rw [ofJson_eq]
    refine reports_bind_iff.2 (Or.inr ⟨(), requireObject_eq_ok_iff.2 hobject, ?_⟩)
    exact reports_bind_iff.2 (Or.inl hreports)
  | types hname hfails =>
    have hne := (requireText_eq_ok_iff.1 hname).2
    have hreports := (reports_membersOf_iff TypeDef.unlocated_ofJson hne).2 hfails
    exact reports_of_name hname (reports_bind_iff.2 (Or.inl hreports))
  | commands hname htypes hfails =>
    have hne := (requireText_eq_ok_iff.1 hname).2
    have hreports := (reports_membersOf_iff Command.unlocated_ofJson hne).2 hfails
    exact reports_of_types hname htypes (reports_bind_iff.2 (Or.inl hreports))
  | dependencies hname htypes hcommands hlist =>
    refine reports_of_commands hname htypes hcommands (reports_bind_iff.2 (Or.inl ?_))
    exact reports_optionalList_iff.2 ⟨hlist, rfl, rfl⟩
  | description hname htypes hcommands hitems hfault =>
    refine reports_of_commands hname htypes hcommands ?_
    refine reports_bind_iff.2 (Or.inr ⟨_, hitems, reports_bind_iff.2 (Or.inl ?_)⟩)
    exact reports_documentDescription_iff.2 ⟨_, hfault, rfl, rfl⟩
  | @repeatedTypeId name id types commands items text hname htypes hcommands hitems htext hid =>
    refine reports_of_commands hname htypes hcommands ?_
    refine reports_bind_iff.2 (Or.inr ⟨items, hitems, ?_⟩)
    refine reports_bind_iff.2 (Or.inr ⟨text, documentDescription_eq_ok_iff.2 htext, ?_⟩)
    dsimp only [repeatedTypeId?]
    rw [hid]
    exact reports_malformed_iff.2 ⟨rfl, rfl⟩

/-- What is wrong with an entry is what the document reports of it. -/
theorem failsAt_iff : FailsAt position data location cause ↔
    Reports (Domain.location position data) (Domain.ofJson data) location cause :=
  ⟨reports_of_failsAt, failsAt_of_reports⟩

/-- Every error of an entry is something that is wrong with it. -/
theorem exists_failsAt (position : Nat) {e : GenerationError}
    (h : Domain.ofJson data = .error (.generation e)) :
    ∃ location, FailsAt position data location e.cause := by
  obtain ⟨place, hplace⟩ : ∃ place, GenerationError.within (Domain.location position data) e =
      { cause := e.cause, location := some place } := by
    rw [GenerationError.within]
    split
    · rename_i hlocated
      obtain ⟨cause, place⟩ := e
      cases place with
      | none => cases hlocated
      | some place => exact ⟨place, rfl⟩
    · exact ⟨_, rfl⟩
  refine ⟨place, failsAt_iff.2 ?_⟩
  rw [Reports, h, ← hplace]
  rfl

/-- What is wrong with an entry lies in the protocol. -/
theorem isOfProtocol_of_failsAt (h : FailsAt position data location cause) :
    cause.IsOfProtocol := by
  cases h with
  | types hname htypes => exact isOfProtocol_of_membersFail TypeDef.unlocated_ofJson htypes
  | commands hname htypes hcommands =>
    exact isOfProtocol_of_membersFail Command.unlocated_ofJson hcommands
  | notObject => trivial
  | noName => trivial
  | dependencies => trivial
  | description => trivial
  | repeatedTypeId => trivial

theorem isOfProtocol_of_listOfJson_eq_error {entries : List Json} {e : GenerationError}
    (h : listOfJson position entries = .error (.generation e)) : e.cause.IsOfProtocol := by
  induction entries generalizing position with
  | nil => cases h
  | cons data rest ih =>
    rw [listOfJson] at h
    rcases bind_eq_error_iff.1 h with hfirst | ⟨d, -, h⟩
    · obtain ⟨inner, hinner, hwithin⟩ := mapError_eq_error_iff.1 hfirst
      have hprotocol : inner.IsOfProtocol := by
        cases inner with
        | generation e' =>
          obtain ⟨location, hfails⟩ := exists_failsAt position hinner
          exact isOfProtocol_of_failsAt hfails
        | invalidRecord e' => cases hwithin
        | tooDeep => cases hwithin
      have hlocated : (inner.within (location position data)).IsOfProtocol :=
        BuildError.isOfProtocol_within.2 hprotocol
      rwa [hwithin] at hlocated
    · rcases bind_eq_error_iff.1 h with hrest | ⟨domains, -, hend⟩
      · exact ih hrest
      · cases hend

/-- The first entry that cannot be built decides. -/
theorem listOfJson_eq_error {before after : List Json} {e : BuildError}
    (hbefore : ∀ other ∈ before, ∃ d, Domain.ofJson other = .ok d)
    (h : Building.located (Domain.location (position + before.length) data)
      (Domain.ofJson data) = .error e) :
    listOfJson position (before ++ data :: after) = .error e := by
  induction before generalizing position with
  | nil => exact bind_eq_error_iff.2 (Or.inl h)
  | cons first before ih =>
    rw [List.forall_mem_cons] at hbefore
    obtain ⟨⟨d, hd⟩, hbefore⟩ := hbefore
    rw [List.length_cons, Nat.add_comm before.length, ← Nat.add_assoc] at h
    have hrest := ih hbefore h
    refine bind_eq_error_iff.2 (Or.inr ⟨d, building_located_eq_ok_iff.2 hd, ?_⟩)
    exact bind_eq_error_iff.2 (Or.inl hrest)

end Domain

/-! ## Documents -/

namespace Schema

variable {document : Json} {entries : List Json} {domains : List Domain}
  (version : ProtocolVersion)

theorem message_repeatedFault (name : String) :
    (Malformation.invalidField (repeatedFault "domain" name)).message =
      "Value error, Duplicate domain '" ++ name ++ "'" := by
  have hfront : "Value error, " ++ ("Duplicate " ++ "domain" ++ " '") =
      "Value error, Duplicate domain '" := by
    decide
  have hassoc : ∀ a b c d : String, a ++ (b ++ c ++ d) = a ++ b ++ c ++ d := by
    intro a b c d
    rw [String.append_assoc, String.append_assoc, String.append_assoc]
  rw [← hfront]
  exact hassoc "Value error, " _ name "'"

section

variable [Host]

theorem ofJson_eq_bind (h : document.get? "domains" = some (.array entries)) :
    Schema.ofJson version document = Domain.listOfJson 0 entries >>= fun domains =>
      match firstRepeated? [] (domains.map (·.name)) with
      | some name => Building.malformed (.invalidField (repeatedFault "domain" name))
      | none => .ok { version := version.name, domains } := by
  rw [Schema.ofJson, h]
  rfl

theorem ofJson_of_forall₂ (h : document.get? "domains" = some (.array entries))
    (hentries : List.Forall₂ (Domain.ofJson · = .ok ·) entries domains) :
    Schema.ofJson version document =
      match firstRepeated? [] (domains.map (·.name)) with
      | some name => Building.malformed (.invalidField (repeatedFault "domain" name))
      | none => .ok { version := version.name, domains } := by
  have hlist : Domain.listOfJson 0 entries = .ok domains :=
    Domain.listOfJson_eq_ok_iff.2 (hentries.imp fun _ _ => Domain.ofJson_eq_ok_iff.1)
  rw [ofJson_eq_bind version h, hlist]
  rfl

/-- Every error of the generation that a document ends with lies in the protocol. -/
theorem isOfProtocol_of_ofJson_eq_error {e : GenerationError}
    (h : Schema.ofJson version document = .error (.generation e)) : e.cause.IsOfProtocol := by
  rw [Schema.ofJson] at h
  split at h
  · rcases bind_eq_error_iff.1 h with hlist | ⟨domains, -, hchecked⟩
    · exact Domain.isOfProtocol_of_listOfJson_eq_error hlist
    · dsimp only at hchecked
      split at hchecked
      · obtain rfl := BuildError.generation.inj (Except.error.inj hchecked)
        trivial
      · cases hchecked
  · obtain rfl := BuildError.generation.inj (Except.error.inj h)
    trivial

/-- The first entry that cannot be built decides what is wrong with a document and where, whatever
comes behind it.  If every entry can be built, the schema has their domains in order, or it is said
which name is the first to repeat an earlier one. -/
theorem ofJson_first_error
    (h : document.get? "domains" = some (.array entries)) :
    (∀ before data after, entries = before ++ data :: after →
        (∀ other ∈ before, ∃ d, Domain.ofJson other = .ok d) →
        (∀ e, Domain.ofJson data = .error (.generation e) →
          ∃ location, Domain.FailsAt before.length data location e.cause) ∧
        ∀ location cause, Domain.FailsAt before.length data location cause →
          Schema.ofJson version document =
            .error (.generation { cause, location := some location })) ∧
      ∀ domains, List.Forall₂ (Domain.ofJson · = .ok ·) entries domains →
        ((domains.map (·.name)).Nodup →
          Schema.ofJson version document = .ok { version := version.name, domains }) ∧
        ∀ before name after, domains.map (·.name) = before ++ name :: after → before.Nodup →
          name ∈ before →
            ∃ malformation : Malformation,
              malformation.message = "Value error, Duplicate domain '" ++ name ++ "'" ∧
              Schema.ofJson version document =
                .error (.generation
                  { cause := .schemaMalformed malformation, location := none }) := by
  constructor
  · rintro before data after rfl hbefore
    refine ⟨fun e he => Domain.exists_failsAt before.length he, ?_⟩
    intro location cause hfails
    have hreports := Domain.failsAt_iff.1 hfails
    rw [← Nat.zero_add before.length] at hreports
    rw [ofJson_eq_bind version h]
    exact bind_eq_error_iff.2 (Or.inl (Domain.listOfJson_eq_error hbefore hreports))
  · intro domains hdomains
    have hschema := ofJson_of_forall₂ version h hdomains
    refine ⟨fun hnodup => ?_, fun before name after hnames hbefore hname => ?_⟩
    · have hnone : firstRepeated? [] (domains.map (·.name)) = none :=
        firstRepeated?_eq_none_iff.2 ⟨hnodup, by simp⟩
      rw [hschema, hnone]
    · have hrepeated : firstRepeated? [] (domains.map (·.name)) = some name := by
        rw [hnames]
        exact firstRepeated?_append_cons hbefore (by simp) (Or.inl hname)
      rw [hrepeated] at hschema
      exact ⟨_, message_repeatedFault name, hschema⟩

end

/-- An entry for a domain that holds nothing. -/
def pageEntry : Json :=
  .object [("domain", .string "Page")]

/-- A type whose properties are no list. -/
def nodeType : Json :=
  .object [("id", .string "Node"), ("properties", .string "none")]

/-- An entry with that type, whose commands are no list either. -/
def nodeEntry : Json :=
  .object [("domain", .string "DOM"), ("commands", .string "none"), ("types", .array [nodeType])]

/-- The type is at fault, before the commands and before the entry that comes next. -/
theorem ofJson_first_error_node :
    Schema.ofJson .tipOfTree (.object [("domains", .array [pageEntry, nodeEntry, .null])]) =
      .error (.generation
        { cause := .schemaMalformed (.notAList "properties"), location := some "DOM.Node" }) := by
  have hpage : ∀ other ∈ [pageEntry], ∃ d, Domain.ofJson other = .ok d := by
    intro other hother
    rw [List.mem_singleton.1 hother]
    exact ⟨{ name := "Page" }, rfl⟩
  have htype : MembersFail TypeDef.ofJson "DOM" nodeEntry "types" "id" "DOM.Node"
      (.schemaMalformed (.notAList "properties")) := by
    have hitems : optionalList nodeEntry "types" = .ok ([] ++ nodeType :: []) := rfl
    have hproperties : TypeDef.ofJson nodeType = .error (.generation
      { cause := .schemaMalformed (.notAList "properties") }) := rfl
    exact .member hitems (by simp) hproperties (isMemberLocation_iff.2 rfl)
  have hname : requireText nodeEntry "domain" = .ok "DOM" := rfl
  have hentries : (Json.object [("domains", .array [pageEntry, nodeEntry, .null])]).get?
      "domains" = some (.array [pageEntry, nodeEntry, .null]) := rfl
  obtain ⟨hfirst, -⟩ := ofJson_first_error .tipOfTree hentries
  exact (hfirst [pageEntry] nodeEntry [.null] rfl hpage).2 _ _ (.types hname htype)

end Schema

end ProtocolBindings
