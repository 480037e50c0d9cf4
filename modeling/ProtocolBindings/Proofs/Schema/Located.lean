import ProtocolBindings.Proofs.Schema.Escapes

/-!
# Where errors are reported

The parts of a type or a command leave it to the domain to say where an error lies.  So an error
gets its location from the innermost part that offers one.
-/

namespace ProtocolBindings

open Results Building
open GenerationError (Cause)

/-! ## Errors without a location -/

/-- Whether an error of the generation lies in the protocol and leaves its location to those who
pass it on. -/
def BuildError.IsUnlocated : BuildError → Prop
  | .generation e => e.location = none ∧ e.cause.IsOfProtocol
  | _ => True

theorem BuildError.IsUnlocated.within_eq {e : GenerationError}
    (h : IsUnlocated (.generation e)) (location : String) :
    BuildError.within location (.generation e) =
      .generation { cause := e.cause, location := some location } := by
  obtain ⟨cause, place⟩ := e
  obtain rfl : place = none := h.1
  rfl

namespace Building

variable {α β : Type} {data : Json}

/-- Whether a construction ends with errors without a location only. -/
def Unlocated (result : Building α) : Prop :=
  ∀ e, result = .error e → e.IsUnlocated

theorem unlocated_bind {x : Building α} {f : α → Building β} (hx : Unlocated x)
    (hf : ∀ a, Unlocated (f a)) : Unlocated (x >>= f) := by
  intro e h
  rcases bind_eq_error_iff.1 h with hfirst | ⟨a, -, hrest⟩
  · exact hx e hfirst
  · exact hf a e hrest

theorem unlocated_map {x : Building α} {f : α → β} (hx : Unlocated x) : Unlocated (x.map f) :=
  fun e h => hx e (map_eq_error_iff.1 h)

theorem unlocated_mapM {f : Json → Building α} (hf : ∀ item, Unlocated (f item))
    (items : List Json) : Unlocated (items.mapM f) := by
  intro e h
  obtain ⟨_, item, _, -, -, hitem⟩ := mapM_eq_error_iff.1 h
  exact hf item e hitem

theorem IsSimple.unlocated {result : Building α} (h : IsSimple result) : Unlocated result := by
  intro e herror
  obtain ⟨cause, hcause, rfl⟩ := h e herror
  exact ⟨rfl, hcause⟩

theorem unlocated_recordDescription {title : String} :
    Unlocated (recordDescription title data) := by
  intro e h
  rw [recordDescription] at h
  split at h
  · cases h
  · obtain rfl := Except.error.inj h
    trivial

end Building

section

variable [Host]

theorem TypeRef.unlocated_requireShallow {nesting : Nat} :
    Unlocated (TypeRef.requireShallow nesting) := by
  rw [requireShallow]
  split
  · intro e h
    obtain rfl := Except.error.inj h
    trivial
  · exact isSimple_ok.unlocated

theorem TypeRef.unlocated_elementsOf {data : Json} : Unlocated (TypeRef.elementsOf data) := by
  rw [elementsOf.eq_def]
  split
  · rename_i members
    exact unlocated_bind unlocated_requireShallow fun _ => (isSimple_built.2.2 members).unlocated
  · exact isSimple_ok.unlocated

theorem TypeShape.unlocated_ofJson {data : Json} : Unlocated (TypeShape.ofJson data) := by
  rw [TypeShape.ofJson]
  split
  · split
    · exact isSimple_ok.unlocated
    · split
      · exact isSimple_ok.unlocated
      · split
        · exact unlocated_map TypeRef.unlocated_elementsOf
        · exact isSimple_ok.unlocated
  · exact isSimple_ok.unlocated

theorem Property.unlocated_ofJson (data : Json) : Unlocated (Property.ofJson data) := by
  rw [Property.ofJson]
  refine unlocated_bind isSimple_requireObject.unlocated fun _ => ?_
  refine unlocated_bind isSimple_requireText.unlocated fun _ => ?_
  refine unlocated_bind TypeRef.unlocated_requireShallow fun _ => ?_
  refine unlocated_bind (TypeRef.isSimple_built.1 data).unlocated fun _ => ?_
  refine unlocated_bind isSimple_allowedValues.unlocated fun _ => ?_
  exact unlocated_bind unlocated_recordDescription fun _ => isSimple_ok.unlocated

theorem TypeDef.unlocated_ofJson (data : Json) : Unlocated (TypeDef.ofJson data) := by
  rw [TypeDef.ofJson]
  refine unlocated_bind isSimple_requireObject.unlocated fun _ => ?_
  refine unlocated_bind isSimple_requireText.unlocated fun _ => ?_
  refine unlocated_bind TypeShape.unlocated_ofJson fun _ => ?_
  refine unlocated_bind isSimple_optionalList.unlocated fun items => ?_
  refine unlocated_bind (unlocated_mapM Property.unlocated_ofJson items) fun _ => ?_
  refine unlocated_bind isSimple_allowedValues.unlocated fun _ => ?_
  refine unlocated_bind isSimple_documentDescription.unlocated fun _ => ?_
  dsimp only
  split
  · exact isSimple_malformed.unlocated
  · exact isSimple_ok.unlocated

theorem Command.unlocated_ofJson (data : Json) : Unlocated (Command.ofJson data) := by
  rw [Command.ofJson]
  refine unlocated_bind isSimple_requireObject.unlocated fun _ => ?_
  refine unlocated_bind isSimple_requireText.unlocated fun _ => ?_
  refine unlocated_bind isSimple_optionalList.unlocated fun parameters => ?_
  refine unlocated_bind (unlocated_mapM Property.unlocated_ofJson parameters) fun _ => ?_
  refine unlocated_bind isSimple_optionalList.unlocated fun returns => ?_
  refine unlocated_bind (unlocated_mapM Property.unlocated_ofJson returns) fun _ => ?_
  exact unlocated_bind unlocated_recordDescription fun _ => isSimple_ok.unlocated

end

/-! ## Where an error is reported -/

/-- Whether a construction ends with an error for which a location has been found when `place` is
offered to it. -/
def Building.Reports {α : Type} (place : String) (result : Building α) (location : String)
    (cause : Cause) : Prop :=
  Building.located place result = .error (.generation { cause, location := some location })

namespace Building

variable {α β : Type} {data : Json} {place location : String} {cause : Cause}

theorem reports_ok {a : α} : ¬Reports place (.ok a : Building α) location cause := by
  intro h
  cases h

theorem reports_bind_iff {x : Building α} {f : α → Building β} :
    Reports place (x >>= f) location cause ↔
      Reports place x location cause ∨ ∃ a, x = .ok a ∧ Reports place (f a) location cause := by
  cases x with
  | error e => simp [Reports, located, bind, Except.bind, Except.mapError]
  | ok a => simp [Reports, located, bind, Except.bind, Except.mapError]

theorem reports_malformed_iff {malformation : Malformation} :
    Reports place (malformed malformation : Building α) location cause ↔
      location = place ∧ cause = .schemaMalformed malformation := by
  have hlocated : located place (malformed malformation : Building α) =
      .error (.generation { cause := .schemaMalformed malformation, location := some place }) :=
    rfl
  rw [Reports, hlocated, Except.error.injEq, BuildError.generation.injEq,
    GenerationError.mk.injEq, Option.some.injEq, and_comm, eq_comm, @eq_comm _ cause]

theorem reports_requireObject_iff {part : String} :
    Reports place (requireObject part data) location cause ↔ (∀ members, data ≠ .object members) ∧
      location = place ∧ cause = .schemaMalformed (.notAnObject part data.kindName) := by
  cases data with
  | object members => simp [requireObject, reports_ok]
  | _ => simp [requireObject, reports_malformed_iff, Json.kindName]

theorem reports_requireText_iff {key : String} :
    Reports place (requireText data key) location cause ↔
      (∀ text, data.get? key = some (.string text) → text = "") ∧
        location = place ∧ cause = .schemaMalformed (.noField key) := by
  rw [requireText]
  split
  · rename_i text hget
    rw [hget]
    by_cases hempty : text = ""
    · simp [hempty, reports_malformed_iff]
    · simp [hempty, reports_ok]
  · rename_i hother
    have hnone : ∀ text, data.get? key = some (.string text) → text = "" :=
      fun text hget => absurd hget (hother text)
    rw [reports_malformed_iff]
    exact (and_iff_right hnone).symm

/-- Whether there is a field that is neither a list nor null. -/
def IsNoList (data : Json) (key : String) : Prop :=
  ∃ value, data.get? key = some value ∧ value ≠ .null ∧ ∀ items, value ≠ .array items

theorem reports_optionalList_iff {key : String} :
    Reports place (optionalList data key) location cause ↔ IsNoList data key ∧
      location = place ∧ cause = .schemaMalformed (.notAList key) := by
  rw [optionalList, IsNoList]
  rcases data.get? key with _ | value
  · simp [reports_ok]
  · cases value <;> simp [reports_ok, reports_malformed_iff]

theorem reports_documentDescription_iff :
    Reports place (documentDescription data) location cause ↔
      ∃ fault, description data = .error fault ∧ location = place ∧
        cause = .schemaMalformed (.invalidField fault.fault) := by
  rw [documentDescription]
  cases description data with
  | ok text => simp [reports_ok]
  | error fault => simp [reports_malformed_iff]

/-- A location that is found further inside stays. -/
theorem reports_located_iff {result : Building α} {inner : String} (hresult : Unlocated result)
    (hinner : inner ≠ "") :
    Reports place (located inner result) location cause ↔
      ∃ e, result = .error (.generation e) ∧ location = inner ∧ cause = e.cause := by
  have hwithin : ∀ cause, GenerationError.within place { cause, location := some inner } =
      { cause, location := some inner } := by
    intro cause
    simp [GenerationError.within, GenerationError.isLocated, hinner]
  rcases result with e | a
  · cases e with
    | generation e =>
      have hlocated : located place (located inner (.error (.generation e) : Building α)) =
          .error (.generation { cause := e.cause, location := some inner }) := by
        have hfirst := (hresult _ rfl).within_eq inner
        simp only [located, Except.mapError, hfirst]
        rw [BuildError.within, hwithin]
      rw [Reports, hlocated]
      simp [eq_comm, and_comm]
    | invalidRecord e => simp [Reports, located, Except.mapError, BuildError.within]
    | tooDeep => simp [Reports, located, Except.mapError, BuildError.within]
  · simp [Reports, located, Except.mapError]

theorem reports_mapM_iff {f : Json → Building α} {items : List Json} :
    Reports place (items.mapM f) location cause ↔
      ∃ before item after, items = before ++ item :: after ∧
        (∀ other ∈ before, ∃ a, f other = .ok a) ∧ Reports place (f item) location cause := by
  simp only [Reports, located, mapError_eq_error_iff, mapM_eq_error_iff]
  constructor
  · rintro ⟨e, ⟨before, item, after, hitems, hbefore, hitem⟩, hwithin⟩
    exact ⟨before, item, after, hitems, hbefore, e, hitem, hwithin⟩
  · rintro ⟨before, item, after, hitems, hbefore, e, hitem, hwithin⟩
    exact ⟨e, ⟨before, item, after, hitems, hbefore, hitem⟩, hwithin⟩

end Building

end ProtocolBindings
