import ProtocolBindings.Config
import ProtocolBindings.Proofs.Source.Code
import ProtocolBindings.Proofs.Text.Blank

/-!
# Checked settings

What the checks on a configuration promise to the rest of a run, and which version of the protocol
a configuration comes to ask for.
-/

namespace ProtocolBindings

namespace Validated

variable {α β : Type} {v : Validated α} {b : β}

theorem apply_eq_valid_iff {f : Validated (α → β)} :
    apply f v = .valid b ↔ ∃ g a, f = .valid g ∧ v = .valid a ∧ g a = b := by
  cases f <;> cases v <;> simp [apply]

theorem map_eq_valid_iff {f : α → β} : map f v = .valid b ↔ ∃ a, v = .valid a ∧ f a = b := by
  cases v <;> simp [map]

theorem under_eq_valid_iff {step : PathStep} {a : α} : v.under step = .valid a ↔ v = .valid a := by
  cases v <;> simp [under]

theorem check_eq_valid_iff {f : α → Validated β} :
    v.check f = .valid b ↔ ∃ a, v = .valid a ∧ f a = .valid b := by
  cases v <;> simp [check]

theorem toExcept_eq_ok_iff {title : String} {a : α} : v.toExcept title = .ok a ↔ v = .valid a := by
  cases v <;> simp [toExcept]

end Validated

namespace Config

open Lexical

/-- The name of a package opens and closes nothing. -/
theorem isPlain_of_isPackageName {package : String} (h : isPackageName package) :
    IsPlain package := by
  rw [isPackageName, List.all_eq_true] at h
  intro c hc
  by_cases hpoint : c = '.'
  · rw [hpoint]
    decide
  · obtain ⟨piece, hpiece, hmem⟩ := Text.mem_pieces (p := (· == '.')) hc (by simpa using hpoint)
    exact isPlain_of_isIdentifier (h piece hpiece) c (by simpa using hmem)

/-! ## Versions -/

/-- The version that is asked for: by a request on top of everything, else by the configuration's
field for it unless that is null, and else by the environment. -/
def requestedVersion (environment request : Option String) (document : Document) :
    ProtocolVersion :=
  match request, document.field? "version" with
  | some name, _ => .select (some name)
  | none, none => .select environment
  | none, some field =>
    match field.datum with
    | .null => .select environment
    | _ => .select (some field.display)

variable {environment : Option String} {document : Document} {config : Config}

theorem requestedVersion_of_ne_null {field : Document}
    (hfield : document.field? "version" = some field) (hnull : field.datum ≠ .null) :
    requestedVersion environment none document = .select (some field.display) := by
  simp only [requestedVersion, hfield]

/-- A document without faults is a record, and so are its fields. -/
theorem version_of_ofDocument (h : ofDocument environment document = .valid config) :
    optionalField document "version" (.select environment) (versionOf environment) =
      .valid config.version := by
  obtain ⟨record, hrecord, h⟩ := Validated.check_eq_valid_iff.1 h
  obtain rfl : document = record := by
    rw [Document.asRecord] at hrecord
    split at hrecord
    · exact Validated.valid.inj hrecord
    · cases hrecord
  obtain ⟨ofOptions, options, h₁, -, rfl⟩ := Validated.apply_eq_valid_iff.1 h
  obtain ⟨ofDomains, domains, h₂, -, rfl⟩ := Validated.apply_eq_valid_iff.1 h₁
  obtain ⟨ofVersion, version, h₃, hversion, rfl⟩ := Validated.apply_eq_valid_iff.1 h₂
  obtain ⟨ofPackage, package, h₄, -, rfl⟩ := Validated.apply_eq_valid_iff.1 h₃
  obtain ⟨ofOutput, output, h₅, -, rfl⟩ := Validated.apply_eq_valid_iff.1 h₄
  obtain ⟨protocolDir, -, rfl⟩ := Validated.map_eq_valid_iff.1 h₅
  exact hversion

/-- A configuration without faults, with the request on top of it, has the version that is asked
for. -/
theorem version_withVersion (h : validate environment document = .ok config) (base : Path)
    (request : Option String) :
    ((config.within base).withVersion request).version =
      requestedVersion environment request document := by
  have hfield := version_of_ofDocument (Validated.toExcept_eq_ok_iff.1 h)
  rw [optionalField] at hfield
  cases request with
  | some name => rfl
  | none =>
    change config.version = _
    cases hversion : document.field? "version" with
    | none =>
      rw [hversion] at hfield
      simp only [requestedVersion, hversion]
      exact (Validated.valid.inj hfield).symm
    | some field =>
      rw [hversion] at hfield
      have hvalid := Validated.under_eq_valid_iff.1 hfield
      by_cases hnull : field.datum = .null
      · rw [versionOf, hnull] at hvalid
        simp only [requestedVersion, hversion, hnull]
        exact (Validated.valid.inj hvalid).symm
      · rw [requestedVersion_of_ne_null hversion hnull]
        rw [versionOf] at hvalid
        split at hvalid
        · rename_i hdatum
          exact absurd hdatum hnull
        · split at hvalid
          · exact (Validated.valid.inj hvalid).symm
          · cases hvalid

end Config

end ProtocolBindings
