import ProtocolBindings.Proofs.CommandLine.Escapes
import ProtocolBindings.Proofs.CommandLine.Stages
import ProtocolBindings.Proofs.Files.NullCharacter

/-!
# Configurations that cannot be read

Reading a configuration ends with a failure that is not reported if its file is there but cannot be
read, if it is not in UTF-8, or if a scalar in it cannot be read.
-/

namespace ProtocolBindings

open Program
open Results (FailsWith failsWith_bind_iff failsWith_mapError_iff not_failsWith_ok)

namespace Config

open CommandLine

variable {environment : Option String} {t : FileTree} {p : Path} {debug : Bool}

/-- A failure to read a configuration that has no label. -/
def IsUnlabelled (failure : Failure) : Prop :=
  configLabel? failure = none ∧ ¬failure.IsHalfPair

theorem failsWith_textOfBytes_iff {bytes : ByteArray} :
    FailsWith IsUnlabelled (textOfBytes bytes) ↔
      ∃ fault, Text.Utf8.decode bytes = .error fault := by
  rw [textOfBytes, failsWith_bind_iff, failsWith_mapError_iff]
  constructor
  · rintro (⟨fault, hfault, -⟩ | ⟨text, -, hend⟩)
    · exact ⟨fault, hfault⟩
    · exact absurd hend not_failsWith_ok
  · rintro ⟨fault, hfault⟩
    exact Or.inl ⟨fault, hfault, rfl, id⟩

theorem failsWith_readBytes_iff :
    FailsWith (fun e : FileError => IsUnlabelled (.file e)) (t.readBytes p) ↔
      ∃ e, t.readBytes p = .error e ∧ e.problem ≠ .notFound := by
  refine exists_congr fun e => and_congr_right fun hread => ?_
  have hlabel : configLabel? (.file e) = none ↔ e.problem ≠ .notFound := by
    simp [configLabel?]
  change configLabel? (.file e) = none ∧ e.problem ≠ .beyond .pairs ↔ _
  rw [hlabel]
  exact and_iff_left (FileTree.problem_ne_beyond_of_readBytes hread .pairs)

variable [Host]

def fileAt (environment : Option String) (t : FileTree) (p : Path) : Except Failure Config :=
  (t.readBytes p).mapError .file >>= fun bytes => textOfBytes bytes >>= ofYaml environment

/-- Why reading a configuration ends with a failure that is not reported.  Half pairs of units are
left out. -/
inductive ReadEscape (debug : Bool) (environment : Option String) (t : FileTree) (p : Path) :
    Prop where
  /-- The file is there, but it cannot be read. -/
  | unreadable {e : FileError} (hread : t.readBytes p = .error e) (h : e.problem ≠ .notFound)
  /-- The file is not in UTF-8. -/
  | encoding {bytes : ByteArray} {fault : Text.Utf8.Fault} (hread : t.readBytes p = .ok bytes)
      (h : Text.Utf8.decode bytes = .error fault)
  /-- A scalar in the file cannot be read, or the file is nested too deep. -/
  | yaml {bytes : ByteArray} {text : String} {failure : Yaml.Failure}
      (hread : t.readBytes p = .ok bytes) (htext : textOfBytes bytes = .ok text)
      (hyaml : Yaml.parse text = .error failure)
      (h : failure = .tooDeep ∨ ∃ reason ≠ .halfPair, failure = .unreadable reason)
  /-- The lines on the failure cannot be shown. -/
  | report {failure : Failure} {label : String} (hfailure : fileAt environment t p = .error failure)
      (hlabel : configLabel? failure = some label) (h : ¬CanShow (reportLines debug label failure))

theorem isReading_written (environment : Option String) (p : Path) :
    IsReading (written environment p : Program (StateM FileTree) Config) ∧
      ∀ t, outcome (written environment p) t = fileAt environment t p := by
  have htext (text : String) : IsReading (Program.ofExcept id (ofYaml environment text) :
      Program (StateM FileTree) Config) :=
    isReading_ofExcept _ _
  have hbytes (bytes : ByteArray) := (isReading_ofExcept id (textOfBytes bytes)).bind htext
  refine ⟨(isReading_files (Files.tree_readBytes p)).bind hbytes, fun t => ?_⟩
  have hid {α : Type} (x : Except Failure α) : x.mapError id = x := by
    cases x <;> rfl
  rw [written, outcome_bind (isReading_files (Files.tree_readBytes p)) hbytes,
    outcome_files (Files.tree_readBytes p), Files.run_readBytes, fileAt]
  refine bind_congr fun bytes => ?_
  rw [outcome_bind (isReading_ofExcept _ _) htext, outcome_ofExcept, hid]
  refine bind_congr fun text => ?_
  rw [outcome_ofExcept, hid]

theorem failsWith_ofYaml_iff {text : String} :
    FailsWith IsUnlabelled (ofYaml environment text) ↔
      ∃ failure, Yaml.parse text = .error failure ∧
        (failure = .tooDeep ∨ ∃ reason ≠ .halfPair, failure = .unreadable reason) := by
  rw [ofYaml, failsWith_bind_iff, failsWith_mapError_iff]
  constructor
  · rintro (⟨failure, hfailure, hlabel, hpair⟩ | ⟨d, -, hvalid⟩)
    · refine ⟨failure, hfailure, ?_⟩
      cases failure with
      | tooDeep => exact Or.inl rfl
      | unreadable reason =>
        refine Or.inr ⟨reason, ?_, rfl⟩
        rintro rfl
        exact hpair trivial
      | forbiddenCharacter c position => cases hlabel
      | invalid fault => cases hlabel
    · rw [failsWith_mapError_iff] at hvalid
      obtain ⟨e, -, hlabel, -⟩ := hvalid
      cases hlabel
  · rintro ⟨failure, hfailure, rfl | ⟨reason, hreason, rfl⟩⟩
    · exact Or.inl ⟨_, hfailure, rfl, id⟩
    · refine Or.inl ⟨_, hfailure, rfl, fun hpair => hreason ?_⟩
      cases reason with
      | halfPair => rfl
      | _ => exact hpair.elim

theorem readEscape_iff :
    FailsWith (IsUnreported debug configLabel?) (fileAt environment t p) ↔
      ReadEscape debug environment t p := by
  rw [failsWith_isUnreported_iff leavesHalfPairs_configLabel?]
  have hunlabelled : FailsWith IsUnlabelled (fileAt environment t p) ↔
      (∃ e, t.readBytes p = .error e ∧ e.problem ≠ .notFound) ∨ ∃ bytes,
        t.readBytes p = .ok bytes ∧ ((∃ fault, Text.Utf8.decode bytes = .error fault) ∨
          ∃ text, textOfBytes bytes = .ok text ∧ ∃ failure, Yaml.parse text = .error failure ∧
            (failure = .tooDeep ∨ ∃ reason ≠ .halfPair, failure = .unreadable reason)) := by
    simp only [fileAt, failsWith_bind_iff, failsWith_mapError_iff, failsWith_readBytes_iff,
      failsWith_textOfBytes_iff, Results.mapError_eq_ok_iff, failsWith_ofYaml_iff]
  refine Iff.trans (or_congr_left hunlabelled) ?_
  constructor
  · rintro ((⟨e, hread, hother⟩ | ⟨bytes, hread, ⟨fault, hfault⟩ |
      ⟨text, htext, failure, hyaml, hkind⟩⟩) | ⟨failure, label, hfailure, hlabel, hshow⟩)
    · exact .unreadable hread hother
    · exact .encoding hread hfault
    · exact .yaml hread htext hyaml hkind
    · exact .report hfailure hlabel hshow
  · rintro (⟨hread, hother⟩ | ⟨hread, hfault⟩ | ⟨hread, htext, hyaml, hkind⟩ |
      ⟨hfailure, hlabel, hshow⟩)
    · exact Or.inl (Or.inl ⟨_, hread, hother⟩)
    · exact Or.inl (Or.inr ⟨_, hread, Or.inl ⟨_, hfault⟩⟩)
    · exact Or.inl (Or.inr ⟨_, hread, Or.inr ⟨_, htext, _, hyaml, hkind⟩⟩)
    · exact Or.inr ⟨_, _, hfailure, hlabel, hshow⟩

end Config

end ProtocolBindings
