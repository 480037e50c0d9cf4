import ProtocolBindings.Proofs.Files.Remaking
import ProtocolBindings.Proofs.Generation.Reach
import ProtocolBindings.Proofs.Source.Rejected

/-!
# Runs that are refused

A run of the writer makes its directory before it generates the package.  If the package cannot be
generated, the run ends there: it has changed no file, but the directories that it has made are
left.  So it leaves no trace exactly if its directory was there.
-/

namespace ProtocolBindings.Generation

open FileTree

variable {t t' : FileTree} {output : Path} {package : String} {schema : Schema}
  {options : Options} {transcript transcript' : Transcript} {e : GenerationError}

theorem ofSchema_eq_error_iff : ofSchema package schema output options = .error e ↔
    Package.files package schema = .error e := by
  rw [ofSchema, Results.bind_eq_error_iff]
  constructor
  · rintro (herror | ⟨files, -, hok⟩)
    · exact herror
    · cases hok
  · exact Or.inl

/-- What a run of the writer gives and leaves whose package cannot be generated. -/
theorem runOn_write_of_files_eq_error [Host] (h : Package.files package schema = .error e) :
    Program.runOn (write package schema output options) transcript t =
      match (Files.makeDirectories output :
        ExceptT FileError (StateM FileTree) Unit).run.run t with
      | (.ok _, t') => ((.error (.generation e), transcript), t')
      | (.error e, t') => ((.error (.file e), transcript), t') := by
  have hschema : ofSchema package schema output options = .error e := ofSchema_eq_error_iff.2 h
  rw [write, Program.runOn_bind, Program.runOn_files]
  rcases (Files.makeDirectories output :
    ExceptT FileError (StateM FileTree) Unit).run.run t with ⟨error | _, t'⟩
  · rfl
  · simp only
    rw [Program.runOn_bind, Program.runOn_ofExcept, hschema]
    rfl

/-- The tree is at every place as it was. -/
structure LeavesNoTrace (t t' : FileTree) : Prop where
  current_eq : t'.current = t.current
  get?_eq : ∀ place, t'.get? place = t.get? place

/-- A run of the writer that ends in an error of the generation has added no more than directories
on the way of its path, and it leaves no trace exactly if the path has led to a directory before. -/
theorem leavesNoTrace_iff [Host]
    (h : Program.runOn (write package schema output options) transcript t =
      ((.error (.generation e), transcript'), t')) :
    t.AddsDirectories output t' ∧
      (LeavesNoTrace t t' ↔ t.HasDirectory output (t.destination output)) := by
  obtain ⟨hmake, -⟩ := of_write_eq_generation_error h
  have hadds := addsDirectories_withDirectories t output
  have hmade := hasDirectory_withDirectories hmake
  rw [withDirectories_eq hmake] at hadds hmade
  refine ⟨hadds, ?_⟩
  constructor
  · intro hsame
    have hplace : t.placeOf output = .ok (t.destination output) := by
      refine placeOf_mono hsame.current_eq.symm ?_ hmade.placeOf_eq
      intro place hdirectory
      rw [← hsame.get?_eq, hdirectory]
    exact ⟨hplace, (hsame.get?_eq _).symm.trans hmade.get?_eq⟩
  · intro hdir
    have hdone : Files.madeAll output.steps.length output t = (.ok (), t) :=
      Files.madeAll_of_hasDirectory hdir
    rw [Files.makeDirectories, ← Files.madeAll, hdone] at hmake
    obtain rfl := (Prod.mk.inj hmake).2
    exact ⟨rfl, fun _ => rfl⟩

/-- A schema with a domain whose name is no identifier. -/
def digitSchema : Schema := { version := "tot", domains := [{ name := "1x" }] }

theorem files_digitSchema (package : String) :
    Package.files package digitSchema =
      .error (.malformedAt "1x" (.badDomainName "1x")) := by
  rfl

/-- Where the directory is there, the run leaves the tree as it was. -/
theorem leavesNoTrace_iff_recorded : ∃ t',
    Program.runOn (write "rpc" digitSchema (.ofText "out") {}) {} (recordingTree "Old.py") =
        ((.error (.generation (.malformedAt "1x" (.badDomainName "1x"))), {}), t') ∧
      LeavesNoTrace (recordingTree "Old.py") t' := by
  have hdir : (recordingTree "Old.py").HasDirectory (.ofText "out") ["out"] :=
    hasDirectory_recordingTree "Old.py"
  have hrun : Program.runOn (write "rpc" digitSchema (.ofText "out") {}) {}
      (recordingTree "Old.py") =
      ((.error (.generation (.malformedAt "1x" (.badDomainName "1x"))), {}),
        recordingTree "Old.py") :=
    runOn_write_of_files_eq_error (files_digitSchema "rpc")
  exact ⟨recordingTree "Old.py", hrun, (leavesNoTrace_iff hrun).2.2 hdir⟩

/-- Where there is no directory, the run leaves one behind. -/
theorem not_leavesNoTrace_empty : ∃ t',
    Program.runOn (write "rpc" digitSchema (.ofText "out") {}) {} {} =
        ((.error (.generation (.malformedAt "1x" (.badDomainName "1x"))), {}), t') ∧
      t'.get? ["out"] = some .directory ∧ ¬LeavesNoTrace {} t' := by
  refine ⟨{ entries := [(["out"], .directory)] },
    runOn_write_of_files_eq_error (files_digitSchema "rpc"), rfl, ?_⟩
  intro hsame
  have hnone : FileTree.get? { entries := [(["out"], .directory)] } ["out"] = none :=
    hsame.get?_eq ["out"]
  cases hnone

end ProtocolBindings.Generation
