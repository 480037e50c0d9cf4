import ProtocolBindings.Proofs.CommandLine.Escapes
import ProtocolBindings.Proofs.Generation.Agreement
import ProtocolBindings.Proofs.Generation.Unlabelled
import ProtocolBindings.Proofs.Simulation

/-!
# Failures of runs that are not reported

A run ends with a failure that it does not report if one of its stages does: its preparation, the
making of its directory, the record of its schema or one of its changes, or the report itself.
-/

namespace ProtocolBindings

open Program OnTree
open Results (FailsWith failsWith_bind_iff failsWith_mapError_iff failsWith_error_iff
  not_failsWith_ok)

/-! ## Changes -/

namespace Generation

variable {t : FileTree} {change : FileChange} {changes : List FileChange} {package : String}
  {schema : Schema} {output : Path} {options : Options}

/-- A change fails for a reason that is not reported exactly if its path holds a null character. -/
theorem apply_isUnlabelled_iff :
    FailsWith (fun e : FileError => e.problem.IsUnlabelled)
        ((apply change : ExceptT FileError (StateM FileTree) Unit).run.run t).1 ↔
      change.path.hasNullCharacter = true := by
  cases change with
  | write p text =>
    rw [apply, Files.run_writeText, FileChange.path]
    cases hwrite : t.writeBytes p text.toUTF8 with
    | error e =>
      rw [failsWith_error_iff]
      exact FileTree.isUnlabelled_iff_of_writeBytes hwrite
    | ok t' =>
      refine iff_of_false not_failsWith_ok fun hnull => ?_
      obtain ⟨place, hplace, -⟩ := FileTree.writeBytes_eq_ok_iff.1 hwrite
      rw [FileTree.placeOf_of_hasNullCharacter hnull] at hplace
      cases hplace
  | remove p =>
    rw [apply, Files.removeIfPresent, run_bind, Files.run_remove_lift, FileChange.path]
    cases hremove : t.remove p with
    | error e =>
      have hnull := FileTree.isUnlabelled_iff_of_remove hremove
      simp only [beq_iff_eq]
      split
      · rename_i hproblem
        refine iff_of_false not_failsWith_ok fun hp => ?_
        rw [hproblem] at hnull
        exact hnull.2 hp
      · exact failsWith_error_iff.trans hnull
    | ok t' =>
      refine iff_of_false not_failsWith_ok fun hnull => ?_
      obtain ⟨place, content, hplace, -⟩ := FileTree.remove_eq_ok_iff.1 hremove
      rw [FileTree.placeOf_of_hasNullCharacter hnull] at hplace
      cases hplace

theorem run_applyAll_cons (change : FileChange) (rest : List FileChange) (t : FileTree) :
    ((applyAll (change :: rest) : ExceptT FileError (StateM FileTree) Unit).run.run t).1 =
      ((apply change : ExceptT FileError (StateM FileTree) Unit).run.run t).1 >>= fun _ =>
        ((applyAll rest : ExceptT FileError (StateM FileTree) Unit).run.run
          ((apply change : ExceptT FileError (StateM FileTree) Unit).run.run t).2).1 := by
  rw [applyAll, run_bind]
  rcases (apply change : ExceptT FileError (StateM FileTree) Unit).run.run t with ⟨e | _, t'⟩
  · rfl
  · rfl

/-- Changes fail for a reason that is not reported exactly if there is a null character in the path
of one before which all others succeed. -/
theorem applyAll_isUnlabelled_iff :
    FailsWith (fun e : FileError => e.problem.IsUnlabelled)
        ((applyAll changes : ExceptT FileError (StateM FileTree) Unit).run.run t).1 ↔
      ∃ before change after, changes = before ++ change :: after ∧
        ((applyAll before : ExceptT FileError (StateM FileTree) Unit).run.run t).1 = .ok () ∧
          change.path.hasNullCharacter = true := by
  induction changes generalizing t with
  | nil =>
    refine iff_of_false not_failsWith_ok ?_
    rintro ⟨before, change, after, hchanges, -⟩
    cases before <;> cases hchanges
  | cons first rest ih =>
    rw [run_applyAll_cons, failsWith_bind_iff, apply_isUnlabelled_iff]
    constructor
    · rintro (hnull | ⟨_, hfirst, hrest⟩)
      · exact ⟨[], first, rest, rfl, rfl, hnull⟩
      · obtain ⟨before, change, after, rfl, hbefore, hnull⟩ := ih.1 hrest
        refine ⟨first :: before, change, after, rfl, ?_, hnull⟩
        rw [run_applyAll_cons, hfirst]
        exact hbefore
    · rintro ⟨before, change, after, hchanges, hbefore, hnull⟩
      cases before with
      | nil =>
        obtain ⟨rfl, -⟩ := List.cons.inj hchanges
        exact Or.inl hnull
      | cons other before =>
        obtain ⟨rfl, rfl⟩ := List.cons.inj hchanges
        rw [run_applyAll_cons] at hbefore
        obtain ⟨_, hfirst, hbefore⟩ := Results.bind_eq_ok_iff.1 hbefore
        exact Or.inr ⟨(), hfirst, ih.2 ⟨before, change, after, rfl, hbefore, hnull⟩⟩

/-! ## The writer -/

theorem isReading_requireRecord (schema : Schema) :
    IsReading (requireRecord schema : Program (StateM FileTree) Unit) ∧ ∀ t,
      outcome (requireRecord schema) t =
        if schema.isRecordable then .ok () else .error .unrecordable := by
  apply isReading_of_eq
  intro transcript t
  exact ⟨transcript, runOn_requireRecord schema transcript t⟩

variable [Host]

theorem isReading_findPrevious (output : Path) (options : Options) :
    IsReading (findPrevious output options : Program (StateM FileTree) (Option Manifest)) := by
  rw [findPrevious]
  split
  · exact Config.isReading_readManifest _
  · exact isReading_pure _

/-- There is a file at a path whose text is nested too deep to be read as a manifest. -/
def HasDeepManifest (t : FileTree) (p : Path) : Prop :=
  ((readManifest p : ExceptT FileError (StateM FileTree) _).run.run t).1 =
    .error ⟨.beyond .depth, p.text⟩

/-- Reading a manifest fails for a reason that is not reported exactly if it is nested too deep. -/
theorem failsWith_readManifest_iff {p : Path} :
    FailsWith Failure.IsUnlabelled (((readManifest p :
        ExceptT FileError (StateM FileTree) _).run.run t).1.mapError .file) ↔
      HasDeepManifest t p := by
  rw [failsWith_mapError_iff]
  constructor
  · rintro ⟨e, he, hlabel⟩
    rw [Failure.isUnlabelled_file_iff] at hlabel
    rw [HasDeepManifest]
    rw [run_readManifest] at he ⊢
    rcases hkind : t.kindAt? p with e' | _ | kind
    · rw [hkind] at he
      obtain rfl := Except.error.inj he
      cases FileTree.not_isUnlabelled_of_kindAt? hkind hlabel
    · rw [hkind] at he
      cases he
    · rw [hkind] at he
      rcases Results.bind_eq_error_iff.1 he with hread | ⟨content, hread, hlimit⟩
      · rw [FileTree.kindAt?_eq_some_iff, FileTree.kindOf_eq_ok_iff] at hkind
        obtain ⟨place, hplace, -⟩ := hkind
        rw [FileTree.placeOf_of_hasNullCharacter
          ((FileTree.isUnlabelled_iff_of_readBytes hread).1 hlabel)] at hplace
        cases hplace
      · obtain ⟨limit, hmanifest, rfl⟩ := Results.mapError_eq_error_iff.1 hlimit
        cases limit with
        | depth => exact he
        | digits => cases Manifest.ofBytes?_ne_digits content hmanifest
        | pairs => cases hlabel
  · intro h
    exact ⟨_, h, Failure.isUnlabelled_file_iff.2 trivial⟩

theorem failsWith_findPrevious_iff :
    FailsWith Failure.IsUnlabelled
        (outcome (findPrevious output options : Program (StateM FileTree) (Option Manifest)) t) ↔
      options.clean = true ∧ HasDeepManifest t (manifestPath output) := by
  rw [findPrevious]
  split
  · rename_i hclean
    rw [outcome_files (Config.tree_readManifest _), failsWith_readManifest_iff]
    exact (and_iff_right hclean).symm
  · rename_i hclean
    exact iff_of_false not_failsWith_ok fun h => hclean h.1

theorem unmoved_writeInto (package : String) (schema : Schema) (output : Path)
    (options : Options) :
    IsUnmoved (writeInto package schema output options : Program (StateM FileTree) (List Path)) ∧
      ∀ t, result (writeInto package schema output options) t =
        (ofSchema package schema output options).mapError .generation >>= fun g =>
          (if schema.isRecordable then .ok () else .error .unrecordable) >>= fun _ =>
            outcome (findPrevious output options) t >>= fun previous =>
              ((applyAll (g.changes previous) :
                ExceptT FileError (StateM FileTree) Unit).run.run t).1.mapError .file >>= fun _ =>
                  .ok (g.writtenFiles.map (·.1)) := by
  have hschema := unmoved_of_isReading (isReading_ofExcept Failure.generation
    (ofSchema package schema output options))
  have hrecord := unmoved_of_isReading (isReading_requireRecord schema).1
  have hprevious := unmoved_of_isReading (isReading_findPrevious output options)
  have hfiles (g : Generation) (previous : Option Manifest) :=
    unmoved_files (applyAll (g.changes previous) : ExceptT FileError (StateM FileTree) Unit)
  have hchanges (g : Generation) (previous : Option Manifest) :
      IsUnmoved (Program.files (applyAll (g.changes previous)) >>= fun _ =>
        pure (g.writtenFiles.map (·.1)) : Program (StateM FileTree) (List Path)) :=
    (hfiles g previous).1.bind fun _ => isUnmoved_pure _
  have hafter (g : Generation) := hprevious.1.bind (hchanges g)
  have hgenerated (g : Generation) := hrecord.1.bind fun _ => hafter g
  refine ⟨hschema.1.bind hgenerated, fun t => ?_⟩
  rw [writeInto, result_bind hschema.1 hgenerated, (hschema.2 t).1, (hschema.2 t).2,
    outcome_ofExcept]
  refine bind_congr fun g => ?_
  rw [result_bind hrecord.1 fun _ => hafter g, (hrecord.2 t).1, (hrecord.2 t).2,
    (isReading_requireRecord schema).2]
  refine bind_congr fun _ => ?_
  rw [result_bind hprevious.1 (hchanges g), (hprevious.2 t).1, (hprevious.2 t).2]
  refine bind_congr fun previous => ?_
  rw [result_bind (hfiles g previous).1 fun _ => isUnmoved_pure _, ((hfiles g previous).2 t).1]
  rfl

theorem unmoved_write (package : String) (schema : Schema) (output : Path) (options : Options) :
    IsUnmoved (write package schema output options : Program (StateM FileTree) (List Path)) ∧
      ∀ t, result (write package schema output options) t =
        ((Files.makeDirectories output :
          ExceptT FileError (StateM FileTree) Unit).run.run t).1.mapError .file >>= fun _ =>
            result (writeInto package schema output options) (t.withDirectories output) := by
  have hmake := unmoved_files (Files.makeDirectories output :
    ExceptT FileError (StateM FileTree) Unit)
  have hinto := (unmoved_writeInto package schema output options).1
  rw [write_eq_bind]
  refine ⟨hmake.1.bind fun _ => hinto, fun t => ?_⟩
  rw [result_bind hmake.1 fun _ => hinto, (hmake.2 t).1, (hmake.2 t).2]
  rfl

/-- Why the writer ends with a failure that has no label. -/
inductive WriteEscape (package : String) (schema : Schema) (output : Path) (options : Options)
    (t : FileTree) : Prop where
  /-- The path of the directory holds a null character. -/
  | place (h : output.hasNullCharacter = true)
  /-- The schema is nested too deep to be recorded. -/
  | record {g : Generation}
      (hmade : ((Files.makeDirectories output :
        ExceptT FileError (StateM FileTree) Unit).run.run t).1 = .ok ())
      (hg : ofSchema package schema output options = .ok g)
      (h : schema.isRecordable = false)
  /-- The manifest by which old files are found is nested too deep. -/
  | manifest {g : Generation}
      (hmade : ((Files.makeDirectories output :
        ExceptT FileError (StateM FileTree) Unit).run.run t).1 = .ok ())
      (hg : ofSchema package schema output options = .ok g)
      (hclean : options.clean = true)
      (h : HasDeepManifest (t.withDirectories output) (manifestPath output))
  /-- A change is to be made at a path with a null character. -/
  | change {g : Generation} {previous : Option Manifest} {before after : List FileChange}
      {change : FileChange}
      (hmade : ((Files.makeDirectories output :
        ExceptT FileError (StateM FileTree) Unit).run.run t).1 = .ok ())
      (hg : ofSchema package schema output options = .ok g)
      (hprevious : outcome (findPrevious output options) (t.withDirectories output) = .ok previous)
      (hchanges : g.changes previous = before ++ change :: after)
      (hbefore : ((applyAll before : ExceptT FileError (StateM FileTree) Unit).run.run
        (t.withDirectories output)).1 = .ok ())
      (h : change.path.hasNullCharacter = true)

theorem failsWith_writeInto_iff {dir : FileTree} :
    FailsWith Failure.IsUnlabelled (result (writeInto package schema output options) dir) ↔
      ∃ g, ofSchema package schema output options = .ok g ∧ (schema.isRecordable = false ∨
        options.clean = true ∧ HasDeepManifest dir (manifestPath output) ∨
        ∃ previous before change after,
          outcome (findPrevious output options) dir = .ok previous ∧
            g.changes previous = before ++ change :: after ∧
              ((applyAll before :
                ExceptT FileError (StateM FileTree) Unit).run.run dir).1 = .ok () ∧
                  change.path.hasNullCharacter = true) := by
  have hgeneration : ¬FailsWith Failure.IsUnlabelled
      ((ofSchema package schema output options).mapError .generation) := by
    rw [failsWith_mapError_iff]
    rintro ⟨e, -, hlabel⟩
    exact Failure.not_isUnlabelled_generation e hlabel
  simp only [(unmoved_writeInto package schema output options).2, failsWith_bind_iff, hgeneration,
    false_or, Results.mapError_eq_ok_iff, failsWith_findPrevious_iff, failsWith_mapError_iff,
    Failure.isUnlabelled_file_iff, applyAll_isUnlabelled_iff, not_failsWith_ok, and_false,
    exists_false, or_false]
  refine exists_congr fun g => and_congr_right fun _ => ?_
  cases schema.isRecordable with
  | true =>
    simp only [if_true, not_failsWith_ok, false_or, Bool.true_eq_false]
    constructor
    · rintro ⟨_, -, hdeep | ⟨previous, hprevious, before, change, after, hchange⟩⟩
      · exact Or.inl hdeep
      · exact Or.inr ⟨previous, before, change, after, hprevious, hchange⟩
    · rintro (hdeep | ⟨previous, before, change, after, hprevious, hchange⟩)
      · exact ⟨(), trivial, Or.inl hdeep⟩
      · exact ⟨(), trivial, Or.inr ⟨previous, hprevious, before, change, after, hchange⟩⟩
  | false => exact iff_of_true (Or.inl ⟨_, rfl, rfl, id⟩) (Or.inl rfl)

theorem failsWith_write_iff {t : FileTree} :
    FailsWith Failure.IsUnlabelled (result (write package schema output options) t) ↔
      WriteEscape package schema output options t := by
  simp only [(unmoved_write package schema output options).2, failsWith_bind_iff,
    failsWith_mapError_iff, Failure.isUnlabelled_file_iff, Files.makeDirectories_isUnlabelled_iff,
    Results.mapError_eq_ok_iff, failsWith_writeInto_iff]
  constructor
  · rintro (hnull | ⟨_, hmade, g, hg, hrecord | ⟨hclean, hdeep⟩ |
      ⟨previous, before, change, after, hprevious, hchanges, hbefore, hnull⟩⟩)
    · exact .place hnull
    · exact .record hmade hg hrecord
    · exact .manifest hmade hg hclean hdeep
    · exact .change hmade hg hprevious hchanges hbefore hnull
  · rintro (hnull | ⟨hmade, hg, hrecord⟩ | ⟨hmade, hg, hclean, hdeep⟩ |
      ⟨hmade, hg, hprevious, hchanges, hbefore, hnull⟩)
    · exact Or.inl hnull
    · exact Or.inr ⟨(), hmade, _, hg, Or.inl hrecord⟩
    · exact Or.inr ⟨(), hmade, _, hg, Or.inr (Or.inl ⟨hclean, hdeep⟩)⟩
    · exact Or.inr ⟨(), hmade, _, hg,
        Or.inr (Or.inr ⟨_, _, _, _, hprevious, hchanges, hbefore, hnull⟩)⟩

end Generation

/-! ## Runs -/

namespace Config

open Generation CommandLine

variable [Host] {config : Config} {dryRun verbose : Bool} {t : FileTree} {schema : Schema}
  {g : Generation}

/-- Why the preparation of a run ends with a failure that has no label. -/
inductive PreparationEscape (config : Config) (verbose : Bool) (t : FileTree) : Prop where
  /-- The opening lines cannot be shown. -/
  | opening (h : ¬CanShow config.headLines)
  | protocol (h : config.ProtocolEscape t)
  /-- The lines about the domains cannot be shown. -/
  | domains {schema : Schema} (hschema : outcome (config.loadSchema true) t = .ok schema)
      (h : ¬CanShow (schemaLines verbose schema))
  /-- The previous manifest is nested too deep. -/
  | manifest {schema : Schema} {g : Generation}
      (hschema : outcome (config.loadSchema true) t = .ok schema)
      (hg : ofSchema config.package schema config.outputPath config.options = .ok g)
      (h : HasDeepManifest t (manifestPath config.outputPath))
  /-- There is a previous manifest, and the schema is nested too deep to be recorded. -/
  | previous {schema : Schema} {g : Generation} {m : Manifest}
      (hschema : outcome (config.loadSchema true) t = .ok schema)
      (hg : ofSchema config.package schema config.outputPath config.options = .ok g)
      (hprevious : ((readManifest (manifestPath config.outputPath) :
        ExceptT FileError (StateM FileTree) _).run.run t).1 = .ok (some m))
      (h : schema.isRecordable = false)

/-- Why a run ends with a failure that is not reported. -/
inductive RunEscape (debug : Bool) (config : Config) (dryRun verbose : Bool) (t : FileTree) :
    Prop where
  | preparation (h : config.PreparationEscape verbose t)
  | writer {schema : Schema} {g : Generation} {previous : Option Manifest} (hdry : dryRun = false)
      (hprepared : outcome (config.prepare verbose) t = .ok (schema, g, previous))
      (h : WriteEscape config.package schema config.outputPath config.options t)
  /-- The lines on the failure cannot be shown. -/
  | report {failure : Failure} {label : String}
      (hfailure : config.result dryRun verbose t = .error failure)
      (hlabel : runLabel? failure = some label) (h : ¬CanShow (reportLines debug label failure))

/-- Why a validation ends with a failure that is not reported. -/
inductive CheckEscape (debug : Bool) (config : Config) (t : FileTree) : Prop where
  | protocol (h : config.ProtocolEscape t)
  /-- The lines on the failure cannot be shown. -/
  | report {failure : Failure} {label : String}
      (hfailure : outcome (checkProtocol config) t = .error failure)
      (hlabel : runLabel? failure = some label) (h : ¬CanShow (reportLines debug label failure))

theorem failsWith_withPrevious_iff :
    FailsWith Failure.IsUnlabelled (outcome (config.withPrevious schema g :
        Program (StateM FileTree) (Schema × Generation × Option Manifest)) t) ↔
      HasDeepManifest t (manifestPath config.outputPath) ∨
        ∃ m, ((readManifest (manifestPath config.outputPath) :
          ExceptT FileError (StateM FileTree) _).run.run t).1 = .ok (some m) ∧
            schema.isRecordable = false := by
  simp only [outcome_withPrevious, failsWith_bind_iff, failsWith_readManifest_iff,
    Results.mapError_eq_ok_iff]
  refine or_congr_right ?_
  constructor
  · rintro ⟨previous, hprevious, hrecord⟩
    split at hrecord
    · rename_i hdeep
      rw [Bool.and_eq_true, Bool.not_eq_true'] at hdeep
      obtain ⟨m, rfl⟩ := Option.isSome_iff_exists.1 hdeep.1
      exact ⟨m, hprevious, hdeep.2⟩
    · exact absurd hrecord not_failsWith_ok
  · rintro ⟨m, hprevious, hrecord⟩
    exact ⟨some m, hprevious, by rw [hrecord]; exact ⟨_, rfl, rfl, id⟩⟩

theorem failsWith_inspect_iff :
    FailsWith Failure.IsUnlabelled (outcome (config.inspect schema :
        Program (StateM FileTree) (Schema × Generation × Option Manifest)) t) ↔
      ∃ g, ofSchema config.package schema config.outputPath config.options = .ok g ∧
        (HasDeepManifest t (manifestPath config.outputPath) ∨
          ∃ m, ((readManifest (manifestPath config.outputPath) :
            ExceptT FileError (StateM FileTree) _).run.run t).1 = .ok (some m) ∧
              schema.isRecordable = false) := by
  have hgeneration : ¬FailsWith Failure.IsUnlabelled
      ((ofSchema config.package schema config.outputPath config.options).mapError
        .generation) := by
    rw [failsWith_mapError_iff]
    rintro ⟨e, -, hlabel⟩
    exact Failure.not_isUnlabelled_generation e hlabel
  rw [inspect, outcome_bind (isReading_ofExcept _ _) (isReading_withPrevious config schema),
    outcome_ofExcept, failsWith_bind_iff]
  simp only [hgeneration, false_or, Results.mapError_eq_ok_iff, failsWith_withPrevious_iff]

theorem failsWith_prepare_iff :
    FailsWith Failure.IsUnlabelled (outcome (config.prepare verbose :
        Program (StateM FileTree) (Schema × Generation × Option Manifest)) t) ↔
      config.PreparationEscape verbose t := by
  simp only [outcome_prepare, failsWith_bind_iff, failsWith_printAll_iff, failsWith_loadSchema_iff,
    failsWith_inspect_iff]
  constructor
  · rintro (hopening | ⟨_, -, hprotocol | ⟨schema, hschema, hdomains |
      ⟨_, -, g, hg, hdeep | ⟨m, hprevious, hrecord⟩⟩⟩⟩)
    · exact .opening hopening
    · exact .protocol hprotocol
    · exact .domains hschema hdomains
    · exact .manifest hschema hg hdeep
    · exact .previous hschema hg hprevious hrecord
  · intro h
    by_cases hopening : CanShow config.headLines
    · refine Or.inr ⟨(), outcome_printAll_of_canShow hopening t, ?_⟩
      have hshown {schema : Schema} {reason : Prop} (h : reason) :
          ¬CanShow (schemaLines verbose schema) ∨
            ∃ a, outcome (printAll (schemaLines verbose schema) :
              Program (StateM FileTree) Unit) t = .ok a ∧ reason := by
        by_cases hdomains : CanShow (schemaLines verbose schema)
        · exact Or.inr ⟨(), outcome_printAll_of_canShow hdomains t, h⟩
        · exact Or.inl hdomains
      rcases h with hnot | hprotocol | ⟨hschema, hdomains⟩ | ⟨hschema, hg, hdeep⟩ |
        ⟨hschema, hg, hprevious, hrecord⟩
      · exact absurd hopening hnot
      · exact Or.inl hprotocol
      · exact Or.inr ⟨_, hschema, Or.inl hdomains⟩
      · exact Or.inr ⟨_, hschema, hshown ⟨_, hg, Or.inl hdeep⟩⟩
      · exact Or.inr ⟨_, hschema, hshown ⟨_, hg, Or.inr ⟨_, hprevious, hrecord⟩⟩⟩
    · exact Or.inl hopening

theorem unmoved_generate (config : Config) (dryRun verbose : Bool) :
    IsUnmoved (config.generate dryRun verbose : Program (StateM FileTree) RunReport) := by
  have hprepare := unmoved_of_isReading (isReading_prepare config verbose)
  rw [generate_eq]
  refine hprepare.1.bind fun prepared => ?_
  cases dryRun with
  | true => exact isUnmoved_pure _
  | false => exact (unmoved_write _ _ _ _).1.bind fun _ => isUnmoved_pure _

theorem result_generate (config : Config) (dryRun verbose : Bool) (t : FileTree) :
    OnTree.result (config.generate dryRun verbose) t = config.result dryRun verbose t := by
  rw [OnTree.result, Config.result, runOn]

theorem result_real (config : Config) (verbose : Bool) (t : FileTree) :
    config.result false verbose t =
      outcome (config.prepare verbose) t >>= fun prepared =>
        OnTree.result (Generation.write config.package prepared.1 config.outputPath config.options)
          t >>= fun paths => .ok (reportOf prepared paths) := by
  have hprepare := unmoved_of_isReading (isReading_prepare config verbose)
  have hwrite (prepared : Schema × Generation × Option Manifest) :=
    (unmoved_write config.package prepared.1 config.outputPath config.options).1
  have hreport (prepared : Schema × Generation × Option Manifest) :
      (config.report false prepared : Program (StateM FileTree) RunReport) =
        Generation.write config.package prepared.1 config.outputPath config.options >>= fun paths =>
          pure (reportOf prepared paths) := rfl
  rw [← result_generate, generate_eq, result_bind hprepare.1 fun prepared => ?_, (hprepare.2 t).1,
    (hprepare.2 t).2]
  · refine bind_congr fun prepared => ?_
    rw [hreport, result_bind (hwrite prepared) fun _ => isUnmoved_pure _]
    rfl
  · rw [hreport]
    exact (hwrite prepared).bind fun _ => isUnmoved_pure _

/-- A run ends with a failure that has no label for one of the reasons in its stages. -/
theorem failsWith_result_iff :
    FailsWith Failure.IsUnlabelled (config.result dryRun verbose t) ↔
      config.PreparationEscape verbose t ∨ dryRun = false ∧ ∃ schema g previous,
        outcome (config.prepare verbose) t = .ok (schema, g, previous) ∧
          WriteEscape config.package schema config.outputPath config.options t := by
  cases dryRun with
  | true =>
    simp only [result_dry, failsWith_bind_iff, failsWith_prepare_iff, not_failsWith_ok, and_false,
      exists_false, or_false, Bool.true_eq_false, false_and]
  | false =>
    simp only [result_real, failsWith_bind_iff, failsWith_prepare_iff, failsWith_write_iff,
      not_failsWith_ok, and_false, exists_false, or_false, true_and, Prod.exists]

theorem runEscape_iff {debug : Bool} :
    FailsWith (IsUnreported debug runLabel?) (config.result dryRun verbose t) ↔
      RunEscape debug config dryRun verbose t := by
  rw [failsWith_isUnreported_iff leavesHalfPairs_runLabel?]
  refine Iff.trans (or_congr_left failsWith_result_iff) ?_
  constructor
  · rintro ((hpreparation | ⟨hdry, schema, g, previous, hprepared, hwrite⟩) |
      ⟨failure, label, hfailure, hlabel, hshow⟩)
    · exact .preparation hpreparation
    · exact .writer hdry hprepared hwrite
    · exact .report hfailure hlabel hshow
  · rintro (hpreparation | ⟨hdry, hprepared, hwrite⟩ | ⟨hfailure, hlabel, hshow⟩)
    · exact Or.inl (Or.inl hpreparation)
    · exact Or.inl (Or.inr ⟨hdry, _, _, _, hprepared, hwrite⟩)
    · exact Or.inr ⟨_, _, hfailure, hlabel, hshow⟩

/-! ## Validations -/

theorem failsWith_checkProtocol_iff :
    FailsWith Failure.IsUnlabelled (outcome (checkProtocol config) t) ↔
      config.ProtocolEscape t := by
  rw [checkProtocol_eq, outcome_bind (isReading_loadSchema config true)
    (isReading_showAndGenerate config), failsWith_bind_iff, failsWith_loadSchema_iff]
  refine or_iff_left ?_
  rintro ⟨schema, hschema, hmodules⟩
  obtain ⟨version, hversion⟩ := exists_version_of_loadSchema hschema
  obtain ⟨text, htext⟩ := exists_render_validLine hversion
  have hshown : outcome (Program.print (validLine schema) : Program (StateM FileTree) Unit) t =
      .ok () := by
    rw [outcome_print, htext]
    rfl
  rw [showAndGenerate, outcome_bind (isReading_print _)
    fun _ => isReading_generateModules config schema, hshown] at hmodules
  change FailsWith _ (outcome (generateModules config schema) t) at hmodules
  rw [generateModules, outcome_bind (isReading_ofExcept _ _) fun _ => isReading_pure _,
    outcome_ofExcept, failsWith_bind_iff, failsWith_mapError_iff] at hmodules
  rcases hmodules with ⟨e, -, hlabel⟩ | ⟨_, -, hend⟩
  · exact Failure.not_isUnlabelled_generation e hlabel
  · exact not_failsWith_ok hend

theorem checkEscape_iff {debug : Bool} :
    FailsWith (IsUnreported debug runLabel?) (outcome (checkProtocol config) t) ↔
      CheckEscape debug config t := by
  rw [failsWith_isUnreported_iff leavesHalfPairs_runLabel?]
  refine Iff.trans (or_congr_left failsWith_checkProtocol_iff) ?_
  constructor
  · rintro (hprotocol | ⟨failure, label, hfailure, hlabel, hshow⟩)
    · exact .protocol hprotocol
    · exact .report hfailure hlabel hshow
  · rintro (hprotocol | ⟨hfailure, hlabel, hshow⟩)
    · exact Or.inl hprotocol
    · exact Or.inr ⟨_, _, hfailure, hlabel, hshow⟩

end Config

end ProtocolBindings
