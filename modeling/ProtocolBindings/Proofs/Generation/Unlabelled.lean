import ProtocolBindings.Proofs.Files.NullCharacter
import ProtocolBindings.Proofs.Generation.Preparation
import ProtocolBindings.Proofs.Schema.FirstError

/-!
# Failures without a label

A run reports an error of the generation, and any problem with a file but a null character in its
path and contents beyond a limit.  Any other failure has no label.  Loading the schema of a
configuration ends with one if the document of its version is beyond a limit of its reader, if the
first fault in it escapes the construction, or if the missing domains cannot be shown.
-/

namespace ProtocolBindings

open Program
open Results (FailsWith failsWith_bind_iff failsWith_mapError_iff failsWith_error_iff
  not_failsWith_ok)

/-- A failure of a run that has no label, and that is not for half a pair of units. -/
def Failure.IsUnlabelled (failure : Failure) : Prop :=
  CommandLine.runLabel? failure = none ∧ ¬failure.IsHalfPair

theorem Failure.isUnlabelled_file_iff {e : FileError} :
    (Failure.file e).IsUnlabelled ↔ e.problem.IsUnlabelled := by
  rw [IsUnlabelled, CommandLine.runLabel?, IsHalfPair]
  rcases e.problem with _ | _ | _ | _ | _ | _ | ⟨_ | _ | _⟩ | _ <;>
    simp [FileProblem.IsUnlabelled]

theorem Failure.not_isUnlabelled_generation (e : GenerationError) :
    ¬(Failure.generation e).IsUnlabelled := by
  rintro ⟨⟨⟩, -⟩

/-! ## Lines -/

namespace Config

variable [Host] {t : FileTree} {lines : List String}

/-- Showing lines fails only because one of them cannot be shown. -/
theorem failsWith_printAll {kind : Failure → Prop} (hkind : ∀ fault, kind (.markup fault)) :
    FailsWith kind (outcome (printAll lines : Program (StateM FileTree) Unit) t) ↔
      ¬CanShow lines := by
  by_cases hshow : CanShow lines
  · rw [outcome_printAll_of_canShow hshow]
    exact iff_of_false not_failsWith_ok (not_not.2 hshow)
  · obtain ⟨fault, hfault⟩ := outcome_printAll_of_not_canShow hshow t
    rw [hfault, failsWith_error_iff]
    exact iff_of_true (hkind fault) hshow

theorem failsWith_printAll_iff :
    FailsWith Failure.IsUnlabelled
      (outcome (printAll lines : Program (StateM FileTree) Unit) t) ↔ ¬CanShow lines :=
  failsWith_printAll fun _ => ⟨rfl, id⟩

end Config

/-! ## Protocols -/

namespace ProtocolFile

variable [Host] {t : FileTree} {p directory : Path} {version : ProtocolVersion} {bytes : ByteArray}

/-- A schema is built from the bytes of its version's file. -/
theorem outcome_schema (verbose : Bool) (h : t.readBytes (path directory version) = .ok bytes) :
    outcome (schema directory version verbose) t =
      schemaAt (path directory version) version bytes := by
  obtain ⟨shown, hrun⟩ := exists_runOn_schema version verbose {} h
  rw [outcome, hrun]

theorem outcome_read (p : Path) (failure : Failure) (t : FileTree) :
    outcome (read p failure : Program (StateM FileTree) Json) t =
      (t.kindAt? p).mapError .file >>= fun kind =>
        if kind = some .file then (t.readBytes p).mapError .file >>= documentAt p
        else .error failure := by
  have hisFile : ((Files.isFile p : ExceptT FileError (StateM FileTree) Bool).run.run t).1 =
      (t.kindAt? p).map (· == some .file) := by
    rw [Files.isFile, run_bind, FileTree.run_kindOf?]
    cases t.kindAt? p with
    | error e => rfl
    | ok kind => rfl
  have hread (found : Bool) : IsReading (do
      if found then
        let bytes ← Program.files (Files.readBytes p)
        Program.ofExcept (Obstacle.toFailure p) (documentOfBytes bytes)
      else throw failure : Program (StateM FileTree) Json) := by
    split
    · exact (isReading_files (Files.tree_readBytes _)).bind fun _ => isReading_ofExcept _ _
    · exact isReading_throw _
  rw [read, outcome_bind (isReading_files (Files.tree_isFile _)) hread,
    outcome_files (Files.tree_isFile _), hisFile]
  cases t.kindAt? p with
  | error e => rfl
  | ok kind =>
    change outcome (if (kind == some EntryKind.file) = true then _ else _) t =
      if kind = some .file then _ else _
    by_cases hkind : kind = some .file
    · rw [if_pos hkind, if_pos (beq_iff_eq.2 hkind),
        outcome_bind (isReading_files (Files.tree_readBytes _)) fun _ => isReading_ofExcept _ _,
        outcome_files (Files.tree_readBytes _), Files.run_readBytes]
      refine bind_congr fun bytes => ?_
      rw [outcome_ofExcept]
      rfl
    · rw [if_neg hkind, if_neg (beq_iff_eq.not.2 hkind)]
      rfl

/-- Naming the version on the console does not change what is loaded. -/
theorem outcome_load (directory : Path) (version : ProtocolVersion) (verbose : Bool)
    (t : FileTree) :
    outcome (load directory version verbose : Program (StateM FileTree) Json) t =
      outcome (read (path directory version) (notFound directory version)) t := by
  cases verbose with
  | false => rfl
  | true =>
    obtain ⟨text, htext⟩ := render_versionLine version
    obtain ⟨shown, hrun⟩ := isReading_read (path directory version) (notFound directory version)
      { err := "" ++ text } t
    rw [outcome, load_true, runOn_bind, runOn_printError htext]
    exact congrArg (·.1.1) hrun

/-- Where the file of a version cannot be read, it is said that it is missing, or what is wrong
with it. -/
theorem exists_label_of_unread (verbose : Bool)
    (h : ∀ bytes, t.readBytes (path directory version) ≠ .ok bytes) :
    ∃ failure, outcome (schema directory version verbose) t = .error failure ∧
      ¬failure.IsUnlabelled := by
  have hload : ∃ failure, outcome (load directory version verbose :
      Program (StateM FileTree) Json) t = .error failure ∧ ¬failure.IsUnlabelled := by
    rw [outcome_load, outcome_read]
    cases hkind : t.kindAt? (path directory version) with
    | error e =>
      refine ⟨.file e, rfl, ?_⟩
      rw [Failure.isUnlabelled_file_iff]
      exact FileTree.not_isUnlabelled_of_kindAt? hkind
    | ok kind =>
      refine ⟨_, if_neg ?_, Failure.not_isUnlabelled_generation _⟩
      rintro rfl
      obtain ⟨place, hplace, content, hentry⟩ :=
        FileTree.kindOf_eq_ok_iff.1 (FileTree.kindAt?_eq_some_iff.1 hkind)
      exact h content (FileTree.readBytes_eq_ok_iff.2 ⟨place, hplace, hentry⟩)
  obtain ⟨failure, hfailure, hlabel⟩ := hload
  refine ⟨failure, ?_, hlabel⟩
  rw [schema, outcome_bind (isReading_load _ _ _) fun _ => isReading_ofExcept _ _, hfailure]
  rfl

/-- A document without a label is one that is beyond a limit of its reader. -/
theorem failsWith_documentAt_iff :
    FailsWith Failure.IsUnlabelled (documentAt p bytes) ↔
      ∃ limit, limit ≠ .pairs ∧ documentOfBytes bytes = .error (.beyond limit) := by
  rw [documentAt, failsWith_mapError_iff]
  constructor
  · rintro ⟨obstacle, hobstacle, hlabel⟩
    cases obstacle with
    | malformed malformation => exact absurd hlabel (Failure.not_isUnlabelled_generation _)
    | beyond limit =>
      refine ⟨limit, ?_, hobstacle⟩
      rintro rfl
      exact hlabel.2 trivial
  · rintro ⟨limit, hlimit, hbeyond⟩
    refine ⟨_, hbeyond, rfl, fun hpair => hlimit ?_⟩
    cases limit with
    | pairs => rfl
    | depth | digits => exact hpair.elim

/-- The failures of a construction without a label are those that do not lie in the protocol. -/
theorem isUnlabelled_ofBuilding_iff {document : Json} {e : BuildError}
    (h : Schema.ofJson version document = .error e) :
    (Failure.ofBuilding e).IsUnlabelled ↔ ¬e.IsOfProtocol := by
  cases e with
  | generation e =>
    refine iff_of_false (Failure.not_isUnlabelled_generation _) (not_not.2 ?_)
    exact Schema.isOfProtocol_of_ofJson_eq_error version h
  | invalidRecord e => exact iff_of_true ⟨rfl, id⟩ id
  | tooDeep => exact iff_of_true ⟨rfl, id⟩ id

theorem failsWith_schemaAt_iff :
    FailsWith Failure.IsUnlabelled (schemaAt p version bytes) ↔
      (∃ limit, limit ≠ .pairs ∧ documentOfBytes bytes = .error (.beyond limit)) ∨
        ∃ document, documentOfBytes bytes = .ok document ∧ Schema.HasEscape document := by
  rw [schemaAt, failsWith_bind_iff, failsWith_documentAt_iff]
  refine or_congr_right (exists_congr fun document => ?_)
  rw [documentAt, Results.mapError_eq_ok_iff, failsWith_mapError_iff,
    ← Schema.escapes_ofJson_iff version document]
  exact and_congr_right fun _ => exists_congr fun e => and_congr_right isUnlabelled_ofBuilding_iff

end ProtocolFile

namespace Config

/-- The line about the configured domains that a schema does not have, if there are any. -/
def missingLines (config : Config) (whole : Schema) : List String :=
  let missing := config.domains.filter fun name => (whole.domain? name).isNone
  if missing.isEmpty then []
  else ["[yellow]Domains not in protocol '" ++ whole.version ++ "':[/yellow] " ++
    ", ".intercalate missing]

/-- Why loading the schema of a configuration ends with a failure that has no label. -/
inductive ProtocolEscape [Host] (config : Config) (t : FileTree) : Prop where
  /-- The document is nested too deep to be read, or an integer in it has too many digits. -/
  | document {bytes : ByteArray} {limit : Limit}
      (hread : t.readBytes (ProtocolFile.path config.protocolPath config.version) = .ok bytes)
      (hlimit : limit ≠ .pairs) (h : ProtocolFile.documentOfBytes bytes = .error (.beyond limit))
  /-- The first fault in the document is one of those that escape. -/
  | fault {bytes : ByteArray} {document : Json}
      (hread : t.readBytes (ProtocolFile.path config.protocolPath config.version) = .ok bytes)
      (hdocument : ProtocolFile.documentOfBytes bytes = .ok document)
      (h : Schema.HasEscape document)
  /-- The missing domains cannot be shown. -/
  | domains {bytes : ByteArray} {whole : Schema}
      (hread : t.readBytes (ProtocolFile.path config.protocolPath config.version) = .ok bytes)
      (hschema : ProtocolFile.schemaAt (ProtocolFile.path config.protocolPath config.version)
        config.version bytes = .ok whole)
      (h : ¬CanShow (config.missingLines whole))

variable [Host] {config : Config} {dryRun verbose : Bool} {t : FileTree} {schema : Schema}

theorem loadSchema_eq {m : Type → Type} [Monad m] [LawfulMonad m] [FileSystem m]
    (config : Config) (verbose : Bool) :
    (config.loadSchema verbose : Program m Schema) = (do
      let whole ← ProtocolFile.schema config.protocolPath config.version verbose
      printAll (config.missingLines whole)
      return whole.select config.domains) := by
  rw [loadSchema]
  refine bind_congr fun whole => ?_
  cases hmissing : (config.domains.filter fun name => (whole.domain? name).isNone).isEmpty with
  | true => simp only [missingLines, hmissing, printAll, if_true, pure_bind, Bool.not_true,
      Bool.false_eq_true, if_false]
  | false => simp only [missingLines, hmissing, printAll, Bool.false_eq_true, if_false,
      Bool.not_false, if_true, bind_assoc, pure_bind]

theorem outcome_loadSchema (config : Config) (verbose : Bool) (t : FileTree) :
    outcome (config.loadSchema verbose : Program (StateM FileTree) Schema) t =
      outcome (ProtocolFile.schema config.protocolPath config.version verbose) t >>= fun whole =>
        outcome (printAll (config.missingLines whole) : Program (StateM FileTree) Unit) t >>=
          fun _ => .ok (whole.select config.domains) := by
  have hshow (whole : Schema) : IsReading (printAll (config.missingLines whole) >>= fun _ =>
      pure (whole.select config.domains) : Program (StateM FileTree) Schema) :=
    (isReading_printAll _).bind fun _ => isReading_pure _
  rw [loadSchema_eq, outcome_bind (ProtocolFile.isReading_schema _ _ _) hshow]
  refine bind_congr fun whole => ?_
  rw [outcome_bind (isReading_printAll _) fun _ => isReading_pure _]
  rfl

theorem failsWith_loadSchema_iff :
    FailsWith Failure.IsUnlabelled
        (outcome (config.loadSchema verbose : Program (StateM FileTree) Schema) t) ↔
      config.ProtocolEscape t := by
  rw [outcome_loadSchema]
  by_cases hread : ∃ bytes,
      t.readBytes (ProtocolFile.path config.protocolPath config.version) = .ok bytes
  · obtain ⟨bytes, hread⟩ := hread
    simp only [ProtocolFile.outcome_schema verbose hread, failsWith_bind_iff,
      ProtocolFile.failsWith_schemaAt_iff, failsWith_printAll_iff, not_failsWith_ok, and_false,
      exists_false, or_false]
    constructor
    · rintro ((⟨limit, hlimit, hbeyond⟩ | ⟨document, hdocument, hescape⟩) | ⟨whole, hschema, hshow⟩)
      · exact .document hread hlimit hbeyond
      · exact .fault hread hdocument hescape
      · exact .domains hread hschema hshow
    · have hsame {bytes' : ByteArray} (hread' : t.readBytes
          (ProtocolFile.path config.protocolPath config.version) = .ok bytes') : bytes' = bytes :=
        Except.ok.inj (hread'.symm.trans hread)
      rintro (⟨hread', hlimit, hbeyond⟩ | ⟨hread', hdocument, hescape⟩ | ⟨hread', hschema, hshow⟩)
      · obtain rfl := hsame hread'
        exact Or.inl (Or.inl ⟨_, hlimit, hbeyond⟩)
      · obtain rfl := hsame hread'
        exact Or.inl (Or.inr ⟨_, hdocument, hescape⟩)
      · obtain rfl := hsame hread'
        exact Or.inr ⟨_, hschema, hshow⟩
  · obtain ⟨failure, hfailure, hlabel⟩ := ProtocolFile.exists_label_of_unread verbose
      (not_exists.1 hread)
    rw [hfailure]
    refine iff_of_false ?_ ?_
    · rintro ⟨_, ⟨⟩, hunlabelled⟩
      exact hlabel hunlabelled
    · rintro (⟨hread', -, -⟩ | ⟨hread', -, -⟩ | ⟨hread', -, -⟩)
      · exact hread ⟨_, hread'⟩
      · exact hread ⟨_, hread'⟩
      · exact hread ⟨_, hread'⟩

end Config

end ProtocolBindings
