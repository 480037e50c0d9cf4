import ProtocolBindings.CommandLine.Interface
import ProtocolBindings.Generation.Run
import ProtocolBindings.Proofs.Console.Message
import ProtocolBindings.Proofs.Generation.Write
import ProtocolBindings.Proofs.ProtocolFile
import ProtocolBindings.Proofs.Reading
import ProtocolBindings.Proofs.Schema.Build

/-!
# What runs have in common

Validation, dry runs and runs that write load the schema and generate its package without a change
of the file tree.  Only a run that writes goes on from there.
-/

namespace ProtocolBindings

open Program

/-! ## Loading a schema -/

theorem Files.tree_isFile (p : Path) (t : FileTree) :
    ((Files.isFile p : ExceptT FileError (StateM FileTree) Bool).run.run t).2 = t := by
  rw [Files.isFile, run_bind, FileTree.run_kindOf?]
  rcases t.kindAt? p with e | kind
  · rfl
  · rfl

theorem Files.tree_readBytes (p : Path) (t : FileTree) :
    ((Files.readBytes p : ExceptT FileError (StateM FileTree) ByteArray).run.run t).2 = t := by
  rw [Files.run_readBytes]

variable [Host]

theorem ProtocolFile.isReading_read (p : Path) (failure : Failure) :
    IsReading (ProtocolFile.read p failure : Program (StateM FileTree) Json) := by
  rw [ProtocolFile.read]
  refine IsReading.bind (isReading_files (Files.tree_isFile _)) fun found => ?_
  split
  · exact (isReading_files (Files.tree_readBytes _)).bind fun _ => isReading_ofExcept _ _
  · exact isReading_throw _

theorem ProtocolFile.isReading_load (directory : Path) (version : ProtocolVersion)
    (verbose : Bool) :
    IsReading (ProtocolFile.load directory version verbose : Program (StateM FileTree) Json) := by
  cases verbose with
  | false =>
    rw [load_false]
    exact isReading_read _ _
  | true =>
    rw [load_true]
    exact (isReading_printError _).bind fun _ => isReading_read _ _

theorem ProtocolFile.isReading_schema (directory : Path) (version : ProtocolVersion)
    (verbose : Bool) :
    IsReading (ProtocolFile.schema directory version verbose :
      Program (StateM FileTree) Schema) :=
  (isReading_load directory version verbose).bind fun _ => isReading_ofExcept _ _

namespace ProtocolFile

variable {t t' : FileTree} {transcript transcript' : Transcript} {document : Json}

/-- A document that is read is the one that the bytes of the file hold. -/
theorem exists_of_runOn_read {p : Path} {failure : Failure}
    (h : Program.runOn (read p failure) transcript t = ((.ok document, transcript'), t')) :
    ∃ bytes, t.readBytes p = .ok bytes ∧ documentOfBytes bytes = .ok document := by
  obtain ⟨found, _, t₁, hfile, hthen⟩ := Program.exists_of_runOn_bind_eq_ok h
  have htree : t₁ = t := by
    have hrun := (Program.of_runOn_files_eq_ok hfile).1
    rw [← Files.tree_isFile p t, hrun]
  split at hthen
  · obtain ⟨bytes, _, _, hbytes, hdocument⟩ := Program.exists_of_runOn_bind_eq_ok hthen
    have hread := (Program.of_runOn_files_eq_ok hbytes).1
    rw [Files.run_readBytes, htree] at hread
    refine ⟨bytes, (Prod.mk.inj hread).1, ?_⟩
    exact (Program.of_runOn_ofExcept_eq_ok hdocument).1
  · cases (Prod.mk.inj (Prod.mk.inj hthen).1).1

theorem exists_of_runOn_load {directory : Path} {version : ProtocolVersion} {verbose : Bool}
    (h : Program.runOn (load directory version verbose) transcript t =
      ((.ok document, transcript'), t')) :
    ∃ bytes, t.readBytes (path directory version) = .ok bytes ∧
      documentOfBytes bytes = .ok document := by
  cases verbose with
  | false =>
    rw [load_false] at h
    exact exists_of_runOn_read h
  | true =>
    rw [load_true] at h
    obtain ⟨_, shown, t₁, hprint, hread⟩ := Program.exists_of_runOn_bind_eq_ok h
    obtain ⟨text, hrun⟩ := Program.isReading_printError (versionLine version) transcript t
    rw [hprint] at hrun
    obtain rfl := (Prod.mk.inj hrun).2
    exact exists_of_runOn_read hread

end ProtocolFile

namespace Config

variable {config : Config} {verbose : Bool} {t : FileTree}

theorem isReading_loadSchema (config : Config) (verbose : Bool) :
    IsReading (config.loadSchema verbose : Program (StateM FileTree) Schema) := by
  rw [loadSchema]
  refine (ProtocolFile.isReading_schema _ _ _).bind fun schema => ?_
  dsimp only
  split
  · exact (isReading_print _).bind fun _ => isReading_pure _
  · exact isReading_pure _

theorem isReading_printAll (lines : List String) :
    IsReading (printAll lines : Program (StateM FileTree) Unit) := by
  induction lines with
  | nil => exact isReading_pure ()
  | cons line rest ih => exact (isReading_print line).bind fun _ => ih

/-- Keeps a manifest of a previous run beside a generation that can be compared with it. -/
def keepPrevious {m : Type → Type} [Monad m] (schema : Schema) (g : Generation)
    (previous : Option Manifest) : Program m (Schema × Generation × Option Manifest) := do
  if previous.isSome then Generation.requireRecord schema
  return (schema, g, previous)

def withPrevious {m : Type → Type} [Monad m] [FileSystem m] (config : Config) (schema : Schema)
    (g : Generation) : Program m (Schema × Generation × Option Manifest) := do
  let previous ← Program.files (Generation.readManifest (Generation.manifestPath config.outputPath))
  keepPrevious schema g previous

/-- What a run does with a schema before it can change a file. -/
def inspect {m : Type → Type} [Monad m] [FileSystem m] (config : Config) (schema : Schema) :
    Program m (Schema × Generation × Option Manifest) := do
  let g ← Program.ofExcept .generation
    (Generation.ofSchema config.package schema config.outputPath config.options)
  config.withPrevious schema g

/-- The lines that a run shows first. -/
def headLines (config : Config) : List String :=
  ["[dim]Protocol:[/dim] " ++ config.protocolPath.text,
    "[dim]Output:[/dim]   " ++ config.outputPath.text]

/-- The lines that a run shows about a schema. -/
def schemaLines (verbose : Bool) (schema : Schema) : List String :=
  if verbose then schema.domains.map domainLine else []

/-- What a run does before it can change a file. -/
def prepare {m : Type → Type} [Monad m] [FileSystem m] (config : Config) (verbose : Bool) :
    Program m (Schema × Generation × Option Manifest) := do
  printAll config.headLines
  let schema ← config.loadSchema true
  printAll (schemaLines verbose schema)
  config.inspect schema

/-- The report of a run that has written the given paths, or would write them. -/
def reportOf (prepared : Schema × Generation × Option Manifest) (paths : List Path) : RunReport :=
  let (schema, g, previous) := prepared
  let statistics : Statistics :=
    { Statistics.ofSchema schema with
      files := paths.length
      modified := ((previous.map (·.modified g.manifest.outputs)).getD [])
      removed := g.orphans previous }
  { paths, statistics, schema }

def report {m : Type → Type} [Monad m] [FileSystem m] (config : Config) (dryRun : Bool)
    (prepared : Schema × Generation × Option Manifest) : Program m RunReport := do
  let (schema, g, _) := prepared
  let paths ←
    if dryRun then pure (g.files.map fun (name, _) => config.outputPath.joinText name)
    else Generation.write config.package schema config.outputPath config.options
  return reportOf prepared paths

theorem generate_eq {m : Type → Type} [Monad m] [LawfulMonad m] [FileSystem m] (config : Config)
    (dryRun verbose : Bool) :
    (config.generate dryRun verbose : Program m RunReport) =
      config.prepare verbose >>= config.report dryRun := by
  have hif : ∀ (condition : Prop) [Decidable condition] {α β : Type} (x y : Program m α)
      (f : α → Program m β),
      (if condition then x else y) >>= f = if condition then x >>= f else y >>= f := by
    intro condition _ α β x y f
    split <;> rfl
  cases verbose with
  | true =>
    simp only [generate, prepare, headLines, schemaLines, printAll, inspect, withPrevious,
      keepPrevious, bind_assoc, pure_bind, report, reportOf, hif, if_true]
  | false =>
    simp only [generate, prepare, headLines, schemaLines, printAll, inspect, withPrevious,
      keepPrevious, bind_assoc, pure_bind, report, reportOf, hif, if_false, Bool.false_eq_true]

theorem tree_readManifest (p : Path) (t : FileTree) :
    ((Generation.readManifest p : ExceptT FileError (StateM FileTree) _).run.run t).2 = t := by
  rw [Generation.run_readManifest]

theorem isReading_readManifest (p : Path) :
    IsReading (Program.files (Generation.readManifest p) :
      Program (StateM FileTree) (Option Manifest)) :=
  isReading_files (tree_readManifest p)

omit [Host] in
theorem keepPrevious_reads (schema : Schema) (g : Generation)
    (previous : Option Manifest) :
    IsReading (keepPrevious schema g previous :
      Program (StateM FileTree) (Schema × Generation × Option Manifest)) ∧
    ∀ t, outcome (keepPrevious schema g previous) t =
      if previous.isSome && !schema.isRecordable then .error .unrecordable
      else .ok (schema, g, previous) := by
  apply isReading_of_eq
  intro transcript t
  refine ⟨transcript, ?_⟩
  rw [keepPrevious, Generation.requireRecord]
  cases previous with
  | none => rfl
  | some m => cases schema.isRecordable <;> rfl

theorem isReading_withPrevious (config : Config) (schema : Schema) (g : Generation) :
    IsReading (config.withPrevious schema g :
      Program (StateM FileTree) (Schema × Generation × Option Manifest)) :=
  (isReading_readManifest _).bind fun previous => (keepPrevious_reads schema g previous).1

/-- What finding the previous manifest gives. -/
theorem outcome_withPrevious (config : Config) (schema : Schema) (g : Generation) (t : FileTree) :
    outcome (config.withPrevious schema g :
        Program (StateM FileTree) (Schema × Generation × Option Manifest)) t =
      ((Generation.readManifest (Generation.manifestPath config.outputPath) :
        ExceptT FileError (StateM FileTree) _).run.run t).1.mapError .file >>= fun previous =>
          if previous.isSome && !schema.isRecordable then .error .unrecordable
          else .ok (schema, g, previous) := by
  rw [withPrevious, outcome_bind (isReading_readManifest _)
    fun previous => (keepPrevious_reads schema g previous).1,
    outcome_files (tree_readManifest _)]
  congr 1
  funext previous
  exact (keepPrevious_reads schema g previous).2 t

theorem isReading_inspect (config : Config) (schema : Schema) :
    IsReading (config.inspect schema :
      Program (StateM FileTree) (Schema × Generation × Option Manifest)) :=
  (isReading_ofExcept _ _).bind fun g => isReading_withPrevious config schema g

theorem isReading_prepare (config : Config) (verbose : Bool) :
    IsReading (config.prepare verbose :
      Program (StateM FileTree) (Schema × Generation × Option Manifest)) :=
  (isReading_printAll _).bind fun _ =>
    (isReading_loadSchema config true).bind fun schema =>
      (isReading_printAll _).bind fun _ => isReading_inspect config schema

def validLine (schema : Schema) : String :=
  "[green]Protocol valid:[/green] version '" ++ schema.version ++ "', " ++
    toString schema.domains.length ++ " domains"

def generateModules (config : Config) (schema : Schema) : Program (StateM FileTree) Schema := do
  let _ ← Program.ofExcept .generation (Package.modules config.package schema)
  return schema

def showAndGenerate (config : Config) (schema : Schema) : Program (StateM FileTree) Schema := do
  Program.print (validLine schema)
  generateModules config schema

theorem checkProtocol_eq (config : Config) :
    (CommandLine.checkProtocol config : Program (StateM FileTree) Schema) =
      config.loadSchema true >>= showAndGenerate config :=
  rfl

omit [Host] in
theorem isReading_generateModules (config : Config) (schema : Schema) :
    IsReading (generateModules config schema) :=
  (isReading_ofExcept _ _).bind fun _ => isReading_pure _

theorem isReading_showAndGenerate (config : Config) (schema : Schema) :
    IsReading (showAndGenerate config schema) :=
  (isReading_print _).bind fun _ => isReading_generateModules config schema

/-- Validation changes no file. -/
theorem isReading_checkProtocol (config : Config) :
    IsReading (CommandLine.checkProtocol config : Program (StateM FileTree) Schema) :=
  (isReading_loadSchema config true).bind (isReading_showAndGenerate config)

/-! ## Errors of the generation -/

end Config

def Failure.generation? : Failure → Option GenerationError
  | .generation e => some e
  | _ => none

def Program.generationError? {α : Type} : Except Failure α → Option GenerationError
  | .error failure => failure.generation?
  | .ok _ => none

namespace Config

variable {config : Config} {schema : Schema} {verbose : Bool} {t : FileTree}

/-- The error that ends the generation of a schema's modules. -/
def moduleError? (config : Config) (schema : Schema) : Option GenerationError :=
  match Package.modules config.package schema with
  | .error e => some e
  | .ok _ => none

/-- Whether every one of some lines can be shown on the console. -/
def CanShow (lines : List String) : Prop :=
  ∀ line ∈ lines, ∃ text, Console.render line = .ok text

theorem outcome_printAll_of_canShow {lines : List String} (h : CanShow lines) (t : FileTree) :
    outcome (printAll lines : Program (StateM FileTree) Unit) t = .ok () := by
  induction lines with
  | nil => rfl
  | cons line rest ih =>
    rw [CanShow, List.forall_mem_cons] at h
    obtain ⟨⟨text, htext⟩, hrest⟩ := h
    rw [printAll, outcome_bind (isReading_print line) fun _ => isReading_printAll rest,
      outcome_print, htext]
    exact ih hrest

/-- If a line cannot be shown, showing them all fails for it. -/
theorem outcome_printAll_of_not_canShow {lines : List String} (h : ¬CanShow lines)
    (t : FileTree) : ∃ fault,
      outcome (printAll lines : Program (StateM FileTree) Unit) t = .error (.markup fault) := by
  induction lines with
  | nil => exact absurd (by simp [CanShow]) h
  | cons line rest ih =>
    rw [printAll, outcome_bind (isReading_print line) fun _ => isReading_printAll rest,
      outcome_print]
    cases hline : Console.render line with
    | error fault => exact ⟨fault, rfl⟩
    | ok text =>
      have hrest : ¬CanShow rest := by
        intro hrest
        exact h (List.forall_mem_cons.2 ⟨⟨text, hline⟩, hrest⟩)
      exact ih hrest

/-- Finding the previous manifest ends in no error of the generation. -/
theorem generationError?_withPrevious (config : Config) (schema : Schema) (g : Generation)
    (t : FileTree) :
    generationError? (outcome (config.withPrevious schema g :
      Program (StateM FileTree) (Schema × Generation × Option Manifest)) t) = none := by
  rw [outcome_withPrevious]
  cases ((Generation.readManifest (Generation.manifestPath config.outputPath) :
    ExceptT FileError (StateM FileTree) _).run.run t).1 with
  | error e => rfl
  | ok previous =>
    change generationError? (if previous.isSome && !schema.isRecordable then _ else _) = none
    split
    · rfl
    · rfl

/-- Inspecting a schema fails as generating its modules does. -/
theorem generationError?_inspect (config : Config) (schema : Schema) (t : FileTree) :
    generationError? (outcome (config.inspect schema :
      Program (StateM FileTree) (Schema × Generation × Option Manifest)) t) =
        config.moduleError? schema := by
  rw [inspect, outcome_bind (isReading_ofExcept _ _) (isReading_withPrevious config schema),
    outcome_ofExcept, Generation.ofSchema, Package.files, moduleError?]
  cases Package.modules config.package schema with
  | error e => rfl
  | ok modules => exact generationError?_withPrevious config schema _ t

/-- A schema that is loaded is built from the file of the configured version. -/
theorem exists_of_loadSchema_eq_ok
    (h : outcome (config.loadSchema verbose : Program (StateM FileTree) Schema) t = .ok schema) :
    ∃ bytes document whole,
      t.readBytes (ProtocolFile.path config.protocolPath config.version) = .ok bytes ∧
        ProtocolFile.documentOfBytes bytes = .ok document ∧
          Schema.ofJson config.version document = .ok whole ∧
            schema = whole.select config.domains := by
  obtain ⟨shown, hrun⟩ := isReading_loadSchema config verbose {} t
  rw [h] at hrun
  obtain ⟨whole, _, _, hschema, hselect⟩ := exists_of_runOn_bind_eq_ok hrun
  obtain ⟨document, _, _, hload, hbuild⟩ := exists_of_runOn_bind_eq_ok hschema
  obtain ⟨bytes, hbytes, hdocument⟩ := ProtocolFile.exists_of_runOn_load hload
  refine ⟨bytes, document, whole, hbytes, hdocument, (of_runOn_ofExcept_eq_ok hbuild).1, ?_⟩
  dsimp only at hselect
  split at hselect
  · obtain ⟨_, _, _, -, hend⟩ := exists_of_runOn_bind_eq_ok hselect
    exact (Except.ok.inj (Prod.mk.inj (Prod.mk.inj hend).1).1).symm
  · exact (Except.ok.inj (Prod.mk.inj (Prod.mk.inj hselect).1).1).symm

/-- The version of a schema that is loaded is one that can be asked for. -/
theorem exists_version_of_loadSchema
    (h : outcome (config.loadSchema verbose : Program (StateM FileTree) Schema) t = .ok schema) :
    ∃ version : ProtocolVersion, schema.version = version.name := by
  obtain ⟨_, _, whole, -, -, hwhole, rfl⟩ := exists_of_loadSchema_eq_ok h
  exact ⟨config.version,
    (whole.version_select _).trans (Schema.ofJson_eq_ok_iff.1 hwhole).version⟩

theorem exists_render_validLine {version : ProtocolVersion} (h : schema.version = version.name) :
    ∃ text, Console.render (validLine schema) = .ok text := by
  have hversion : Markup.IsPlain schema.version.toList := by
    rw [h]
    cases version <;> decide
  have hfront : "[green]Protocol valid:[/green] version '".toList =
      [] ++ '[' :: ("green".toList ++ ']' :: ("Protocol valid:".toList ++
        '[' :: '/' :: ("green".toList ++ ']' :: " version '".toList))) := by
    decide
  apply Console.exists_render_eq_ok
  delta validLine
  simp only [String.toList_append]
  rw [hfront]
  simp only [List.append_assoc, List.cons_append]
  refine .tagged (by decide) (by decide) (by decide) (Markup.IsPlain.isPaired ?_)
  exact .append (by decide) (hversion.append (.append (by decide)
    ((Markup.isPlain_toString _).append (by decide))))

/-- Validation ends in an error of the generation if loading the schema or generating its modules
does. -/
theorem generationError?_checkProtocol (config : Config) (t : FileTree) :
    generationError? (outcome (CommandLine.checkProtocol config :
      Program (StateM FileTree) Schema) t) =
        match outcome (config.loadSchema true : Program (StateM FileTree) Schema) t with
        | .error failure => failure.generation?
        | .ok schema => config.moduleError? schema := by
  rw [checkProtocol_eq, outcome_bind (isReading_loadSchema config true)
    (isReading_showAndGenerate config)]
  cases hload : outcome (config.loadSchema true : Program (StateM FileTree) Schema) t with
  | error failure => rfl
  | ok schema =>
    obtain ⟨version, hversion⟩ := exists_version_of_loadSchema hload
    obtain ⟨text, htext⟩ := exists_render_validLine hversion
    have hshow : outcome (showAndGenerate config schema) t =
        outcome (generateModules config schema) t := by
      rw [showAndGenerate, outcome_bind (isReading_print _)
        fun _ => isReading_generateModules config schema, outcome_print, htext]
      rfl
    have hmodules : outcome (generateModules config schema) t =
        (Package.modules config.package schema).mapError .generation >>= fun _ => .ok schema := by
      rw [generateModules, outcome_bind (isReading_ofExcept _ _) fun _ => isReading_pure _,
        outcome_ofExcept]
      rfl
    simp only [bind, Except.bind]
    rw [hshow, hmodules, moduleError?]
    cases Package.modules config.package schema with
    | error e => rfl
    | ok modules => rfl

end Config

end ProtocolBindings
