import ProtocolBindings.Proofs.Generation.Preparation
import ProtocolBindings.Proofs.Generation.Previous

/-!
# Agreement of validation, dry runs and runs that write

Validation, a dry run and a run that writes come to the same result: all of them end in the same
error of the generation or none does, and a dry run foretells what the run that writes does.  There
are two exceptions.  A run whose opening lines cannot be shown on the console ends before it finds
the error; and a run looks for the previous manifest before it makes its directory, but cleans up
after that, so it can clean up more than it reports.
-/

namespace ProtocolBindings

open Program

/-- Something that was at a place is not there any more. -/
def FileTree.Disappears (t t' : FileTree) (place : List String) : Prop :=
  t.get? place ≠ none ∧ t'.get? place = none

namespace Config

open FileTree Generation

variable [Host]

def result (config : Config) (dryRun verbose : Bool) (t : FileTree) : Except Failure RunReport :=
  (runOn (config.generate dryRun verbose) {} t).1.1

def treeAfter (config : Config) (dryRun verbose : Bool) (t : FileTree) : FileTree :=
  (runOn (config.generate dryRun verbose) {} t).2

/-- A dry run says what the run that writes gives and leaves. -/
structure Foretells (config : Config) (t : FileTree) (dry real : RunReport) (t' : FileTree) :
    Prop where
  paths_eq : real.paths = dry.paths ++
    if config.options.manifest then [manifestPath config.outputPath] else []
  statistics_eq : { real.statistics with files := dry.statistics.files } = dry.statistics
  disappears_iff : config.options.clean = true → ∀ place, t.Disappears t' place ↔
    t.get? place ≠ none ∧
      ∃ name ∈ real.statistics.removed, place = t.destination config.outputPath ++ [name]
  not_disappears : config.options.clean = false → ∀ place, ¬t.Disappears t' place

/-- Validation, a dry run and a run that writes agree on a tree. -/
structure Agrees (config : Config) (verbose : Bool) (t : FileTree) : Prop where
  dry_error : generationError? (config.result true verbose t) =
    generationError? (outcome (CommandLine.checkProtocol config) t)
  real_error : generationError? (config.result false verbose t) =
    generationError? (outcome (CommandLine.checkProtocol config) t)
  dry_tree : config.treeAfter true verbose t = t
  error_tree : generationError? (config.result false verbose t) ≠ none →
    config.treeAfter false verbose t = t
  foretells : WrittenBefore t config.outputPath → ∀ dry real,
    config.result true verbose t = .ok dry → config.result false verbose t = .ok real →
      config.Foretells t dry real (config.treeAfter false verbose t)

/-- Everything that a run shows before it generates the modules can be shown. -/
def Announces (config : Config) (verbose : Bool) (t : FileTree) : Prop :=
  CanShow config.headLines ∧
    ∀ schema, outcome (config.loadSchema true) t = .ok schema →
      CanShow (schemaLines verbose schema)

/-- The directory of a generation cannot be reached before it is made, and yet holds files that
are left over. -/
def Overlooks (config : Config) (t : FileTree) (g : Generation) : Prop :=
  ¬t.HasDirectory config.outputPath (t.destination config.outputPath) ∧
    ∃ name ∈ g.orphans
        (manifestAt? t (t.destination config.outputPath ++ [Manifest.fileName])),
      t.get? (t.destination config.outputPath ++ [name]) ≠ none

variable {config : Config} {verbose : Bool} {t t' : FileTree} {schema : Schema} {g : Generation}
  {previous : Option Manifest}

/-! ## Preparation -/

theorem outcome_prepare (config : Config) (verbose : Bool) (t : FileTree) :
    outcome (config.prepare verbose :
        Program (StateM FileTree) (Schema × Generation × Option Manifest)) t =
      outcome (printAll config.headLines : Program (StateM FileTree) Unit) t >>= fun _ =>
        outcome (config.loadSchema true) t >>= fun schema =>
          outcome (printAll (schemaLines verbose schema) : Program (StateM FileTree) Unit) t >>=
            fun _ => outcome (config.inspect schema) t := by
  have hlast : ∀ schema, IsReading (printAll (schemaLines verbose schema) >>= fun _ =>
      config.inspect schema :
        Program (StateM FileTree) (Schema × Generation × Option Manifest)) :=
    fun schema => (isReading_printAll _).bind fun _ => isReading_inspect config schema
  rw [prepare, outcome_bind (isReading_printAll _)
    fun _ => (isReading_loadSchema config true).bind hlast]
  refine bind_congr fun _ => ?_
  rw [outcome_bind (isReading_loadSchema config true) hlast]
  refine bind_congr fun schema => ?_
  rw [outcome_bind (isReading_printAll _) fun _ => isReading_inspect config schema]

/-- A run whose lines can be shown is prepared without an error of the generation exactly if
validation ends without one. -/
theorem generationError?_prepare_of_announces (h : config.Announces verbose t) :
    generationError? (outcome (config.prepare verbose :
        Program (StateM FileTree) (Schema × Generation × Option Manifest)) t) =
      generationError? (outcome (CommandLine.checkProtocol config :
        Program (StateM FileTree) Schema) t) := by
  obtain ⟨hhead, hschema⟩ := h
  rw [outcome_prepare, generationError?_checkProtocol, outcome_printAll_of_canShow hhead]
  cases hload : outcome (config.loadSchema true : Program (StateM FileTree) Schema) t with
  | error failure => rfl
  | ok schema =>
    simp only [bind, Except.bind, outcome_printAll_of_canShow (hschema schema hload)]
    exact generationError?_inspect config schema t

/-- A run with a line that cannot be shown ends in no error of the generation. -/
theorem generationError?_prepare_of_not_announces (h : ¬config.Announces verbose t) :
    generationError? (outcome (config.prepare verbose :
      Program (StateM FileTree) (Schema × Generation × Option Manifest)) t) = none := by
  rw [outcome_prepare]
  by_cases hhead : CanShow config.headLines
  · obtain ⟨schema, hload, hschema⟩ : ∃ schema,
        outcome (config.loadSchema true : Program (StateM FileTree) Schema) t = .ok schema ∧
          ¬CanShow (schemaLines verbose schema) := by
      by_contra hall
      refine h ⟨hhead, fun schema hload => ?_⟩
      by_contra hschema
      exact hall ⟨schema, hload, hschema⟩
    obtain ⟨fault, hshow⟩ := outcome_printAll_of_not_canShow hschema t
    rw [outcome_printAll_of_canShow hhead, hload]
    simp only [bind, Except.bind, hshow]
    rfl
  · obtain ⟨fault, hshow⟩ := outcome_printAll_of_not_canShow hhead t
    rw [hshow]
    rfl

/-- What a run that is prepared has loaded, generated and found. -/
theorem of_outcome_prepare_eq_ok
    (h : outcome (config.prepare verbose :
      Program (StateM FileTree) (Schema × Generation × Option Manifest)) t =
        .ok (schema, g, previous)) :
    outcome (config.loadSchema true : Program (StateM FileTree) Schema) t = .ok schema ∧
      ofSchema config.package schema config.outputPath config.options = .ok g ∧
        ((readManifest (manifestPath config.outputPath) :
          ExceptT FileError (StateM FileTree) (Option Manifest)).run.run t).1 = .ok previous := by
  rw [outcome_prepare] at h
  obtain ⟨_, -, h⟩ := Results.bind_eq_ok_iff.1 h
  obtain ⟨loaded, hload, h⟩ := Results.bind_eq_ok_iff.1 h
  obtain ⟨_, -, h⟩ := Results.bind_eq_ok_iff.1 h
  rw [inspect, outcome_bind (isReading_ofExcept _ _) (isReading_withPrevious config loaded)] at h
  obtain ⟨generated, hgenerated, h⟩ := Results.bind_eq_ok_iff.1 h
  rw [outcome_ofExcept, Results.mapError_eq_ok_iff] at hgenerated
  rw [outcome_withPrevious] at h
  obtain ⟨found, hfound, hkept⟩ := Results.bind_eq_ok_iff.1 h
  split at hkept
  · cases hkept
  · obtain ⟨rfl, hrest⟩ := Prod.mk.inj (Except.ok.inj hkept)
    obtain ⟨rfl, rfl⟩ := Prod.mk.inj hrest
    exact ⟨hload, hgenerated, Results.mapError_eq_ok_iff.1 hfound⟩

/-! ## Runs -/

theorem outcome_generate_dry (config : Config) (verbose : Bool) (t : FileTree) :
    IsReading (config.generate true verbose : Program (StateM FileTree) RunReport) ∧
      outcome (config.generate true verbose : Program (StateM FileTree) RunReport) t =
        outcome (config.prepare verbose) t >>= fun prepared =>
          .ok (reportOf prepared
            (prepared.2.1.files.map fun (name, _) => config.outputPath.joinText name)) := by
  have hreport : ∀ prepared,
      (config.report true prepared : Program (StateM FileTree) RunReport) =
        pure (reportOf prepared
          (prepared.2.1.files.map fun (name, _) => config.outputPath.joinText name)) :=
    fun prepared => rfl
  have hreading : ∀ prepared,
      IsReading (config.report true prepared : Program (StateM FileTree) RunReport) := by
    intro prepared
    rw [hreport]
    exact isReading_pure _
  rw [generate_eq]
  refine ⟨(isReading_prepare config verbose).bind hreading, ?_⟩
  rw [outcome_bind (isReading_prepare config verbose) hreading]
  refine bind_congr fun prepared => ?_
  rw [hreport]
  rfl

theorem result_dry (config : Config) (verbose : Bool) (t : FileTree) :
    config.result true verbose t =
      outcome (config.prepare verbose) t >>= fun prepared =>
        .ok (reportOf prepared
          (prepared.2.1.files.map fun (name, _) => config.outputPath.joinText name)) :=
  (outcome_generate_dry config verbose t).2

/-- A dry run leaves the tree as it is. -/
theorem treeAfter_dry (config : Config) (verbose : Bool) (t : FileTree) :
    config.treeAfter true verbose t = t := by
  obtain ⟨shown, hrun⟩ := (outcome_generate_dry config verbose t).1 {} t
  rw [treeAfter, hrun]

theorem generationError?_result_dry (config : Config) (verbose : Bool) (t : FileTree) :
    generationError? (config.result true verbose t) =
      generationError? (outcome (config.prepare verbose) t) := by
  rw [result_dry]
  cases outcome (config.prepare verbose) t with
  | error failure => rfl
  | ok prepared => rfl

/-- A run that writes goes on from what it has prepared. -/
theorem exists_runOn_generate_real (config : Config) (verbose : Bool) (t : FileTree) :
    ∃ shown, runOn (config.generate false verbose) {} t =
      match outcome (config.prepare verbose) t with
      | .error failure => ((.error failure, shown), t)
      | .ok prepared =>
        runOn (Generation.write config.package prepared.1 config.outputPath config.options >>=
          fun paths => pure (reportOf prepared paths)) shown t := by
  obtain ⟨shown, hrun⟩ := isReading_prepare config verbose {} t
  refine ⟨shown, ?_⟩
  rw [generate_eq, runOn_bind, hrun]
  cases outcome (config.prepare verbose) t with
  | error failure => rfl
  | ok prepared => rfl

end Config

namespace Generation

variable {t t' : FileTree} {output : Path} {g : Generation} {package : String} {schema : Schema}
  {options : Options} {transcript transcript' : Transcript}

/-- A run of the writer whose modules can be generated ends in no error of the generation. -/
theorem generation?_of_write_eq_error [Host] {failure : Failure}
    (hg : ofSchema package schema output options = .ok g)
    (h : runOn (write package schema output options) transcript t =
      ((.error failure, transcript'), t')) :
    failure.generation? = none := by
  cases failure with
  | generation e =>
    have herror := (of_write_eq_generation_error h).2
    rw [hg] at herror
    cases herror
  | _ => rfl

end Generation

namespace Config

open FileTree Generation

variable {config : Config} {verbose : Bool} {t t' : FileTree} {schema : Schema} {g : Generation}
  {previous : Option Manifest}

section

variable [Host]

/-- A run that writes ends in the errors of the generation that its preparation ends in, and then
it leaves the tree as it is. -/
theorem generationError?_result_real (config : Config) (verbose : Bool) (t : FileTree) :
    generationError? (config.result false verbose t) =
        generationError? (outcome (config.prepare verbose) t) ∧
      (generationError? (config.result false verbose t) ≠ none →
        config.treeAfter false verbose t = t) := by
  obtain ⟨shown, hrun⟩ := exists_runOn_generate_real config verbose t
  rw [result, treeAfter, hrun]
  rcases hprepare : outcome (config.prepare verbose) t with failure | ⟨schema, g, previous⟩
  · exact ⟨rfl, fun _ => rfl⟩
  · obtain ⟨-, hg, -⟩ := of_outcome_prepare_eq_ok hprepare
    simp only [runOn_bind]
    rcases hwrite : runOn (Generation.write config.package schema config.outputPath
      config.options) shown t with ⟨⟨failure | paths, _⟩, t'⟩
    · have hnone := generation?_of_write_eq_error hg hwrite
      exact ⟨hnone, fun hsome => absurd hnone hsome⟩
    · exact ⟨rfl, fun hsome => absurd rfl hsome⟩

/-- What a run that writes and succeeds has prepared and written. -/
theorem exists_of_result_real_eq_ok {real : RunReport}
    (h : config.result false verbose t = .ok real) :
    ∃ schema g previous paths transcript transcript',
      outcome (config.prepare verbose) t = .ok (schema, g, previous) ∧
        real = reportOf (schema, g, previous) paths ∧
        runOn (Generation.write config.package schema config.outputPath config.options)
          transcript t = ((.ok paths, transcript'), config.treeAfter false verbose t) := by
  obtain ⟨shown, hrun⟩ := exists_runOn_generate_real config verbose t
  rw [result, hrun] at h
  rw [treeAfter, hrun]
  rcases hprepare : outcome (config.prepare verbose) t with failure | ⟨schema, g, previous⟩
  · rw [hprepare] at h
    cases h
  · rw [hprepare] at h
    simp only [runOn_bind] at h ⊢
    rcases hwrite : runOn (Generation.write config.package schema config.outputPath
      config.options) shown t with ⟨⟨failure | paths, shown'⟩, t'⟩
    · rw [hwrite] at h
      cases h
    · rw [hwrite] at h
      exact ⟨schema, g, previous, paths, shown, shown', rfl, (Except.ok.inj h).symm, hwrite⟩

/-! ## What a dry run foretells -/

/-- Where there is no directory yet, no previous manifest is found. -/
theorem previous_eq_none
    (hdir : ¬t.HasDirectory config.outputPath (t.destination config.outputPath))
    (hread : ((readManifest (manifestPath config.outputPath) :
      ExceptT FileError (StateM FileTree) (Option Manifest)).run.run t).1 = .ok previous) :
    previous = none := by
  rw [run_readManifest] at hread
  split at hread
  · cases hread
  · exact (Except.ok.inj hread).symm
  · obtain ⟨content, hcontent, -⟩ := Results.bind_eq_ok_iff.1 hread
    obtain ⟨place, hplace, -⟩ := readBytes_eq_ok_iff.1 hcontent
    exact absurd (hasDirectory_of_placeOf_joinText Manifest.isFileName_fileName hplace) hdir

omit [Host] in
/-- What disappears when a generation is written are the files that are cleaned up. -/
theorem disappears_iff {t₁ : FileTree} {output : Path} {dir place : List String}
    (hadds : t.AddsDirectories output t₁)
    (hbrings : Brings t₁ dir (g.replacements previous) t') :
    t.Disappears t' place ↔ t.get? place ≠ none ∧ g.options.clean = true ∧
      ∃ name ∈ g.orphans previous, place = dir ++ [name] := by
  refine and_congr_right fun hsome => ?_
  have hkept : t₁.get? place = t.get? place := by
    rcases hadds.get?_eq place with hsame | ⟨hnone, -⟩
    · exact hsame
    · exact absurd hnone hsome
  constructor
  · intro hgone
    by_cases hmem : ∃ r ∈ g.replacements previous, place = dir ++ [r.1]
    · obtain ⟨r, hr, rfl⟩ := hmem
      rw [hbrings.get?_of_mem r hr] at hgone
      rcases mem_replacements.1 hr with
        ⟨hclean, name, hname, rfl⟩ | ⟨name, text, -, rfl⟩ | ⟨-, rfl⟩
      · exact ⟨hclean, name, hname, rfl⟩
      · cases hgone
      · cases hgone
    · rw [hbrings.get?_of_ne place fun r hr hplace => hmem ⟨r, hr, hplace⟩, hkept] at hgone
      exact absurd hgone hsome
  · rintro ⟨hclean, name, hname, rfl⟩
    exact hbrings.get?_of_mem (name, none) (mem_replacements.2 (Or.inl ⟨hclean, name, hname, rfl⟩))

/-- A dry run foretells what the run that writes does, unless that one finds files to clean up
only once it has made its directory. -/
theorem foretells_iff {paths : List Path} {transcript transcript' : Transcript}
    (hwritten : WrittenBefore t config.outputPath)
    (hg : ofSchema config.package schema config.outputPath config.options = .ok g)
    (hread : ((readManifest (manifestPath config.outputPath) :
      ExceptT FileError (StateM FileTree) (Option Manifest)).run.run t).1 = .ok previous)
    (hrun : runOn (Generation.write config.package schema config.outputPath config.options)
      transcript t = ((.ok paths, transcript'), t')) :
    config.Foretells t
        (reportOf (schema, g, previous)
          (g.files.map fun (name, _) => config.outputPath.joinText name))
        (reportOf (schema, g, previous) paths) t' ↔
      (config.options.clean = true → ¬config.Overlooks t g) := by
  obtain ⟨g', hg', hpaths, hbrings⟩ := hwritten.readsPrevious.brings_of_write_eq_ok hrun
  obtain rfl := Except.ok.inj (hg.symm.trans hg')
  obtain ⟨hout, hoptions⟩ := output_of_ofSchema hg
  have hdisappears : ∀ place, t.Disappears t' place ↔ t.get? place ≠ none ∧
      g.options.clean = true ∧ ∃ name ∈ g.orphans (manifestAt? t
        (t.destination config.outputPath ++ [Manifest.fileName])),
          place = t.destination config.outputPath ++ [name] :=
    fun place => disappears_iff (addsDirectories_withDirectories t config.outputPath) hbrings
  rw [hoptions] at hdisappears
  have hpathsEq : paths = (g.files.map fun (name, _) => config.outputPath.joinText name) ++
      if config.options.manifest then [manifestPath config.outputPath] else [] := by
    rw [hpaths, writtenFiles, List.map_append, List.map_map, hout, hoptions]
    congr 1
    split <;> rfl
  constructor
  · rintro hforetells hclean ⟨hdir, name, hname, hsome⟩
    have hgone := (hdisappears _).2 ⟨hsome, hclean, name, hname, rfl⟩
    obtain ⟨-, _, hreported, -⟩ := (hforetells.disappears_iff hclean _).1 hgone
    obtain rfl := previous_eq_none hdir hread
    cases hreported
  · intro hoverlooks
    refine ⟨hpathsEq, rfl, fun hclean place => ?_, fun hclean place hgone => ?_⟩
    · rw [hdisappears, hclean]
      simp only [true_and]
      refine and_congr_right fun hsome => ?_
      by_cases hdir : t.HasDirectory config.outputPath (t.destination config.outputPath)
      · obtain ⟨hin, -⟩ := manifestIn_of_readManifest hdir
          (Prod.ext hread (tree_readManifest _ _))
        rw [manifestAt?_of_manifestIn hin]
        exact Iff.rfl
      · obtain rfl := previous_eq_none hdir hread
        constructor
        · rintro ⟨name, hname, rfl⟩
          exact absurd ⟨hdir, name, hname, hsome⟩ (hoverlooks hclean)
        · rintro ⟨name, hname, -⟩
          cases hname
    · obtain ⟨-, hon, -⟩ := (hdisappears place).1 hgone
      rw [hclean] at hon
      cases hon

/-- A run is prepared with the error of validation exactly if it can show its lines where there is
an error. -/
theorem generationError?_prepare_iff (config : Config) (verbose : Bool) (t : FileTree) :
    generationError? (outcome (config.prepare verbose) t) =
        generationError? (outcome (CommandLine.checkProtocol config) t) ↔
      (generationError? (outcome (CommandLine.checkProtocol config) t) ≠ none →
        config.Announces verbose t) := by
  by_cases hannounces : config.Announces verbose t
  · exact iff_of_true (generationError?_prepare_of_announces hannounces) fun _ => hannounces
  · rw [generationError?_prepare_of_not_announces hannounces, eq_comm]
    constructor
    · exact fun hnone hsome => absurd hnone hsome
    · intro himplies
      by_contra hsome
      exact hannounces (himplies hsome)

/-- What a dry run says of a run that writes and succeeds. -/
theorem exists_of_results_eq_ok (hwritten : WrittenBefore t config.outputPath) {real : RunReport}
    (hreal : config.result false verbose t = .ok real) :
    ∃ dry g, config.result true verbose t = .ok dry ∧
      ofSchema config.package real.schema config.outputPath config.options = .ok g ∧
      (config.Foretells t dry real (config.treeAfter false verbose t) ↔
        (config.options.clean = true → ¬config.Overlooks t g)) := by
  obtain ⟨schema, g, previous, paths, _, _, hprepare, rfl, hwrite⟩ :=
    exists_of_result_real_eq_ok hreal
  obtain ⟨-, hg, hread⟩ := of_outcome_prepare_eq_ok hprepare
  refine ⟨_, g, ?_, hg, foretells_iff hwritten hg hread hwrite⟩
  rw [result_dry, hprepare]
  rfl

def protocolTree : FileTree where
  entries :=
    [(["priv"], .directory), (["priv", "tot"], .directory),
      (["priv", "tot", "protocol.json"],
        .file "\x7b\"domains\": [\x7b\"domain\": \"Page\"\x7d]\x7d".toUTF8)]

def newest (protocolDir : String) : Config where
  protocolDir := protocolDir
  output := "out"
  version := .tipOfTree

/-- Validation, dry runs and runs that write agree on every tree and for every configuration, but
for two things.  An error of the generation stays hidden if a line that is shown before it cannot
be shown; and a run that cleans up does not report the files that it finds only once it has made
its directory. -/
theorem agrees_iff (config : Config) (verbose : Bool) (t : FileTree) :
    config.Agrees verbose t ↔
      (generationError? (outcome (CommandLine.checkProtocol config) t) ≠ none →
        config.Announces verbose t) ∧
      (WrittenBefore t config.outputPath → config.options.clean = true →
        ∀ real, config.result false verbose t = .ok real →
          ∀ g, ofSchema config.package real.schema config.outputPath config.options = .ok g →
            ¬config.Overlooks t g) := by
  have hdryError := generationError?_result_dry config verbose t
  obtain ⟨hrealError, hrealTree⟩ := generationError?_result_real config verbose t
  constructor
  · intro h
    refine ⟨(generationError?_prepare_iff config verbose t).1 ?_, ?_⟩
    · rw [← hdryError]
      exact h.dry_error
    · intro hwritten hclean real hreal g hg
      obtain ⟨dry, g', hdry, hg', hforetells⟩ := exists_of_results_eq_ok hwritten hreal
      obtain rfl := Except.ok.inj (hg.symm.trans hg')
      exact hforetells.1 (h.foretells hwritten dry real hdry hreal) hclean
  · rintro ⟨hannounces, hoverlooks⟩
    have hsame := (generationError?_prepare_iff config verbose t).2 hannounces
    refine ⟨hdryError.trans hsame, hrealError.trans hsame, treeAfter_dry config verbose t,
      hrealTree, ?_⟩
    intro hwritten dry real hdry hreal
    obtain ⟨dry', g, hdry', hg, hforetells⟩ := exists_of_results_eq_ok hwritten hreal
    obtain rfl := Except.ok.inj (hdry.symm.trans hdry')
    exact hforetells.2 fun hclean => hoverlooks hwritten hclean real hreal g hg

end

theorem agrees_protocolTree :
    (newest "priv").Agrees false protocolTree ∧
      ((newest "priv").result true false protocolTree).isOk = true ∧
      ((newest "priv").result false false protocolTree).isOk = true := by
  refine ⟨(agrees_iff _ _ _).2 ⟨fun herror => ?_, ?_⟩, by decide +kernel, by decide +kernel⟩
  · have hnone : (generationError? (outcome (CommandLine.checkProtocol (newest "priv"))
        protocolTree)).isNone = true := by
      decide +kernel
    exact absurd (Option.isNone_iff_eq_none.1 hnone) herror
  · rintro - - real - g - ⟨-, name, hname, -⟩
    have hmanifest : manifestAt? protocolTree (protocolTree.destination
        (newest "priv").outputPath ++ [Manifest.fileName]) = none := rfl
    rw [hmanifest] at hname
    cases hname

/-- Where the directory of the protocol is called like a closing tag, a run cannot even show its
name, and validation alone finds that there is no protocol. -/
theorem not_agrees_closingTag :
    generationError? (outcome (CommandLine.checkProtocol (newest "[/x]")) {}) =
        some { cause := .schemaNotFound "tot" "[/x]/tot/protocol.json" } ∧
      generationError? ((newest "[/x]").result true false {}) = none ∧
      ¬(newest "[/x]").Agrees false {} := by
  have hcheck : generationError? (outcome (CommandLine.checkProtocol (newest "[/x]")) {}) =
      some { cause := .schemaNotFound "tot" "[/x]/tot/protocol.json" } := by
    decide +kernel
  have hdry : generationError? ((newest "[/x]").result true false {}) = none := by
    decide
  refine ⟨hcheck, hdry, fun hagrees => ?_⟩
  have hsame := hagrees.dry_error
  rw [hcheck, hdry] at hsame
  cases hsame

end Config

end ProtocolBindings
