import ProtocolBindings.Proofs.CommandLine.Arguments
import ProtocolBindings.Proofs.CommandLine.Loading
import ProtocolBindings.Proofs.Generation.Failures

/-!
# Failures of the program

The program is to report every failure.  Some escape it, and they end the program without a report:
a configuration file that can be found but not read, is not in UTF-8 or has a scalar that cannot be
read, a fault in the protocol that escapes the construction of its schema, a schema that is nested
too deep, a null character in a path, and a message that the console cannot show.
-/

namespace ProtocolBindings

open Program OnTree
open Results (FailsWith failsWith_bind_iff not_failsWith_ok)

namespace CommandLine

open CommandLine.Command
open Config (CanShow printAll)

variable {environment : Option String} {t : FileTree} {named : Option Path} {p : Path}
  {version : Option String}

/-! ## The command that generates a package -/

/-- The lines in front of a run. -/
def startLines (a : Arguments) (p : Path) : List String :=
  ["", "[bold]chrome-remote-interface[/bold]", "", "[dim]Config:[/dim]   " ++ p.text] ++
    if a.has .dryRun then ["[yellow]Dry run mode[/yellow]", ""] else []

def fileLines (label : String) (names : List String) : List String :=
  if names.isEmpty then [] else ["[yellow]" ++ label ++ ":[/yellow] " ++ ", ".intercalate names]

def changeLines (config : Config) (report : RunReport) : List String :=
  fileLines "Changed" report.statistics.modified ++
    (fileLines (if config.options.clean then "Removed" else "No longer generated")
      report.statistics.removed ++ [""])

section

variable {m : Type → Type} [Monad m] [LawfulMonad m] [Host]

theorem showStart_eq (a : Arguments) (p : Path) :
    (showStart a p : Program m Unit) = printAll (startLines a p) := by
  cases hdry : a.has .dryRun with
  | true => simp only [showStart, startLines, hdry, if_true, List.cons_append, List.nil_append,
      printAll, bind_pure_unit]
  | false => simp only [showStart, startLines, hdry, Bool.false_eq_true, if_false,
      List.append_nil, printAll]

theorem printAll_append (first rest : List String) :
    (printAll (first ++ rest) : Program m Unit) = (do
      printAll first
      printAll rest) := by
  induction first with
  | nil => exact (pure_bind (m := Program m) () fun _ => printAll rest).symm
  | cons line first ih => simp only [List.cons_append, printAll, ih, bind_assoc]

theorem printFiles_eq (label : String) (names : List String) :
    (printFiles label names : Program m Unit) = printAll (fileLines label names) := by
  cases hnames : names.isEmpty with
  | true => simp only [printFiles, fileLines, hnames, Bool.not_true, Bool.false_eq_true, if_false,
      if_true, printAll]
  | false => simp only [printFiles, fileLines, hnames, Bool.not_false, Bool.false_eq_true,
      if_false, if_true, printAll, bind_pure_unit]

theorem printChanges_eq (config : Config) (report : RunReport) :
    (printChanges config report : Program m Unit) = (do
      printAll (changeLines config report)
      printPackage report.paths config.outputPath) := by
  simp only [printChanges, changeLines, printFiles_eq, printAll_append, printAll, bind_assoc,
    pure_bind]

theorem showReport_eq (a : Arguments) (config : Config) (report : RunReport) :
    (showReport a config report : Program m Unit) = (do
      printAll [summary (a.has .dryRun) report]
      if a.has .verbose || a.has .dryRun then
        printAll (changeLines config report)
        printPackage report.paths config.outputPath
      else return ()) := by
  simp only [showReport, printChanges_eq, printAll, bind_assoc, pure_bind]

end

/-- Why a run of the command that has read its configuration ends with a failure that is not
reported. -/
inductive GenerateEscape [Host] (a : Arguments) (config : Config) (p : Path) (t : FileTree) :
    Prop where
  /-- The path of the configuration cannot be shown. -/
  | start (h : ¬CanShow (startLines a p))
  | run (h : config.RunEscape (a.has .debug) (a.has .dryRun) (a.has .verbose) t)
  /-- The names of changed or removed files cannot be shown. -/
  | changes {report : RunReport} (hasked : (a.has .verbose || a.has .dryRun) = true)
      (hreport : config.result (a.has .dryRun) (a.has .verbose) t = .ok report)
      (h : ¬CanShow (changeLines config report))
  /-- The tree of the written files cannot be shown. -/
  | package {report : RunReport} (hasked : (a.has .verbose || a.has .dryRun) = true)
      (hreport : config.result (a.has .dryRun) (a.has .verbose) t = .ok report)
      (h : ∀ text, Console.renderTree ("[bold]" ++ config.outputPath.name ++ "/[/bold]")
        ((listedNames report.paths config.outputPath).map fileLabel) ≠ .ok text)

section

variable [Host]

theorem isPlain_version {config : Config} {verbose : Bool} {schema : Schema}
    (h : outcome (config.loadSchema verbose : Program (StateM FileTree) Schema) t = .ok schema) :
    Markup.IsPlain schema.version.toList := by
  obtain ⟨version, hversion⟩ := Config.exists_version_of_loadSchema h
  rw [hversion]
  cases version <;> decide

/-- The line on what a run has done can be shown. -/
theorem canShow_summary (dryRun : Bool) {report : RunReport}
    (h : Markup.IsPlain report.schema.version.toList) : CanShow [summary dryRun report] := by
  have hopening : "\n[bold green]".toList =
      "\n".toList ++ '[' :: ("bold green".toList ++ ']' :: []) := by
    decide
  have hmiddle : " files[/bold green] [dim](protocol ".toList =
      " files".toList ++ '[' :: '/' :: ("bold green".toList ++ ']' ::
        (" ".toList ++ '[' :: ("dim".toList ++ ']' :: "(protocol ".toList))) := by
    decide
  have hclosing : " commands)[/dim]".toList =
      " commands)".toList ++ '[' :: '/' :: ("dim".toList ++ ']' :: []) := by
    decide
  have hverb : Markup.IsPlain (if dryRun then "Would generate" else "Generated").toList := by
    cases dryRun <;> decide
  let files := (if dryRun then "Would generate" else "Generated").toList ++ (" ".toList ++
    ((toString report.statistics.files).toList ++ " files".toList))
  let counted := "(protocol ".toList ++ (report.schema.version.toList ++ (": ".toList ++
    ((toString report.statistics.domains).toList ++ (" domains, ".toList ++
      ((toString report.statistics.types).toList ++ (" types, ".toList ++
        ((toString report.statistics.commands).toList ++ " commands)".toList)))))))
  have hline : (summary dryRun report).toList =
      "\n".toList ++ '[' :: ("bold green".toList ++ ']' :: (files ++ '[' :: '/' ::
        ("bold green".toList ++ ']' :: (" ".toList ++ '[' :: ("dim".toList ++ ']' ::
          (counted ++ '[' :: '/' :: ("dim".toList ++ ']' :: []))))))) := by
    delta summary
    simp only [String.toList_append]
    rw [hopening, hmiddle, hclosing]
    simp only [files, counted, List.append_assoc, List.cons_append, List.nil_append]
  have hfiles : Markup.IsPlain files :=
    hverb.append (.append (by decide) ((Markup.isPlain_toString _).append (by decide)))
  have hcounted : Markup.IsPlain counted :=
    .append (by decide) (h.append (.append (by decide) ((Markup.isPlain_toString _).append
      (.append (by decide) ((Markup.isPlain_toString _).append (.append (by decide)
        ((Markup.isPlain_toString _).append (by decide))))))))
  refine List.forall_mem_singleton.2 (Console.exists_render_eq_ok ?_)
  rw [hline]
  exact .tagged (by decide) (by decide) hfiles (.tagged (by decide) (by decide)
    hcounted (.text (by simp)))

theorem isReading_printPackage (paths : List Path) (output : Path) :
    IsReading (printPackage paths output : Program (StateM FileTree) Unit) :=
  (isReading_ofExcept .markup _).bind isReading_write

theorem outcome_printPackage (paths : List Path) (output : Path) (t : FileTree) :
    outcome (printPackage paths output : Program (StateM FileTree) Unit) t =
      ((Console.renderTree ("[bold]" ++ output.name ++ "/[/bold]")
        ((listedNames paths output).map fileLabel)).mapError .markup).map fun _ => () := by
  rw [printPackage, Program.printTree, shown, outcome_bind (isReading_ofExcept _ _) isReading_write,
    outcome_ofExcept]
  cases Console.renderTree ("[bold]" ++ output.name ++ "/[/bold]")
    ((listedNames paths output).map fileLabel) with
  | error fault => rfl
  | ok text => rfl

theorem failsWith_printChanges_iff {config : Config} {report : RunReport} :
    FailsWith (fun failure => ¬failure.IsHalfPair)
        (outcome (printAll (changeLines config report) >>= fun _ =>
          printPackage report.paths config.outputPath : Program (StateM FileTree) Unit) t) ↔
      ¬CanShow (changeLines config report) ∨
        ∀ text, Console.renderTree ("[bold]" ++ config.outputPath.name ++ "/[/bold]")
          ((listedNames report.paths config.outputPath).map fileLabel) ≠ .ok text := by
  rw [outcome_bind (Config.isReading_printAll _) fun _ => isReading_printPackage _ _,
    failsWith_bind_iff, Config.failsWith_printAll fun _ => id, outcome_printPackage]
  by_cases hchanges : CanShow (changeLines config report)
  · rw [Config.outcome_printAll_of_canShow hchanges]
    refine or_congr_right ?_
    cases Console.renderTree ("[bold]" ++ config.outputPath.name ++ "/[/bold]")
      ((listedNames report.paths config.outputPath).map fileLabel) with
    | error fault => exact iff_of_true ⟨(), rfl, _, rfl, id⟩ (by simp)
    | ok text =>
      refine iff_of_false ?_ (by simp)
      rintro ⟨_, -, hend⟩
      exact not_failsWith_ok hend
  · exact iff_of_true (Or.inl hchanges) (Or.inl hchanges)

theorem isReading_showReport (a : Arguments) (config : Config) (report : RunReport) :
    IsReading (showReport a config report : Program (StateM FileTree) Unit) := by
  rw [showReport_eq]
  refine (Config.isReading_printAll _).bind fun _ => ?_
  split
  · exact (Config.isReading_printAll _).bind fun _ => isReading_printPackage _ _
  · exact isReading_pure ()

/-- The lines behind a run cannot be shown if those on its changes are asked for and cannot be
shown. -/
theorem escapes_showReport_iff {a : Arguments} {config : Config} {report : RunReport}
    (h : CanShow [summary (a.has .dryRun) report]) :
    Escapes (Command.run (showReport a config report) : Command (StateM FileTree) Unit) t ↔
      (a.has .verbose || a.has .dryRun) = true ∧ (¬CanShow (changeLines config report) ∨
        ∀ text, Console.renderTree ("[bold]" ++ config.outputPath.name ++ "/[/bold]")
          ((listedNames report.paths config.outputPath).map fileLabel) ≠ .ok text) := by
  have hreport := unmoved_of_isReading (isReading_showReport a config report)
  rw [escapes_run_iff hreport.1, (hreport.2 t).1, showReport_eq]
  by_cases hasked : (a.has .verbose || a.has .dryRun) = true
  · simp only [if_pos hasked]
    rw [outcome_bind (Config.isReading_printAll _) fun _ =>
      (Config.isReading_printAll _).bind fun _ => isReading_printPackage _ _,
      Config.outcome_printAll_of_canShow h]
    exact failsWith_printChanges_iff.trans (and_iff_right hasked).symm
  · simp only [if_neg hasked]
    rw [outcome_bind (Config.isReading_printAll _) fun _ => isReading_pure (),
      Config.outcome_printAll_of_canShow h]
    exact iff_of_false not_failsWith_ok fun hboth => hasked hboth.1

theorem isPlain_version_of_result {config : Config} {dryRun verbose : Bool} {report : RunReport}
    (h : config.result dryRun verbose t = .ok report) :
    Markup.IsPlain report.schema.version.toList := by
  cases dryRun with
  | true =>
    rw [Config.result_dry] at h
    obtain ⟨⟨schema, g, previous⟩, hprepare, hreport⟩ := Results.bind_eq_ok_iff.1 h
    obtain rfl := Except.ok.inj hreport
    exact isPlain_version (Config.of_outcome_prepare_eq_ok hprepare).1
  | false =>
    rw [Config.result_real] at h
    obtain ⟨⟨schema, g, previous⟩, hprepare, h⟩ := Results.bind_eq_ok_iff.1 h
    obtain ⟨paths, -, hreport⟩ := Results.bind_eq_ok_iff.1 h
    obtain rfl := Except.ok.inj hreport
    exact isPlain_version (Config.of_outcome_prepare_eq_ok hprepare).1

theorem unmoved_generateWith (a : Arguments) (config : Config) (p : Path) :
    IsUnmoved (generateWith a config p : Command (StateM FileTree) Unit) ∧ ∀ t,
      (Escapes (generateWith a config p : Command (StateM FileTree) Unit) t ↔
        GenerateEscape a config p t) := by
  have hstart := unmoved_printAll (startLines a p)
  have hrun := Config.unmoved_generate config (a.has .dryRun) (a.has .verbose)
  have hreport := unmoved_reporting (a.has .debug) runLabel? hrun
  have hshow (report : RunReport) := (unmoved_run
    (unmoved_of_isReading (isReading_showReport a config report)).1).1
  have hafter := hreport.1.bind hshow
  unfold generateWith
  rw [showStart_eq]
  refine ⟨hstart.1.bind fun _ => hafter, fun t => ?_⟩
  rw [escapes_bind_iff hstart.1 fun _ => hafter, escapes_printAll_iff, hstart.2]
  have hreported : Escapes (Command.reporting (a.has .debug) runLabel?
        (config.generate (a.has .dryRun) (a.has .verbose)) >>= fun report =>
          Command.run (showReport a config report)) t ↔
      config.RunEscape (a.has .debug) (a.has .dryRun) (a.has .verbose) t ∨ ∃ report,
        config.result (a.has .dryRun) (a.has .verbose) t = .ok report ∧
          (a.has .verbose || a.has .dryRun) = true ∧ (¬CanShow (changeLines config report) ∨
            ∀ text, Console.renderTree ("[bold]" ++ config.outputPath.name ++ "/[/bold]")
              ((listedNames report.paths config.outputPath).map fileLabel) ≠ .ok text) := by
    rw [escapes_bind_iff hreport.1 hshow,
      escapes_reporting_iff leavesHalfPairs_runLabel? hrun, Config.result_generate,
      Config.runEscape_iff]
    refine or_congr_right (exists_congr fun report => ?_)
    rw [result_reporting_eq_ok_iff hrun, Config.result_generate]
    refine and_congr_right fun hresult => ?_
    exact escapes_showReport_iff (canShow_summary _ (isPlain_version_of_result hresult))
  rw [hreported]
  constructor
  · rintro (hnot | ⟨_, -, hrunEscape | ⟨report, hresult, hasked, hchanges | hpackage⟩⟩)
    · exact .start hnot
    · exact .run hrunEscape
    · exact .changes hasked hresult hchanges
    · exact .package hasked hresult hpackage
  · intro h
    by_cases hlines : CanShow (startLines a p)
    · refine Or.inr ⟨(), result_printAll_eq_ok_iff.2 hlines, ?_⟩
      rcases h with hnot | hrunEscape | ⟨hasked, hresult, hchanges⟩ | ⟨hasked, hresult, hpackage⟩
      · exact absurd hlines hnot
      · exact Or.inl hrunEscape
      · exact Or.inr ⟨_, hresult, hasked, Or.inl hchanges⟩
      · exact Or.inr ⟨_, hresult, hasked, Or.inr hpackage⟩
    · exact Or.inl hlines

/-! ## The command that validates -/

/-- Why a validation that has read its configuration ends with a failure that is not reported. -/
inductive ValidateEscape (debug : Bool) (config : Config) (p : Path) (t : FileTree) : Prop where
  /-- The path of the configuration cannot be shown. -/
  | start (h : ¬CanShow ["[green]Config valid:[/green] " ++ p.text])
  | check (h : config.CheckEscape debug t)

/-- The lines behind a validation. -/
def countLines (schema : Schema) : List String :=
  ["[green]Generation valid:[/green] " ++ toString (Statistics.ofSchema schema).types ++
      " types, " ++ toString (Statistics.ofSchema schema).commands ++ " commands",
    "\n[bold green]All validations passed[/bold green]"]

theorem showCounts_eq {m : Type → Type} [Monad m] [LawfulMonad m] (schema : Schema) :
    (showCounts schema : Program m Unit) = printAll (countLines schema) := by
  simp only [showCounts, countLines, printAll, bind_pure_unit]

theorem canShow_countLines (schema : Schema) : CanShow (countLines schema) := by
  have hfront : "[green]Generation valid:[/green] ".toList =
      [] ++ '[' :: ("green".toList ++ ']' :: ("Generation valid:".toList ++
        '[' :: '/' :: ("green".toList ++ ']' :: " ".toList))) := by
    decide
  have hlast : "\n[bold green]All validations passed[/bold green]".toList =
      "\n".toList ++ '[' :: ("bold green".toList ++ ']' :: ("All validations passed".toList ++
        '[' :: '/' :: ("bold green".toList ++ ']' :: []))) := by
    decide
  refine List.forall_mem_cons.2 ⟨Console.exists_render_eq_ok ?_,
    List.forall_mem_singleton.2 (Console.exists_render_eq_ok ?_)⟩
  · simp only [String.toList_append]
    rw [hfront]
    simp only [List.append_assoc, List.cons_append]
    refine .tagged (by decide) (by decide) (by decide) (Markup.IsPlain.isPaired ?_)
    exact .append (by decide) ((Markup.isPlain_toString _).append (.append (by decide)
      ((Markup.isPlain_toString _).append (by decide))))
  · rw [hlast]
    exact .tagged (by decide) (by decide) (by decide) (.text (by simp))

theorem unmoved_validateWith (debug : Bool) (config : Config) (p : Path) :
    IsUnmoved (validateWith debug config p : Command (StateM FileTree) Unit) ∧ ∀ t,
      (Escapes (validateWith debug config p : Command (StateM FileTree) Unit) t ↔
        ValidateEscape debug config p t) := by
  have hstart := unmoved_printAll ["[green]Config valid:[/green] " ++ p.text]
  have hcheck := unmoved_of_isReading (Config.isReading_checkProtocol config)
  have hreport := unmoved_reporting debug runLabel? hcheck.1
  have hcounts (schema : Schema) := unmoved_printAll (countLines schema)
  have hafter := hreport.1.bind fun schema => (hcounts schema).1
  have hline : (Program.print ("[green]Config valid:[/green] " ++ p.text) :
      Program (StateM FileTree) Unit) =
        printAll ["[green]Config valid:[/green] " ++ p.text] := by
    simp only [printAll, bind_pure_unit]
  unfold validateWith
  rw [hline]
  simp only [showCounts_eq]
  refine ⟨hstart.1.bind fun _ => hafter, fun t => ?_⟩
  have hreported : Escapes (Command.reporting debug runLabel? (checkProtocol config) >>=
      fun schema => Command.run (printAll (countLines schema))) t ↔
        config.CheckEscape debug t := by
    rw [escapes_bind_iff hreport.1 fun schema => (hcounts schema).1,
      escapes_reporting_iff leavesHalfPairs_runLabel? hcheck.1, (hcheck.2 t).1,
      Config.checkEscape_iff]
    refine or_iff_left ?_
    rintro ⟨schema, -, hlines⟩
    exact escapes_printAll_iff.1 hlines (canShow_countLines schema)
  rw [escapes_bind_iff hstart.1 fun _ => hafter, escapes_printAll_iff, hstart.2, hreported]
  constructor
  · rintro (hnot | ⟨_, -, hcheckEscape⟩)
    · exact .start hnot
    · exact .check hcheckEscape
  · intro h
    by_cases hshow : CanShow ["[green]Config valid:[/green] " ++ p.text]
    · refine Or.inr ⟨(), result_printAll_eq_ok_iff.2 hshow, ?_⟩
      rcases h with hnot | hcheckEscape
      · exact absurd hshow hnot
      · exact hcheckEscape
    · exact Or.inl hshow

/-! ## The program -/

/-- Why a command that works on a configuration ends with a failure that is not reported, where
`after` says so of what it does with the configuration. -/
inductive CommandEscape (form : CommandForm) (environment : Option String) (args : List String)
    (t : FileTree) (after : Arguments → Config → Path → Prop) : Prop where
  /-- The search for a configuration file has failed. -/
  | search {a : Arguments} {named : Option Path} {e : FileError}
      (hstart : Starts form args t a named) (h : chosenConfig t named = .error e)
  | config {a : Arguments} {named : Option Path} {p : Path} (hstart : Starts form args t a named)
      (hchosen : chosenConfig t named = .ok (some p))
      (h : Config.ReadEscape (a.has .debug) environment t p)
  | after {a : Arguments} {named : Option Path} {p : Path} {written : Config}
      (hstart : Starts form args t a named) (hchosen : chosenConfig t named = .ok (some p))
      (hwritten : Config.fileAt environment t p = .ok written)
      (h : after a ((written.within p.parent).withVersion (a.value? .protocolVersion)) p)

/-- What the program does when it is started with some arguments. -/
def outcomeOf (environment : Option String) (args : List String) (t : FileTree) : Outcome :=
  ((run environment args : StateM FileTree Outcome).run t).1

theorem isReported_command_iff (form : CommandForm) (environment : Option String)
    (args : List String) {body : Arguments → Config → Path → Command (StateM FileTree) Unit}
    {after : Arguments → Config → Path → Prop}
    (hbody : ∀ a config p, IsUnmoved (body a config p) ∧
      (Escapes (body a config p) t ↔ after a config p)) :
    let o := ((Command.outcome form
      (Command.withArguments form args (pathArgument configForm "Path" true) fun a named => do
        let loaded ← loadConfig (a.has .debug) environment named (a.value? .protocolVersion)
        body a loaded.1 loaded.2)).run t).1
    ¬o.EndsAtHalfPair → (o.IsReported ↔ ¬CommandEscape form environment args t after) := by
  intro o hpairs
  have hload (a : Arguments) (named : Option Path) :=
    unmoved_loadConfig (a.has .debug) environment named (a.value? .protocolVersion)
  have hafter (a : Arguments) (loaded : Config × Path) : IsUnmoved (body a loaded.1 loaded.2) :=
    (hbody a loaded.1 loaded.2).1
  rw [isReported_outcome_iff _ _ hpairs, escapes_withArguments_iff form args fun a named =>
    (hload a named).1.bind (hafter a), not_iff_not]
  simp only [escapes_bind_iff (hload _ _).1 (hafter _), escapes_loadConfig_iff, Prod.exists,
    result_loadConfig_eq_ok_iff, ((hload _ _).2 t).1, (hbody _ _ _).2]
  constructor
  · rintro ⟨a, named, hstart, (⟨e, hsearch⟩ | ⟨p, hchosen, hread⟩) |
      ⟨config, p, ⟨hchosen, written, hwritten, rfl⟩, hescape⟩⟩
    · exact .search hstart hsearch
    · exact .config hstart hchosen hread
    · exact .after hstart hchosen hwritten hescape
  · rintro (⟨hstart, hsearch⟩ | ⟨hstart, hchosen, hread⟩ | ⟨hstart, hchosen, hwritten, hescape⟩)
    · exact ⟨_, _, hstart, Or.inl (Or.inl ⟨_, hsearch⟩)⟩
    · exact ⟨_, _, hstart, Or.inl (Or.inr ⟨_, hchosen, hread⟩)⟩
    · exact ⟨_, _, hstart, Or.inr ⟨_, _, ⟨hchosen, _, hwritten, rfl⟩, hescape⟩⟩

end

def directoryTree : FileTree where
  entries := [(["d"], .directory)]

/-- The problem with a file that has ended the program without a report. -/
def Outcome.fileProblem? (o : Outcome) : Option FileProblem :=
  match o.escaped with
  | some (.file e) => some e.problem
  | _ => none

theorem fileProblem?_directory :
    (outcomeOf none ["generate", "-c", "d"] directoryTree).fileProblem? = some .isADirectory ∧
      (outcomeOf none ["validate", "-c", "d"] directoryTree).fileProblem? =
        some .isADirectory := by
  decide

end CommandLine

end ProtocolBindings
