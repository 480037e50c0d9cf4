import ProtocolBindings.Proofs.CommandLine.Start
import ProtocolBindings.Proofs.Config.Failures
import ProtocolBindings.Proofs.Generation.Unlabelled

/-!
# Loading the configuration of a command

A command takes the configuration file that was named, or the nearest one.  It ends with a failure
that is not reported if the search fails or if the file cannot be read for such a reason.
-/

namespace ProtocolBindings

open Program OnTree

namespace CommandLine

open CommandLine.Command
open Config (CanShow printAll)

variable {environment : Option String} {t : FileTree} {named : Option Path} {p : Path}
  {version : Option String} {debug : Bool}

/-! ## The configuration file -/

/-- The configuration file of a command: the one that was named, or the nearest one, if there is
one. -/
def chosenConfig (t : FileTree) (named : Option Path) : Except FileError (Option Path) :=
  match named with
  | some p => .ok (some p)
  | none => configFrom t t.current

/-- Looking for a file among some paths leaves the tree as it is, and it does not fail because
nothing is found. -/
theorem exists_run_firstFile (paths : List Path) (t : FileTree) : ∃ r,
    (Config.firstFile paths : ExceptT FileError (StateM FileTree) _).run.run t = (r, t) ∧
      ∀ e, r = .error e → e.problem ≠ .notFound ∧ e.problem ≠ .beyond .pairs := by
  induction paths with
  | nil => exact ⟨_, rfl, by rintro e ⟨⟩⟩
  | cons p rest ih =>
    rw [Config.firstFile, run_bind, Files.isFile, run_bind, FileTree.run_kindOf?]
    cases hkind : t.kindAt? p with
    | error e =>
      refine ⟨_, rfl, ?_⟩
      rintro _ ⟨⟩
      exact ⟨Files.problem_of_kindAt?_eq_error hkind, FileTree.problem_ne_beyond_of_kindAt? hkind _⟩
    | ok kind =>
      change ∃ r, (if (kind == some EntryKind.file) = true then _ else _ :
        ExceptT FileError (StateM FileTree) _).run.run t = (r, t) ∧ _
      split
      · exact ⟨_, rfl, by rintro e ⟨⟩⟩
      · exact ih

theorem exists_run_find? (t : FileTree) : ∃ r,
    (Config.find? none : ExceptT FileError (StateM FileTree) _).run.run t = (r, t) ∧
      ∀ e, r = .error e → e.problem ≠ .notFound ∧ e.problem ≠ .beyond .pairs := by
  have hcurrent : (Files.currentDirectory :
      ExceptT FileError (StateM FileTree) Path).run.run t = (.ok ⟨.top, t.current⟩, t) := rfl
  rw [Config.find?, run_bind, hcurrent]
  simp only [Option.getD_none]
  split
  · refine ⟨_, rfl, ?_⟩
    rintro e ⟨⟩
    simp
  · exact exists_run_firstFile _ t

theorem isReading_find? : IsReading (Program.files (Config.find? none) :
    Program (StateM FileTree) (Option Path)) := by
  apply isReading_files
  intro t
  obtain ⟨r, hrun, -⟩ := exists_run_find? t
  rw [hrun]

theorem problem_of_configFrom {e : FileError} (h : configFrom t t.current = .error e) :
    e.problem ≠ .notFound ∧ e.problem ≠ .beyond .pairs := by
  obtain ⟨r, hrun, hother⟩ := exists_run_find? t
  have hr : r = .error e := by
    rw [← h]
    exact (congrArg Prod.fst hrun).symm
  exact hother e hr

theorem problem_of_chosenConfig {e : FileError} (h : chosenConfig t named = .error e) :
    e.problem ≠ .notFound ∧ e.problem ≠ .beyond .pairs := by
  cases named with
  | some p => cases h
  | none => exact problem_of_configFrom h

/-- The search for a configuration file fails for reasons that have no label. -/
theorem configLabel?_of_configFrom {e : FileError} (h : configFrom t t.current = .error e) :
    configLabel? (.file e) = none := by
  simp [configLabel?, (problem_of_configFrom h).1]

theorem outcome_find? (t : FileTree) :
    outcome (Program.files (Config.find? none)) t = (configFrom t t.current).mapError .file :=
  outcome_files (fun t => by obtain ⟨r, hrun, -⟩ := exists_run_find? t; rw [hrun]) t

/-- How a command goes on with the search for its configuration file. -/
def pathOf : Except FileError (Option Path) → Except Stop Path
  | .ok (some p) => .ok p
  | .ok none => .error (.reported "Config file not found")
  | .error e => .error (.escaped (.file e))

theorem pathOf_eq_ok_iff {found : Except FileError (Option Path)} :
    pathOf found = .ok p ↔ found = .ok (some p) := by
  rcases found with e | _ | q <;> simp [pathOf]

/-! ## Lines -/

variable [Host]

theorem unmoved_printAll (lines : List String) :
    IsUnmoved (Command.run (printAll lines) : Command (StateM FileTree) Unit) ∧ ∀ t,
      treeAfter (Command.run (printAll lines) : Command (StateM FileTree) Unit) t = t := by
  have hprint := unmoved_of_isReading (Config.isReading_printAll lines)
  refine ⟨(unmoved_run hprint.1).1, fun t => ?_⟩
  rw [((unmoved_run hprint.1).2 t).2, (hprint.2 t).2]

theorem result_printAll_eq_ok_iff {lines : List String} :
    result (Command.run (printAll lines) : Command (StateM FileTree) Unit) t = .ok () ↔
      CanShow lines := by
  have hprint := unmoved_of_isReading (Config.isReading_printAll lines)
  rw [((unmoved_run hprint.1).2 t).1, (hprint.2 t).1, Results.mapError_eq_ok_iff]
  by_cases hshow : CanShow lines
  · exact iff_of_true (Config.outcome_printAll_of_canShow hshow t) hshow
  · obtain ⟨fault, hfault⟩ := Config.outcome_printAll_of_not_canShow hshow t
    rw [hfault]
    exact iff_of_false (by simp) hshow

theorem escapes_printAll_iff {lines : List String} :
    Escapes (Command.run (printAll lines) : Command (StateM FileTree) Unit) t ↔
      ¬CanShow lines := by
  have hprint := unmoved_of_isReading (Config.isReading_printAll lines)
  rw [escapes_run_iff hprint.1, (hprint.2 t).1]
  exact Config.failsWith_printAll fun _ => id

theorem canShow_of_all {lines : List String}
    (h : lines.all (fun line => (Console.render line).isOk) = true) : CanShow lines :=
  fun line hline => Results.isOk_eq_true_iff.1 (List.all_eq_true.1 h line hline)

/-- The lines on how to begin where no configuration file was found. -/
def sampleLines : List String :=
  ["[red]No cri.yml found[/red]", "\nCreate a cri.yml file:", sampleConfig]

theorem canShow_sampleLines : CanShow sampleLines := by
  have hfront : "[red]No cri.yml found[/red]".toList =
      [] ++ '[' :: ("red".toList ++ ']' :: ("No cri.yml found".toList ++
        '[' :: '/' :: ("red".toList ++ ']' :: []))) := by
    decide
  have hsample : sampleConfig.toList =
      "\n".toList ++ '[' :: ("dim".toList ++ ']' ::
        ("protocol_dir: ./priv\noutput: ./chrome_remote_interface/rpc\n".toList ++
          "package: chrome_remote_interface.rpc".toList ++
            '[' :: '/' :: ("dim".toList ++ ']' :: "\n".toList))) := by
    decide +kernel
  refine List.forall_mem_cons.2 ⟨Console.exists_render_eq_ok ?_, List.forall_mem_cons.2
    ⟨Console.exists_render_eq_ok (.text (by decide)),
      List.forall_mem_singleton.2 (Console.exists_render_eq_ok ?_)⟩⟩
  · rw [hfront]
    exact .tagged (by decide) (by decide) (by decide) (.text (by simp))
  · rw [hsample]
    exact .tagged (by decide) (by decide) (by decide) (.text (by decide))

theorem missingConfig_eq {m : Type → Type} [Monad m] [LawfulMonad m] {α : Type} :
    (missingConfig : Command m α) = (do
      Command.run (printAll sampleLines)
      throw (.reported "Config file not found")) := by
  simp only [missingConfig, sampleLines, printAll, bind_pure_unit]

/-! ## Loading a configuration -/

theorem unmoved_missingConfig : IsUnmoved (missingConfig : Command (StateM FileTree) Path) ∧
    ∀ t, treeAfter (missingConfig : Command (StateM FileTree) Path) t = t ∧
      result (missingConfig : Command (StateM FileTree) Path) t = pathOf (.ok none) := by
  have hlines := unmoved_printAll sampleLines
  rw [missingConfig_eq]
  refine ⟨hlines.1.bind fun _ => isUnmoved_throw _, fun t => ⟨?_, ?_⟩⟩
  · exact treeAfter_bind hlines.1 (fun _ => isUnmoved_throw _) (hlines.2 t) fun _ => rfl
  · rw [result_bind hlines.1 fun _ => isUnmoved_throw _,
      result_printAll_eq_ok_iff.2 canShow_sampleLines]
    rfl

/-- The file that the search has found, if it has found one. -/
def foundConfig {m : Type → Type} [Monad m] : Option Path → Command m Path
  | some p => pure p
  | none => missingConfig

theorem configPath_none {m : Type → Type} [Monad m] [LawfulMonad m] [FileSystem m] (debug : Bool) :
    (configPath debug none : Command m Path) =
      Command.reporting debug configLabel? (Program.files (Config.find? none)) >>=
        foundConfig := by
  refine bind_congr fun found => ?_
  cases found with
  | none => rfl
  | some p => rfl

theorem unmoved_foundConfig (found : Option Path) :
    IsUnmoved (foundConfig found : Command (StateM FileTree) Path) ∧ ∀ t,
      treeAfter (foundConfig found : Command (StateM FileTree) Path) t = t ∧
        result (foundConfig found : Command (StateM FileTree) Path) t = pathOf (.ok found) := by
  cases found with
  | none => exact unmoved_missingConfig
  | some p => exact ⟨isUnmoved_pure p, fun t => ⟨rfl, rfl⟩⟩

theorem unmoved_configPath (debug : Bool) (named : Option Path) :
    IsUnmoved (configPath debug named : Command (StateM FileTree) Path) ∧ ∀ t,
      treeAfter (configPath debug named : Command (StateM FileTree) Path) t = t ∧
        result (configPath debug named : Command (StateM FileTree) Path) t =
          pathOf (chosenConfig t named) := by
  cases named with
  | some p => exact ⟨isUnmoved_pure p, fun t => ⟨rfl, rfl⟩⟩
  | none =>
    have hsearch := unmoved_of_isReading isReading_find?
    have hreport := unmoved_reporting debug configLabel? hsearch.1
    have hfound (found : Option Path) := (unmoved_foundConfig found).1
    have htree (t : FileTree) : treeAfter (Command.reporting debug configLabel?
        (Program.files (Config.find? none)) : Command (StateM FileTree) _) t = t := by
      rw [(hreport.2 t).2, (hsearch.2 t).2]
    rw [configPath_none]
    refine ⟨hreport.1.bind hfound, fun t => ⟨?_, ?_⟩⟩
    · exact treeAfter_bind hreport.1 hfound (htree t) fun found =>
        ((unmoved_foundConfig found).2 t).1
    · rw [result_bind hreport.1 hfound, htree, (hreport.2 t).1, (hsearch.2 t).1, outcome_find?,
        chosenConfig]
      cases hsearched : configFrom t t.current with
      | error e =>
        have hstop : stopOf debug configLabel? (.file e) = .escaped (.file e) := by
          rw [stopOf, configLabel?_of_configFrom hsearched]
        exact congrArg Except.error hstop
      | ok found => exact ((unmoved_foundConfig found).2 t).2

/-- The configuration of a command, as it is written in its file. -/
theorem unmoved_loadConfig (debug : Bool) (environment : Option String) (named : Option Path)
    (version : Option String) :
    IsUnmoved (loadConfig debug environment named version : Command (StateM FileTree) _) ∧ ∀ t,
      treeAfter (loadConfig debug environment named version : Command (StateM FileTree) _) t = t ∧
        result (loadConfig debug environment named version : Command (StateM FileTree) _) t =
          pathOf (chosenConfig t named) >>= fun p =>
            ((Config.fileAt environment t p).mapError (stopOf debug configLabel?)).map fun config =>
              ((config.within p.parent).withVersion version, p) := by
  have hloaded (p : Path) : IsUnmoved (loadConfig debug environment (some p) version :
      Command (StateM FileTree) _) ∧ ∀ t,
      treeAfter (loadConfig debug environment (some p) version :
          Command (StateM FileTree) _) t = t ∧
        result (loadConfig debug environment (some p) version : Command (StateM FileTree) _) t =
          ((Config.fileAt environment t p).mapError (stopOf debug configLabel?)).map fun config =>
            ((config.within p.parent).withVersion version, p) := by
    have hread := unmoved_of_isReading (Config.isReading_written environment p).1
    have hreport := unmoved_reporting debug configLabel? hread.1
    have hmap := unmoved_map (fun config : Config =>
      ((config.within p.parent).withVersion version, p)) hreport.1
    rw [loadConfig_some]
    refine ⟨hmap.1, fun t => ⟨?_, ?_⟩⟩
    · rw [(hmap.2 t).2, (hreport.2 t).2, (hread.2 t).2]
    · rw [(hmap.2 t).1, (hreport.2 t).1, (hread.2 t).1, (Config.isReading_written environment p).2]
  have hpath := unmoved_configPath debug named
  have hbind : (loadConfig debug environment named version : Command (StateM FileTree) _) =
      configPath debug named >>= fun p => loadConfig debug environment (some p) version := by
    cases named with
    | some p =>
      exact (pure_bind (m := Command (StateM FileTree)) p fun p =>
        loadConfig debug environment (some p) version).symm
    | none => exact loadConfig_none debug environment version
  rw [hbind]
  refine ⟨hpath.1.bind fun p => (hloaded p).1, fun t => ⟨?_, ?_⟩⟩
  · exact treeAfter_bind hpath.1 (fun p => (hloaded p).1) (hpath.2 t).1 fun p =>
      ((hloaded p).2 t).1
  · rw [result_bind hpath.1 fun p => (hloaded p).1, (hpath.2 t).1, (hpath.2 t).2]
    exact bind_congr fun p => ((hloaded p).2 t).2

theorem result_loadConfig_eq_ok_iff {config : Config} :
    result (loadConfig debug environment named version : Command (StateM FileTree) _) t =
        .ok (config, p) ↔
      chosenConfig t named = .ok (some p) ∧ ∃ written,
        Config.fileAt environment t p = .ok written ∧
          config = (written.within p.parent).withVersion version := by
  rw [((unmoved_loadConfig debug environment named version).2 t).2, Results.bind_eq_ok_iff]
  simp only [pathOf_eq_ok_iff, Results.map_eq_ok_iff, Results.mapError_eq_ok_iff]
  constructor
  · rintro ⟨p', hchosen, written, hwritten, heq⟩
    obtain ⟨rfl, rfl⟩ := Prod.mk.inj heq
    exact ⟨hchosen, written, hwritten, rfl⟩
  · rintro ⟨hchosen, written, hwritten, rfl⟩
    exact ⟨p, hchosen, written, hwritten, rfl⟩

theorem escapes_loadConfig_iff :
    Escapes (loadConfig debug environment named version : Command (StateM FileTree) _) t ↔
      (∃ e, chosenConfig t named = .error e) ∨
        ∃ p, chosenConfig t named = .ok (some p) ∧ Config.ReadEscape debug environment t p := by
  have hread {p : Path} : (∃ failure, ((Config.fileAt environment t p).mapError
      (stopOf debug configLabel?)).map (fun config =>
        ((config.within p.parent).withVersion version, p)) = .error (.escaped failure) ∧
          ¬failure.IsHalfPair) ↔
      Config.ReadEscape debug environment t p := by
    simp only [← Config.readEscape_iff, Results.map_eq_error_iff,
      exists_mapError_stopOf_iff leavesHalfPairs_configLabel?]
  rw [Escapes, ((unmoved_loadConfig debug environment named version).2 t).2]
  rcases hchosen : chosenConfig t named with e | _ | p
  · exact iff_of_true ⟨_, rfl, (problem_of_chosenConfig hchosen).2⟩ (Or.inl ⟨e, rfl⟩)
  · refine iff_of_false ?_ ?_
    · rintro ⟨failure, ⟨⟩, -⟩
    · rintro (⟨e, ⟨⟩⟩ | ⟨p, ⟨⟩, -⟩)
  · refine hread.trans ?_
    constructor
    · exact fun h => Or.inr ⟨p, rfl, h⟩
    · rintro (⟨e, ⟨⟩⟩ | ⟨p', hp', h⟩)
      obtain rfl := Option.some.inj (Except.ok.inj hp')
      exact h

end CommandLine

end ProtocolBindings
