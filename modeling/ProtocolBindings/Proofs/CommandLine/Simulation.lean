import ProtocolBindings.Proofs.CommandLine.Stages
import ProtocolBindings.Proofs.Simulation

/-!
# Commands on two file systems

A command does the same on two file systems whose operations correspond for the paths that it uses.
Which paths these are depends on its configuration: relative paths in it start from where the
configuration's file is.
-/

namespace ProtocolBindings

open CommandLine

namespace Simulation

variable {m n : Type → Type} [Monad m] [FileSystem m] [Monad n] [FileSystem n]
  (S : Simulation m n) {α : Type} {x : Program m α} {y : Program n α}

/-! ## Steps of commands -/

theorem corresponds_run (h : S.Corresponds x y) :
    S.Corresponds (Command.run x) (Command.run y) := by
  intro transcript
  exact S.bind (h transcript) fun _ => S.pure _

theorem corresponds_withArguments (form : CommandForm) (args : List String)
    {prepare : Arguments → CommandLine.Command m α} {prepare' : Arguments → CommandLine.Command n α}
    {body : Arguments → α → CommandLine.Command m Unit}
    {body' : Arguments → α → CommandLine.Command n Unit}
    (hprepare : ∀ a, S.Corresponds (prepare a) (prepare' a))
    (hbody : ∀ a prepared, S.Corresponds (body a prepared) (body' a prepared)) :
    S.Corresponds (Command.withArguments form args prepare body)
      (Command.withArguments form args prepare' body') := by
  unfold Command.withArguments
  cases Arguments.read form.options false args with
  | error problem => exact S.corresponds_throw _
  | ok a =>
    dsimp only
    split
    · exact S.corresponds_run (S.corresponds_write _)
    · refine (hprepare a).bind fun prepared => ?_
      split
      · exact hbody a prepared
      · exact S.corresponds_throw _

theorem rel_outcome (form : CommandForm) {c : CommandLine.Command m Unit}
    {d : CommandLine.Command n Unit} (h : S.Corresponds c d) :
    S.Rel (Command.outcome form c) (Command.outcome form d) := by
  refine S.bind (h {}) fun ended => ?_
  rcases ended with ⟨(message | problem | failure) | _, transcript⟩
  · exact S.pure _
  · exact S.pure _
  · exact S.pure _
  · exact S.pure _

section

variable [LawfulMonad m] [LawfulMonad n]

theorem firstFile {paths : List Path} (huses : ∀ p, S.Uses p) :
    S.Rel (Config.firstFile paths : ExceptT FileError m _).run
      (Config.firstFile paths : ExceptT FileError n _).run := by
  induction paths with
  | nil => exact S.except_pure _
  | cons p rest ih =>
    refine S.except_bind (S.isFile (huses p)) fun found => ?_
    split
    · exact S.except_pure _
    · exact ih

theorem find? (hcurrent : S.Rel FileSystem.currentDirectory FileSystem.currentDirectory)
    (huses : ∀ p, S.Uses p) : S.Rel (Config.find? none : ExceptT FileError m _).run
    (Config.find? none : ExceptT FileError n _).run := by
  refine S.except_bind (S.except_lift hcurrent) fun current => ?_
  dsimp only
  split
  · rw [ExceptT.bind_throw, ExceptT.bind_throw]
    exact S.except_throw _
  · exact S.firstFile huses

theorem corresponds_argumentKind (text : String) (huses : ∀ p, S.Uses p) :
    S.Corresponds (argumentKind text : CommandLine.Command m _)
      (argumentKind text : CommandLine.Command n _) := by
  have hlift : S.Corresponds
      (ExceptT.lift (StateT.lift (Files.kindOf? (Path.ofText text)).run) :
        CommandLine.Command m _)
      (ExceptT.lift (StateT.lift (Files.kindOf? (Path.ofText text)).run) :
        CommandLine.Command n _) := by
    intro transcript
    exact S.bind (S.bind (S.kindOf? (huses _)) fun _ => S.pure _) fun _ => S.pure _
  unfold argumentKind
  split
  · exact S.corresponds_pure _
  · refine hlift.bind fun kind => ?_
    rcases kind with e | _ | _ | _
    · exact S.corresponds_pure _
    · exact S.corresponds_pure _
    · exact S.corresponds_pure _
    · exact S.corresponds_pure _

theorem corresponds_pathArgument (form : OptionForm) (what : String) (acceptsFiles : Bool)
    (a : Arguments) (huses : ∀ p, S.Uses p) :
    S.Corresponds (pathArgument form what acceptsFiles a : CommandLine.Command m _)
      (pathArgument form what acceptsFiles a : CommandLine.Command n _) := by
  unfold pathArgument
  cases a.value? form.key with
  | none => exact S.corresponds_pure _
  | some text =>
    refine (S.corresponds_argumentKind text huses).bind fun kind => ?_
    rcases kind with _ | _ | _
    · exact S.corresponds_throw _
    · dsimp only
      split
      · exact S.corresponds_pure _
      · exact S.corresponds_throw _
    · exact S.corresponds_pure _

end

variable [Host]

theorem corresponds_fail (debug : Bool) (label message : String) :
    S.Corresponds (Command.fail debug label message : CommandLine.Command m α)
      (Command.fail debug label message : CommandLine.Command n α) := by
  unfold Command.fail
  refine (S.corresponds_run ?_).bind fun _ => S.corresponds_throw _
  dsimp only
  split
  · exact (S.corresponds_print _).bind fun _ => S.corresponds_print _
  · exact S.corresponds_print _

theorem corresponds_reporting (debug : Bool) (label? : Failure → Option String)
    (h : S.Corresponds x y) :
    S.Corresponds (Command.reporting debug label? x) (Command.reporting debug label? y) := by
  have hlift : S.Corresponds (ExceptT.lift x.run : CommandLine.Command m _)
      (ExceptT.lift y.run : CommandLine.Command n _) := by
    intro transcript
    exact S.bind (h transcript) fun _ => S.pure _
  refine hlift.bind fun result => ?_
  cases result with
  | ok a => exact S.corresponds_pure a
  | error failure =>
    simp only
    split
    · exact S.corresponds_fail _ _ _
    · exact S.corresponds_throw _

theorem corresponds_missingConfig :
    S.Corresponds (missingConfig : CommandLine.Command m α)
      (missingConfig : CommandLine.Command n α) := by
  refine (S.corresponds_run ?_).bind fun _ => S.corresponds_throw _
  exact (S.corresponds_print _).bind fun _ =>
    (S.corresponds_print _).bind fun _ => S.corresponds_print _

/-! ## The command that generates a package -/

variable {p : Path} {environment : Option String}

theorem corresponds_written (hreads : S.Reads p) :
    S.Corresponds (Config.written environment p) (Config.written environment p) := by
  refine (S.corresponds_files (S.readFile hreads)).bind fun bytes => ?_
  refine (S.corresponds_ofExcept _ _).bind fun text => ?_
  exact S.corresponds_ofExcept _ _

theorem corresponds_showStart (a : Arguments) (p : Path) :
    S.Corresponds (showStart a p) (showStart a p) := by
  refine (S.corresponds_print _).bind fun _ => (S.corresponds_print _).bind fun _ => ?_
  refine (S.corresponds_print _).bind fun _ => (S.corresponds_print _).bind fun _ => ?_
  split
  · exact (S.corresponds_print _).bind fun _ => S.corresponds_print _
  · exact S.corresponds_pure _

theorem corresponds_printFiles (label : String) (names : List String) :
    S.Corresponds (printFiles label names) (printFiles label names) := by
  unfold printFiles
  split
  · exact S.corresponds_print _
  · exact S.corresponds_pure _

theorem corresponds_showReport (a : Arguments) (config : Config) (report : RunReport) :
    S.Corresponds (showReport a config report) (showReport a config report) := by
  refine (S.corresponds_print _).bind fun _ => ?_
  split
  · refine (S.corresponds_printFiles _ _).bind fun _ => ?_
    refine (S.corresponds_printFiles _ _).bind fun _ => ?_
    exact (S.corresponds_print _).bind fun _ => S.corresponds_printTree _ _
  · exact S.corresponds_pure _

variable [LawfulMonad m] [LawfulMonad n]

/-- What a run with a configuration may use. -/
structure UsesConfig (config : Config) : Prop where
  protocol : S.Uses config.protocolPath
  output : S.Uses config.outputPath
  file : S.Reads (ProtocolFile.path config.protocolPath config.version)
  manifest : S.Reads (Generation.manifestPath config.outputPath)

theorem corresponds_generateWith (a : Arguments) {config : Config} (huses : S.UsesConfig config) :
    S.Corresponds (generateWith a config p) (generateWith a config p) := by
  refine (S.corresponds_run (S.corresponds_showStart a p)).bind fun _ => ?_
  refine (S.corresponds_reporting _ runLabel? ?_).bind fun report => ?_
  · exact S.corresponds_generate _ _ huses.protocol huses.output huses.file huses.manifest
  · exact S.corresponds_run (S.corresponds_showReport a config report)

/-- A command uses the file of its configuration and what the configuration names as seen from
there. -/
theorem corresponds_generate_some (a : Arguments) (hreads : S.Reads p)
    (huses : ∀ (config : Config) (version : Option String),
      S.UsesConfig ((config.within p.parent).withVersion version)) :
    S.Corresponds (CommandLine.generate environment a (some p))
      (CommandLine.generate environment a (some p)) := by
  rw [generate_eq, generate_eq, loadConfig_some, loadConfig_some, bind_map_left, bind_map_left]
  refine (S.corresponds_reporting _ configLabel? (S.corresponds_written hreads)).bind
    fun config => ?_
  exact S.corresponds_generateWith a (huses config _)

/-! ## Whole commands -/

theorem corresponds_generateFound (a : Arguments) {found : Option Path}
    (h : ∀ p, found = some p → S.Reads p ∧ ∀ (config : Config) (version : Option String),
      S.UsesConfig ((config.within p.parent).withVersion version)) :
    S.Corresponds (generateFound environment a found) (generateFound environment a found) := by
  cases found with
  | none => exact S.corresponds_missingConfig
  | some p => exact S.corresponds_generate_some a (h p rfl).1 (h p rfl).2

/-- The command does the same on file systems that correspond for every path. -/
theorem rel_run_generate (hcurrent : S.Rel FileSystem.currentDirectory FileSystem.currentDirectory)
    (huses : ∀ p, S.Uses p) (hreads : ∀ p, S.Reads p) (environment : Option String)
    (args : List String) :
    S.Rel (CommandLine.run environment ("generate" :: args))
      (CommandLine.run environment ("generate" :: args)) := by
  have hfile (p : Path) : S.Reads p ∧ ∀ (config : Config) (version : Option String),
      S.UsesConfig ((config.within p.parent).withVersion version) :=
    ⟨hreads p, fun _ _ => ⟨huses _, huses _, hreads _, hreads _⟩⟩
  rw [run_generate, run_generate]
  refine S.rel_outcome _ (S.corresponds_withArguments _ args ?_ fun a named => ?_)
  · exact fun a => S.corresponds_pathArgument _ _ _ a huses
  · cases named with
    | some p => exact S.corresponds_generate_some a (hfile p).1 (hfile p).2
    | none =>
      rw [generate_none, generate_none]
      refine (S.corresponds_reporting _ _ (S.corresponds_files (S.find? hcurrent huses))).bind ?_
      exact fun found => S.corresponds_generateFound a fun p _ => hfile p

end Simulation

end ProtocolBindings
