import ProtocolBindings.CommandLine.Interface
import ProtocolBindings.Proofs.Generation.Preparation

/-!
# Stages of commands

A command that works on a configuration finds its file, reads it, and then carries out a run that is
given by what was read.  Without a named file it does what it does with the nearest one named.
-/

namespace ProtocolBindings

/-- The configuration in a file, with its paths as they are written there. -/
def Config.written {m : Type → Type} [Monad m] [FileSystem m] [Host]
    (environment : Option String) (p : Path) : Program m Config := do
  let bytes ← Program.files (Files.readBytes p)
  let text ← Program.ofExcept id (textOfBytes bytes)
  Program.ofExcept id (ofYaml environment text)

namespace CommandLine

variable {m : Type → Type} [Monad m] [FileSystem m] [Host]

/-! ## The command that generates a package -/

/-- The lines in front of a run. -/
def showStart (a : Arguments) (p : Path) : Program m Unit := do
  Program.print
  Program.print "[bold]chrome-remote-interface[/bold]"
  Program.print
  Program.print ("[dim]Config:[/dim]   " ++ p.text)
  if a.has .dryRun then
    Program.print "[yellow]Dry run mode[/yellow]"
    Program.print

def showReport (a : Arguments) (config : Config) (report : RunReport) : Program m Unit := do
  Program.print (summary (a.has .dryRun) report)
  if a.has .verbose || a.has .dryRun then printChanges config report

/-- Generates the package of a configuration that was read from a file. -/
def generateWith (a : Arguments) (config : Config) (p : Path) : Command m Unit := do
  Command.run (showStart a p)
  let report ← Command.reporting (a.has .debug) runLabel?
    (config.generate (a.has .dryRun) (a.has .verbose))
  Command.run (showReport a config report)

theorem generate_eq (environment : Option String) (a : Arguments) (named : Option Path) :
    (generate environment a named : Command m Unit) = (do
      let loaded ← loadConfig (a.has .debug) environment named (a.value? .protocolVersion)
      generateWith a loaded.1 loaded.2) := by
  rfl

/-! ## The command that validates -/

/-- The lines behind a validation. -/
def showCounts (schema : Schema) : Program m Unit := do
  Program.print
    ("[green]Generation valid:[/green] " ++ toString (Statistics.ofSchema schema).types ++
      " types, " ++ toString (Statistics.ofSchema schema).commands ++ " commands")
  Program.print "\n[bold green]All validations passed[/bold green]"

/-- Validates a configuration that was read from a file, and its protocol. -/
def validateWith (debug : Bool) (config : Config) (p : Path) : Command m Unit := do
  Command.run (Program.print ("[green]Config valid:[/green] " ++ p.text))
  let schema ← Command.reporting debug runLabel? (checkProtocol config)
  Command.run (showCounts schema)

theorem validate_eq (environment : Option String) (a : Arguments) (named : Option Path) :
    (validate environment a named : Command m Unit) = (do
      let loaded ← loadConfig (a.has .debug) environment named (a.value? .protocolVersion)
      validateWith (a.has .debug) loaded.1 loaded.2) := by
  rfl

/-! ## The program -/

theorem run_generate (environment : Option String) (args : List String) :
    (run environment ("generate" :: args) : m Outcome) =
      Command.outcome generateForm
        (Command.withArguments generateForm args (pathArgument configForm "Path" true)
          (generate environment)) := by
  rfl

theorem run_validate (environment : Option String) (args : List String) :
    (run environment ("validate" :: args) : m Outcome) =
      Command.outcome validateForm
        (Command.withArguments validateForm args (pathArgument configForm "Path" true)
          (validate environment)) := by
  rfl

/-! ## Configurations -/

variable [LawfulMonad m]

theorem load_some (environment : Option String) (p : Path) :
    (Config.load environment (some p) : Program m Config) =
      (·.within p.parent) <$> Config.written environment p := by
  unfold Config.load Config.ofFile Config.written
  rw [map_bind]
  refine bind_congr fun bytes => ?_
  rw [map_bind]
  refine bind_congr fun text => ?_
  rw [map_eq_pure_bind]

/-- Which failures are reported does not depend on the results. -/
theorem Command.reporting_map {m : Type → Type} [Monad m] [LawfulMonad m] {α β : Type}
    (debug : Bool) (label? : Failure → Option String) (f : α → β) (program : Program m α) :
    Command.reporting debug label? (f <$> program) =
      f <$> Command.reporting debug label? program := by
  have hlift : (ExceptT.lift (f <$> program).run : Command m _) =
      Except.map f <$> ExceptT.lift program.run := by
    apply ExceptT.ext
    rw [ExceptT.run_map, ExceptT.run_map, ExceptT.run_lift, ExceptT.run_lift, Functor.map_map,
      Functor.map_map]
    rfl
  unfold Command.reporting
  rw [hlift, bind_map_left, map_bind]
  refine bind_congr fun result => ?_
  cases result with
  | ok a => exact (map_pure f a).symm
  | error failure =>
    simp only [Except.map]
    cases label? failure with
    | some label => simp [fail]
    | none => simp

theorem loadConfig_some (debug : Bool) (environment : Option String) (p : Path)
    (version : Option String) :
    (loadConfig debug environment (some p) version : Command m _) =
      (fun config => ((config.within p.parent).withVersion version, p)) <$>
        Command.reporting debug configLabel? (Config.written environment p) := by
  unfold loadConfig
  dsimp only [configPath]
  rw [pure_bind, load_some, Command.reporting_map, bind_map_left, map_eq_pure_bind]

/-- Without a named file, a command does what it does with the nearest one named. -/
theorem loadConfig_none (debug : Bool) (environment : Option String) (version : Option String) :
    (loadConfig debug environment none version : Command m _) = (do
      let p ← configPath debug none
      loadConfig debug environment (some p) version) := by
  unfold loadConfig
  refine bind_congr fun p => ?_
  dsimp only [configPath]
  rw [pure_bind]

/-- Generates the package of the configuration that the search has found, if it has found one. -/
def generateFound (environment : Option String) (a : Arguments) : Option Path → Command m Unit
  | some p => generate environment a (some p)
  | none => missingConfig

theorem generate_none (environment : Option String) (a : Arguments) :
    (generate environment a none : Command m Unit) = (do
      let found ← Command.reporting (a.has .debug) configLabel?
        (Program.files (Config.find? none))
      generateFound environment a found) := by
  rw [generate_eq, loadConfig_none]
  unfold configPath
  rw [bind_assoc, bind_assoc]
  refine bind_congr fun found => ?_
  cases found with
  | none =>
    simp only [generateFound, missingConfig, bind_assoc, ExceptT.bind_throw]
  | some p =>
    rw [pure_bind, generateFound, generate_eq]

end CommandLine

end ProtocolBindings
