import ProtocolBindings.CommandLine.Command
import ProtocolBindings.Config.File
import ProtocolBindings.Generation.Run
import ProtocolBindings.Text.Lowercase

/-!
# Command line

The commands of the program: one generates a package, one validates a configuration and its
protocol, and one lists the versions.  Failures that lie in the configuration, the protocol or
the files are reported under a label of their own.
-/

namespace ProtocolBindings.CommandLine

def programName : String := "cri"

def release : String := "0.4.1"

/-! ## Forms -/

def helpForm : OptionForm :=
  { key := .help, long := "--help" }

/-- The option that names a configuration file. -/
def configForm : OptionForm :=
  { key := .config, long := "--config", short := some 'c', takesValue := true }

def versionForm : OptionForm :=
  { key := .protocolVersion, long := "--protocol-version", short := some 'p', takesValue := true }

/-- The option that asks for the calls in progress where an error is reported. -/
def debugForm : OptionForm :=
  { key := .debug, long := "--debug" }

/-- The option that names the directory of the protocol's files. -/
def protocolDirForm : OptionForm :=
  { key := .protocolDir, long := "--protocol-dir", takesValue := true }

def generateForm : CommandForm :=
  { path := programName ++ " generate"
    words := "[OPTIONS]"
    options :=
      [configForm, versionForm, { key := .dryRun, long := "--dry-run" },
        { key := .verbose, long := "--verbose", short := some 'v' }, debugForm, helpForm]
    help := Help.generateLines }

def validateForm : CommandForm :=
  { path := programName ++ " validate"
    words := "[OPTIONS]"
    options := [configForm, versionForm, debugForm, helpForm]
    help := Help.validateLines }

def versionsForm : CommandForm :=
  { path := programName ++ " versions"
    words := "[OPTIONS]"
    options := [protocolDirForm, helpForm]
    help := Help.versionsLines }

def programForm : CommandForm :=
  { path := programName
    words := "[OPTIONS] COMMAND [ARGS]..."
    options := [{ key := .version, long := "--version" }, helpForm]
    help := Help.programLines }

/-! ## Labels -/

def configLabel? : Failure → Option String
  | .noConfig => some "Config file not found"
  | .file e => if e.problem == .notFound then some "Config file not found" else none
  | .notYaml (.unreadable _) _ | .notYaml .tooDeep _ => none
  | .notYaml _ _ => some "YAML parsing error"
  | .invalidRecord _ => some "Config validation error"
  | _ => none

def causeLabel : GenerationError.Cause → String
  | .schemaNotFound .. => "Protocol schema not found"
  | .schemaMalformed _ => "Malformed protocol schema"
  | .unresolvedReference _ => "Unresolved reference"
  | .general _ => "Generation error"

def runLabel? : Failure → Option String
  | .generation e => some (causeLabel e.cause)
  | .file e =>
    match e.problem with
    | .nullCharacter | .beyond _ => none
    | _ => some "File error"
  | _ => none

/-! ## Path arguments -/

/-- Whether a path is written so that it can only lead to a directory. -/
def endsInDirectory (text : String) : Bool :=
  match (Text.pieces (· == '/') text.toList).getLast? with
  | some step => step.isEmpty || step == ['.']
  | none => false

variable {m : Type → Type} [Monad m] [FileSystem m] [Host]

/-- What there is at a path given as an argument. -/
def argumentKind (text : String) : Command m (Option EntryKind) := do
  if text.isEmpty then return none
  else
    match ← ExceptT.lift (StateT.lift (Files.kindOf? (Path.ofText text)).run) with
    | .ok (some .file) => return if endsInDirectory text then none else some .file
    | .ok kind => return kind
    | .error _ => return none

def pathArgument (form : OptionForm) (what : String) (acceptsFiles : Bool) (a : Arguments) :
    Command m (Option Path) := do
  match a.value? form.key with
  | none => return none
  | some text =>
    let refuse (reason : String) : Command m (Option Path) :=
      throw (.misused (.invalidValue form.names (what ++ " " ++ quoted text ++ " " ++ reason)))
    match ← argumentKind text with
    | none => refuse "does not exist."
    | some .file =>
      if acceptsFiles then return some (.ofText text) else refuse "is a file."
    | some .directory => return some (.ofText text)

/-! ## Configurations -/

/-- A configuration to begin with. -/
def sampleConfig : String :=
  "\n[dim]protocol_dir: ./priv\noutput: ./chrome_remote_interface/rpc\n" ++
    "package: chrome_remote_interface.rpc[/dim]\n"

/-- Shows how to begin where no configuration file was found. -/
def missingConfig {α : Type} : Command m α := do
  Command.run do
    Program.print "[red]No cri.yml found[/red]"
    Program.print "\nCreate a cri.yml file:"
    Program.print sampleConfig
  throw (.reported "Config file not found")

/-- The path of the configuration file: the one that was named, or the nearest one. -/
def configPath (debug : Bool) (named : Option Path) : Command m Path := do
  match named with
  | some p => return p
  | none =>
    match ← Command.reporting debug configLabel? (Program.files (Config.find? none)) with
    | some p => return p
    | none => missingConfig

/-- The configuration of a command, with the version asked for, and where it was found. -/
def loadConfig (debug : Bool) (environment : Option String) (named : Option Path)
    (version : Option String) : Command m (Config × Path) := do
  let p ← configPath debug named
  let config ← Command.reporting debug configLabel? (Config.load environment (some p))
  return (config.withVersion version, p)

/-! ## The command that generates a package -/

/-- The names of the written files in the package's directory, in order of their lowercase
forms. -/
def listedNames (paths : List Path) (output : Path) : List String :=
  let direct := paths.filter (·.parent == output)
  (direct.map (·.name)).mergeSort fun a b => Text.lower a ≤ Text.lower b

def fileLabel (name : String) : String :=
  let style :=
    if name == "__init__.py" then "magenta"
    else if name.startsWith "." then "dim"
    else "green"
  "[" ++ style ++ "]" ++ name ++ "[/" ++ style ++ "]"

/-- Shows the package's directory with the written files. -/
def printPackage (paths : List Path) (output : Path) : Program m Unit :=
  Program.printTree ("[bold]" ++ output.name ++ "/[/bold]")
    ((listedNames paths output).map fileLabel)

def summary (dryRun : Bool) (report : RunReport) : String :=
  let s := report.statistics
  "\n[bold green]" ++ (if dryRun then "Would generate" else "Generated") ++ " " ++
    toString s.files ++ " files[/bold green] [dim](protocol " ++ report.schema.version ++ ": " ++
    toString s.domains ++ " domains, " ++ toString s.types ++ " types, " ++
    toString s.commands ++ " commands)[/dim]"

/-- A line with a label and a list of files, if there are any. -/
def printFiles (label : String) (names : List String) : Program m Unit := do
  if !names.isEmpty then
    Program.print ("[yellow]" ++ label ++ ":[/yellow] " ++ ", ".intercalate names)

/-- The lines on the changes that a run makes, and on the package. -/
def printChanges (config : Config) (report : RunReport) : Program m Unit := do
  printFiles "Changed" report.statistics.modified
  printFiles (if config.options.clean then "Removed" else "No longer generated")
    report.statistics.removed
  Program.print
  printPackage report.paths config.outputPath

def generate (environment : Option String) (a : Arguments) (named : Option Path) :
    Command m Unit := do
  let dryRun := a.has .dryRun
  let verbose := a.has .verbose
  let debug := a.has .debug
  let (config, p) ← loadConfig debug environment named (a.value? .protocolVersion)
  Command.run do
    Program.print
    Program.print "[bold]chrome-remote-interface[/bold]"
    Program.print
    Program.print ("[dim]Config:[/dim]   " ++ p.text)
    if dryRun then
      Program.print "[yellow]Dry run mode[/yellow]"
      Program.print
  let report ← Command.reporting debug runLabel? (config.generate dryRun verbose)
  Command.run do
    Program.print (summary dryRun report)
    if verbose || dryRun then printChanges config report

/-! ## The command that validates -/

/-- Loads the schema of a configuration and generates its modules without writing them. -/
def checkProtocol (config : Config) : Program m Schema := do
  let schema ← config.loadSchema true
  Program.print
    ("[green]Protocol valid:[/green] version '" ++ schema.version ++ "', " ++
      toString schema.domains.length ++ " domains")
  let _ ← Program.ofExcept .generation (Package.modules config.package schema)
  return schema

/-- Validates a configuration and its protocol. -/
def validate (environment : Option String) (a : Arguments) (named : Option Path) :
    Command m Unit := do
  let debug := a.has .debug
  let (config, p) ← loadConfig debug environment named (a.value? .protocolVersion)
  Command.run (Program.print ("[green]Config valid:[/green] " ++ p.text))
  let schema ← Command.reporting debug runLabel? (checkProtocol config)
  let s := Statistics.ofSchema schema
  Command.run do
    Program.print
      ("[green]Generation valid:[/green] " ++ toString s.types ++ " types, " ++
        toString s.commands ++ " commands")
    Program.print "\n[bold green]All validations passed[/bold green]"

/-! ## The command that lists the versions -/

def versionLine (active : ProtocolVersion) (available : Option (List ProtocolVersion))
    (version : ProtocolVersion) : String :=
  let isMissing :=
    match available with
    | none => false
    | some available => !available.contains version
  "  " ++ version.name ++ (if version == .default then " [dim](default)[/dim]" else "") ++
    (if version == active then " [green](active)[/green]" else "") ++
    (if isMissing then " [red](missing)[/red]" else "")

def environmentLine (environment : Option String) : String :=
  let key := ProtocolVersion.environmentKey
  match environment with
  | none => "\n[dim]" ++ key ++ " is not set[/dim]"
  | some name =>
    if (ProtocolVersion.ofName? name).isSome then "\n[dim]" ++ key ++ "=" ++ name ++ "[/dim]"
    else
      "\n[yellow]" ++ key ++ "=" ++ quoted name ++ " is not a known version, using '" ++
        ProtocolVersion.default.name ++ "'[/yellow]"

def versions (environment : Option String) (directory : Option Path) : Command m Unit :=
  Command.run do
    let available ←
      match directory with
      | none => pure none
      | some directory => some <$> Program.files (ProtocolFile.available directory)
    let active := ProtocolVersion.select environment
    Config.printAll (ProtocolVersion.all.map (versionLine active available))
    Program.print (environmentLine environment)

/-! ## The program -/

/-- Shows what is asked for about the program itself; of help and release, what is asked for
first. -/
def showProgram (a : Arguments) : Option String :=
  match a.options with
  | (.version, _) :: _ => some (programName ++ ", version " ++ release ++ "\n")
  | _ :: _ => some (Help.text Help.programLines)
  | [] => none

def commandNames : List String := ["generate", "validate", "versions"]

/-- Carries out the command of that name.  A name that is written like an option is taken for one of
the program itself. -/
def dispatch (environment : Option String) (name : String) (args : List String) : m Outcome :=
  match name with
  | "generate" =>
    Command.outcome generateForm
      (Command.withArguments generateForm args (pathArgument configForm "Path" true)
        (generate environment))
  | "validate" =>
    Command.outcome validateForm
      (Command.withArguments validateForm args (pathArgument configForm "Path" true)
        (validate environment))
  | "versions" =>
    Command.outcome versionsForm
      (Command.withArguments versionsForm args (pathArgument protocolDirForm "Directory" false)
        fun _ directory => versions environment directory)
  | _ =>
    Command.outcome programForm
      (match Arguments.read programForm.options true (name :: args) with
        | .error problem => throw (.misused problem)
        | .ok a =>
          match showProgram a with
          | some text => Command.run (Program.write text)
          | none => throw (.misused (.noSuchCommand name (Text.closest name commandNames))))

/-- Runs the program with its arguments, where `environment` is the version that the environment
names. -/
def run (environment : Option String) (args : List String) : m Outcome :=
  if args.isEmpty then
    pure { exitCode := 2, transcript := { err := Help.text Help.programLines } }
  else
    match Arguments.read programForm.options true args with
    | .error problem => Command.outcome programForm (throw (.misused problem))
    | .ok a =>
      match showProgram a, a.words with
      | some text, _ => Command.outcome programForm (Command.run (Program.write text))
      | none, name :: rest => dispatch environment name rest
      | none, [] => Command.outcome programForm (throw (.misused .missingCommand))

end ProtocolBindings.CommandLine
