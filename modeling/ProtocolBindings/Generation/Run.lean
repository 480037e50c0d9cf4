import ProtocolBindings.Generation.Write
import ProtocolBindings.ProtocolFile
import ProtocolBindings.Statistics

/-!
# Runs

A run loads the schema that a configuration asks for, generates the package and compares it with
the manifest of the previous run.  A dry run stops there; any other writes the package.
-/

namespace ProtocolBindings

/-- What a run has done, or a dry run would do. -/
structure RunReport where
  paths : List Path
  statistics : Statistics
  schema : Schema
deriving Repr

namespace Config

variable {m : Type → Type} [Monad m] [FileSystem m] [Host]

/-- The schema of the configured version and domains.  Configured domains that the protocol does
not have are named on the console. -/
def loadSchema (config : Config) (verbose : Bool) : Program m Schema := do
  let schema ← ProtocolFile.schema config.protocolPath config.version verbose
  let missing := config.domains.filter fun name => (schema.domain? name).isNone
  if !missing.isEmpty then
    Program.print
      ("[yellow]Domains not in protocol '" ++ schema.version ++ "':[/yellow] " ++
        ", ".intercalate missing)
  return schema.select config.domains

def domainLine (d : Domain) : String :=
  let marker := if d.experimental then " [yellow](experimental)[/yellow]" else ""
  "  [dim]-[/dim] " ++ d.name ++ marker ++ " [dim]" ++ toString d.types.length ++ " types, " ++
    toString d.commands.length ++ " commands[/dim]"

/-- Shows lines on the console. -/
def printAll : List String → Program m Unit
  | [] => return ()
  | line :: rest => do
    Program.print line
    printAll rest

def generate (config : Config) (dryRun verbose : Bool) : Program m RunReport := do
  let output := config.outputPath
  Program.print ("[dim]Protocol:[/dim] " ++ config.protocolPath.text)
  Program.print ("[dim]Output:[/dim]   " ++ output.text)
  let schema ← config.loadSchema true
  if verbose then printAll (schema.domains.map domainLine)
  let g ← Program.ofExcept .generation
    (Generation.ofSchema config.package schema output config.options)
  let previous ← Program.files (Generation.readManifest (Generation.manifestPath output))
  if previous.isSome then Generation.requireRecord schema
  let paths ←
    if dryRun then pure (g.files.map fun (name, _) => output.joinText name)
    else Generation.write config.package schema output config.options
  let statistics : Statistics :=
    { Statistics.ofSchema schema with
      files := paths.length
      modified := ((previous.map (·.modified g.manifest.outputs)).getD [])
      removed := g.orphans previous }
  return { paths, statistics, schema }

end Config

end ProtocolBindings
