import ProtocolBindings.Config
import ProtocolBindings.Program
import ProtocolBindings.Text.Lines
import ProtocolBindings.Yaml.Read

/-!
# Configuration files

A configuration file has one of four names.  It is looked for in a directory and then in those
around it, from the inside out; in one directory the names are tried in order.
-/

namespace ProtocolBindings.Config

/-- The names of configuration files, in the order in which they are tried. -/
def fileNames : List String := ["cri.yml", "cri.yaml", ".cri.yml", ".cri.yaml"]

/-- A directory and those around it, from the inside out. -/
def ancestors (p : Path) : List Path :=
  let depth := p.steps.length
  (List.range (depth + 1)).map fun n => { p with steps := p.steps.take (depth - n) }

/-- The places where a configuration file is looked for from a directory. -/
def candidates (p : Path) : List Path :=
  (ancestors p).flatMap fun directory => fileNames.map directory.joinText

def ofYaml [Host] (environment : Option String) (text : String) : Except Failure Config := do
  let d ← (Yaml.parse text).mapError (Failure.notYaml · text)
  (validate environment d).mapError .invalidRecord

/-- The text of a file's bytes, with unified line ends. -/
def textOfBytes (bytes : ByteArray) : Except Failure String := do
  let text ← (Text.Utf8.decode bytes).mapError .notUtf8
  return String.ofList (Text.unifyNewlines text.toList)

variable {m : Type → Type} [Monad m] [FileSystem m] [Host]

def firstFile : List Path → ExceptT FileError m (Option Path)
  | [] => return none
  | p :: rest => do if ← Files.isFile p then return some p else firstFile rest

/-- The nearest configuration file, as seen from a directory or else from the current one. -/
def find? (start : Option Path) : ExceptT FileError m (Option Path) := do
  let current ← Files.currentDirectory
  let start := start.getD current
  if start.hasNullCharacter then throw ⟨.nullCharacter, start.text⟩
  firstFile (candidates (Path.absolute current start))

/-- The configuration in a file.  Relative paths in it start from where the file is. -/
def ofFile (environment : Option String) (p : Path) : Program m Config := do
  let bytes ← Program.files (Files.readBytes p)
  let text ← Program.ofExcept id (textOfBytes bytes)
  let config ← Program.ofExcept id (ofYaml environment text)
  return config.within p.parent

/-- The configuration in a file, or in the nearest configuration file. -/
def load (environment : Option String) (p : Option Path) : Program m Config := do
  match p with
  | some p => ofFile environment p
  | none =>
    match ← Program.files (find? none) with
    | some p => ofFile environment p
    | none => throw .noConfig

end ProtocolBindings.Config
