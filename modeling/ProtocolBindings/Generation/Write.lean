import ProtocolBindings.Config
import ProtocolBindings.Manifest
import ProtocolBindings.Program

/-!
# Writing packages

A package is written as a sequence of changes to the file system: first the files that the
previous manifest records and that are no longer generated are removed, then every file is
written, and last the manifest.
-/

namespace ProtocolBindings

/-- One change to the file system. -/
inductive FileChange where
  | remove (path : Path)
  | write (path : Path) (text : String)
deriving DecidableEq, Repr

/-- A package as it is to be written. -/
structure Generation where
  output : Path
  /-- The files by name, in the order of their generation. -/
  files : List (String × String)
  /-- The manifest of the files. -/
  manifest : Manifest
  options : Options

namespace Generation

def ofSchema (package : String) (schema : Schema) (output : Path) (options : Options) :
    Except GenerationError Generation := do
  let files ← Package.files package schema
  return { output, files, manifest := .ofFiles package schema files, options }

def manifestPath (output : Path) : Path :=
  output.joinText Manifest.fileName

/-- The recorded files that are no longer generated. -/
def orphans (g : Generation) (previous : Option Manifest) : List String :=
  match previous with
  | some m => m.orphaned g.manifest.outputs
  | none => []

/-- The files that are written, with their texts: those of the package, and the manifest if there
is to be one. -/
def writtenFiles (g : Generation) : List (Path × String) :=
  (g.files.map fun (name, text) => (g.output.joinText name, text)) ++
    if g.options.manifest then [(manifestPath g.output, g.manifest.toText)] else []

/-- The changes that a generation makes, given the manifest of the previous run. -/
def changes (g : Generation) (previous : Option Manifest) : List FileChange :=
  (if g.options.clean then (g.orphans previous).map fun name => .remove (g.output.joinText name)
    else []) ++
    g.writtenFiles.map fun (path, text) => .write path text

variable {m : Type → Type} [Monad m] [FileSystem m] [Host]

/-- The manifest in a file; none if there is no file or the file holds no manifest. -/
def readManifest (p : Path) : ExceptT FileError m (Option Manifest) := do
  match ← Files.kindOf? p with
  | none => return none
  | some _ =>
    match Manifest.ofBytes? (← Files.readBytes p) with
    | .ok found => return found
    | .error limit => throw ⟨.beyond limit, p.text⟩

def apply : FileChange → ExceptT FileError m Unit
  | .remove path => Files.removeIfPresent path
  | .write path text => Files.writeText path text

/-- Makes changes, one after the other. -/
def applyAll : List FileChange → ExceptT FileError m Unit
  | [] => return ()
  | change :: rest => do
    apply change
    applyAll rest

/-- Demands that a schema has a record, on which every manifest rests. -/
def requireRecord (schema : Schema) : Program m Unit :=
  if schema.isRecordable then return () else throw .unrecordable

/-- Writes a package.  Its directory is made first; the paths of the written files are given
back. -/
def write (package : String) (schema : Schema) (output : Path) (options : Options) :
    Program m (List Path) := do
  Program.files (Files.makeDirectories output)
  let g ← Program.ofExcept .generation (ofSchema package schema output options)
  requireRecord schema
  let previous ←
    if options.clean then Program.files (readManifest (manifestPath output)) else pure none
  Program.files (applyAll (g.changes previous))
  return g.writtenFiles.map (·.1)

end Generation

end ProtocolBindings
