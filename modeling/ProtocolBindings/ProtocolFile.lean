import ProtocolBindings.Json.Read
import ProtocolBindings.Program
import ProtocolBindings.Text.Lines

/-!
# Protocol files

The document of each version lies in a directory of the version's name.  A document is an object
with a list of domains.
-/

namespace ProtocolBindings.ProtocolFile

def fileName : String := "protocol.json"

/-- The path of a version's file below the directory of all versions. -/
def path (directory : Path) (version : ProtocolVersion) : Path :=
  (directory.joinText version.name).joinText fileName

/-- Why no document could be read from a file. -/
inductive Obstacle where
  | malformed (malformation : Malformation)
  /-- The document is beyond a limit of its reader. -/
  | beyond (limit : Limit)
deriving DecidableEq, Repr

/-- The failure that an obstacle in the file at `p` is. -/
def Obstacle.toFailure (p : Path) : Obstacle → Failure
  | malformed malformation =>
    .generation { cause := .schemaMalformed malformation, location := some p.text }
  | beyond limit => .beyond limit

/-- The obstacle that a fault in the JSON text `cs` is. -/
def Obstacle.ofFault (cs : List Char) (fault : Json.Fault) : Obstacle :=
  match fault.limit? with
  | some limit => .beyond limit
  | none => .malformed (.notJson (fault.message cs))

variable [Host]

def documentOfBytes (bytes : ByteArray) : Except Obstacle Json := do
  let text ←
    (Text.Utf8.decode bytes).mapError fun fault => .malformed (.notJson fault.message)
  let cs := Text.unifyNewlines text.toList
  let document ← (Json.parse cs).mapError (Obstacle.ofFault cs)
  match document with
  | .object _ =>
    match document.get? "domains" with
    | some (.array _) => return document
    | _ => throw (.malformed .noDomains)
  | _ => throw (.malformed (.rootNotObject document.kindName))

variable {m : Type → Type} [Monad m] [FileSystem m]

/-- The document of a version.  With `verbose`, the version is named on the console for errors. -/
def load (directory : Path) (version : ProtocolVersion) (verbose : Bool) : Program m Json := do
  if verbose then
    Program.printError
      ("[dim]Using Chrome DevTools Protocol version:[/dim] '" ++ version.name ++ "'")
  let p := path directory version
  if ← Program.files (Files.isFile p) then
    let bytes ← Program.files (Files.readBytes p)
    Program.ofExcept (Obstacle.toFailure p) (documentOfBytes bytes)
  else throw (.generation { cause := .schemaNotFound version.name p.text })

def available (directory : Path) : ExceptT FileError m (List ProtocolVersion) :=
  ProtocolVersion.all.filterM fun version => Files.isFile (path directory version)

def schema (directory : Path) (version : ProtocolVersion) (verbose : Bool) : Program m Schema := do
  let document ← load directory version verbose
  Program.ofExcept Failure.ofBuilding (Schema.ofJson version document)

end ProtocolBindings.ProtocolFile
