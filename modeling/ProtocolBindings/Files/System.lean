import ProtocolBindings.Datum.Display
import ProtocolBindings.Files.Path
import ProtocolBindings.Host

/-!
# File systems

The operations on files that the program uses, as a class of the monads that offer them, and what
is built on them alone.  An operation either succeeds or names the problem and the path.
-/

namespace ProtocolBindings

/-- What can be wrong with an operation on a file. -/
inductive FileProblem where
  | notFound
  | alreadyExists
  | notADirectory
  | isADirectory
  | nameTooLong
  /-- The path holds a character that no path may hold. -/
  | nullCharacter
  /-- What the file holds is beyond a limit of its reader. -/
  | beyond (limit : Limit)
  | other (number : Nat) (description : String)
deriving DecidableEq, Repr

namespace FileProblem

def number : FileProblem → Nat
  | .notFound => 2
  | .alreadyExists => 17
  | .notADirectory => 20
  | .isADirectory => 21
  | .nameTooLong => 36
  | .nullCharacter => 22
  | .beyond _ => 0
  | .other number _ => number

def description : FileProblem → String
  | .notFound => "No such file or directory"
  | .alreadyExists => "File exists"
  | .notADirectory => "Not a directory"
  | .isADirectory => "Is a directory"
  | .nameTooLong => "File name too long"
  | .nullCharacter => "embedded null byte"
  | .beyond limit => limit.message
  | .other _ description => description

end FileProblem

/-- A problem and the path it arose at. -/
structure FileError where
  problem : FileProblem
  path : String
deriving DecidableEq, Repr

def FileError.message (e : FileError) : String :=
  "[Errno " ++ toString e.problem.number ++ "] " ++ e.problem.description ++ ": " ++ quoted e.path

/-- What there can be at a path. -/
inductive EntryKind where
  | file
  | directory
deriving DecidableEq, Repr

/-- A monad with the operations of a file system. -/
class FileSystem (m : Type → Type) where
  /-- What there is at a path. -/
  kindOf : Path → m (Except FileError EntryKind)
  /-- The bytes of a file. -/
  readBytes : Path → m (Except FileError ByteArray)
  /-- Writes a file anew. -/
  writeBytes : Path → ByteArray → m (Except FileError Unit)
  /-- Makes one directory in a directory that exists. -/
  makeDirectory : Path → m (Except FileError Unit)
  /-- Removes a file. -/
  remove : Path → m (Except FileError Unit)
  /-- The absolute path of the current directory. -/
  currentDirectory : m Path

namespace Files

variable {m : Type → Type} [Monad m] [FileSystem m]

/-- What there is at a path, if anything.  A path that cannot lead anywhere leads to nothing. -/
def kindOf? (p : Path) : ExceptT FileError m (Option EntryKind) := do
  match ← ExceptT.lift (FileSystem.kindOf p) with
  | .ok kind => return some kind
  | .error e =>
    match e.problem with
    | .notFound | .notADirectory | .nullCharacter => return none
    | _ => throw e

def isFile (p : Path) : ExceptT FileError m Bool := do
  return (← kindOf? p) == some .file

def isDirectory (p : Path) : ExceptT FileError m Bool := do
  return (← kindOf? p) == some .directory

def currentDirectory : ExceptT FileError m Path :=
  ExceptT.lift FileSystem.currentDirectory

def readBytes (p : Path) : ExceptT FileError m ByteArray :=
  ExceptT.mk (FileSystem.readBytes p)

def writeText (p : Path) (text : String) : ExceptT FileError m Unit :=
  ExceptT.mk (FileSystem.writeBytes p text.toUTF8)

/-- Makes one directory; one that is there already is left as it is. -/
def ensureDirectory (p : Path) : ExceptT FileError m Unit := do
  match ← ExceptT.lift (FileSystem.makeDirectory p) with
  | .ok () => return ()
  | .error e =>
    if e.problem == .notFound then throw e
    else if ← isDirectory p then return ()
    else throw e

/-- Makes a directory and those it lies in.  The parents of a path are tried when the path itself
lies in a directory that does not exist; `depth` bounds their number. -/
def ensureDirectories : Nat → Path → ExceptT FileError m Unit
  | 0, p => ensureDirectory p
  | depth + 1, p => do
    match ← ExceptT.lift (ensureDirectory p).run with
    | .ok () => return ()
    | .error e =>
      if e.problem == .notFound && p.parent != p then
        ensureDirectories depth p.parent
        ensureDirectory p
      else throw e

def makeDirectories (p : Path) : ExceptT FileError m Unit :=
  ensureDirectories p.steps.length p

/-- Removes a file; it does not matter if there is none. -/
def removeIfPresent (p : Path) : ExceptT FileError m Unit := do
  match ← ExceptT.lift (FileSystem.remove p) with
  | .ok () => return ()
  | .error e => if e.problem == .notFound then return () else throw e

end Files

end ProtocolBindings
