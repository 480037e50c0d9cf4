import ProtocolBindings.CommandLine.Interface

/-!
# The program

The file system and the console of the machine, and the program on it.
-/

namespace ProtocolBindings

/-- What is wrong, by the number that the system gives for it. -/
def FileProblem.ofNumber (number : Nat) (description : String) : FileProblem :=
  match number with
  | 2 => .notFound
  | 17 => .alreadyExists
  | 20 => .notADirectory
  | 21 => .isADirectory
  | 36 => .nameTooLong
  | number => .other number description

/-- The number of an error, which some operations give with a minus sign. -/
def unsignedCode (code : UInt32) : Nat :=
  if 0x80000000 ≤ code.toNat then 0x100000000 - code.toNat else code.toNat

/-- The number and the description of an error of the system. -/
def numberOf : IO.Error → Nat × String
  | .noFileOrDirectory _ code details
  | .permissionDenied _ code details
  | .resourceExhausted _ code details
  | .inappropriateType _ code details
  | .alreadyExists _ code details
  | .invalidArgument _ code details => (unsignedCode code, details)
  | .interrupted _ code details => (unsignedCode code, details)
  | .otherError code details
  | .resourceBusy code details
  | .resourceVanished code details
  | .unsupportedOperation code details
  | .hardwareFault code details
  | .unsatisfiedConstraints code details
  | .illegalOperation code details
  | .protocolError code details
  | .timeExpired code details
  | .noSuchThing _ code details => (unsignedCode code, details)
  | .unexpectedEof => (0, "end of file")
  | .userError details => (0, details)

/-- An operation of the system, with its error at a path as a value. -/
def attempt {α : Type} (p : Path) (operation : IO α) : IO (Except FileError α) := do
  if p.hasNullCharacter then return .error ⟨.nullCharacter, p.text⟩
  else
    try return .ok (← operation)
    catch e =>
      let (number, description) := numberOf e
      return .error ⟨.ofNumber number description, p.text⟩

instance : FileSystem IO where
  kindOf p := attempt p do
    let found ← ((← IO.currentDir) / p.text).metadata
    return if found.type == .dir then .directory else .file
  readBytes p := attempt p (IO.FS.readBinFile p.text)
  writeBytes p content := attempt p (IO.FS.writeBinFile p.text content)
  makeDirectory p := attempt p (IO.FS.createDir p.text)
  remove p := attempt p (IO.FS.removeFile p.text)
  currentDirectory := do return Path.ofText (← IO.currentDir).toString

/-- The host with a console of the width that the environment names. -/
@[reducible]
def Host.ofColumns (columns : Option String) : Host :=
  let width := ((columns.bind (·.toNat?)).getD Host.usual.width)
  { Host.usual with width := max 1 width, width_pos := Nat.le_max_left 1 width }

end ProtocolBindings

/-- Runs the program with its arguments and ends with its exit code. -/
def main (args : List String) : IO UInt32 := do
  let environment ← IO.getEnv ProtocolBindings.ProtocolVersion.environmentKey
  let _ := ProtocolBindings.Host.ofColumns (← IO.getEnv "COLUMNS")
  let outcome ← ProtocolBindings.CommandLine.run environment args
  IO.print outcome.transcript.out
  IO.eprint outcome.transcript.err
  if let some failure := outcome.escaped then
    IO.eprintln failure.message
  return UInt32.ofNat outcome.exitCode
