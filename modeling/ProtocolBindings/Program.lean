import ProtocolBindings.Console.Message
import ProtocolBindings.Failure

/-!
# Programs

A program works on a file system, writes to its output and its error output, and may fail.  What
was written before a failure stays written.
-/

namespace ProtocolBindings

/-- What a program has written. -/
structure Transcript where
  out : String := ""
  err : String := ""
deriving DecidableEq, Repr, Inhabited

/-- A program on a file system. -/
abbrev Program (m : Type → Type) := ExceptT Failure (StateT Transcript m)

namespace Program

variable {m : Type → Type} [Monad m]

/-- A step that may fail because of a file. -/
def files {α : Type} (step : ExceptT FileError m α) : Program m α :=
  ExceptT.mk fun transcript => do
    match ← step.run with
    | .ok a => return (.ok a, transcript)
    | .error e => return (.error (.file e), transcript)

def ofExcept {ε α : Type} (f : ε → Failure) (result : Except ε α) : Program m α :=
  match result with
  | .ok a => return a
  | .error e => throw (f e)

/-- Adds a text to the output. -/
def write (text : String) : Program m Unit :=
  modify fun t => { t with out := t.out ++ text }

def writeError (text : String) : Program m Unit :=
  modify fun t => { t with err := t.err ++ text }

/-- What the console shows, as a step. -/
def shown (result : Except Markup.Fault String) : Program m String :=
  ofExcept .markup result

variable [Host]

/-- Shows a message on the console. -/
def print (message : String := "") : Program m Unit := do
  write (← shown (Console.render message))

def printError (message : String) : Program m Unit := do
  writeError (← shown (Console.render message))

/-- Shows a tree of messages on the console. -/
def printTree (root : String) (labels : List String) : Program m Unit := do
  write (← shown (Console.renderTree root labels))

end Program

end ProtocolBindings
