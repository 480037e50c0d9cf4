import ProtocolBindings.CommandLine.Arguments
import ProtocolBindings.CommandLine.Help
import ProtocolBindings.Program

/-!
# Commands

A command is a program that ends in one of four ways: it is done, it reports an error, its
arguments are wrong, or a failure that it does not report ends it.  Each way has an exit code.
-/

namespace ProtocolBindings.CommandLine

/-- Why a command ended before it was done. -/
inductive Stop where
  | reported (message : String)
  | misused (problem : UsageProblem)
  | escaped (failure : Failure)
deriving Repr

/-- A command on a file system. -/
abbrev Command (m : Type → Type) := ExceptT Stop (StateT Transcript m)

/-- How a command has ended. -/
structure Outcome where
  exitCode : Nat
  transcript : Transcript
  /-- The failure that the command did not report. -/
  escaped : Option Failure := none

/-- What the options and words of a command are, and the help on it. -/
structure CommandForm where
  /-- The names that lead to the command. -/
  path : String
  /-- What follows the path in the line on its usage. -/
  words : String
  options : List OptionForm
  help : List String

namespace CommandForm

/-- What is shown when a command's arguments are wrong. -/
def misuseText (form : CommandForm) (problem : UsageProblem) : String :=
  let usage :=
    "Usage: " ++ form.path ++ " " ++ form.words ++ "\nTry '" ++ form.path ++
      " --help' for help.\n\n"
  (if problem.showsUsage then usage else "") ++ "Error: " ++ problem.message ++ "\n"

end CommandForm

namespace Command

variable {m : Type → Type} [Monad m] [Host]

/-- Carries out a program none of whose failures is reported. -/
def run {α : Type} (program : Program m α) : Command m α :=
  ExceptT.adapt .escaped program

/-- Reports an error, on the console under a label and on the error output.  With `debug`, the calls
in progress are shown first. -/
def fail {α : Type} (debug : Bool) (label message : String) : Command m α := do
  run do
    if debug then Program.print (Host.traceback message)
    Program.print ("[red]" ++ label ++ ":[/red] " ++ message)
  throw (.reported message)

/-- Carries out a program and reports the failures that have a label. -/
def reporting {α : Type} (debug : Bool) (label? : Failure → Option String)
    (program : Program m α) : Command m α := do
  match ← ExceptT.lift program.run with
  | .ok a => return a
  | .error failure =>
    match label? failure with
    | some label => fail debug label failure.message
    | none => throw (.escaped failure)

def outcome (form : CommandForm) (command : Command m Unit) : m Outcome := do
  let (result, t) ← (ExceptT.run command).run {}
  match result with
  | .ok () => return { exitCode := 0, transcript := t }
  | .error (.reported message) =>
    return { exitCode := 1, transcript := { t with err := t.err ++ "Error: " ++ message ++ "\n" } }
  | .error (.misused problem) =>
    return { exitCode := 2, transcript := { t with err := t.err ++ form.misuseText problem } }
  | .error (.escaped failure) =>
    return { exitCode := 1, transcript := t, escaped := some failure }

/-- Reads the arguments of a command without words of its own, shows its help if that is asked
for, and carries it out otherwise; `prepare` looks at the options before anything else is done. -/
def withArguments {α : Type} (form : CommandForm) (args : List String)
    (prepare : Arguments → Command m α) (body : Arguments → α → Command m Unit) :
    Command m Unit := do
  match Arguments.read form.options false args with
  | .error problem => throw (.misused problem)
  | .ok a =>
    if a.has .help then run (Program.write (Help.text form.help))
    else
      let prepared ← prepare a
      if a.words.isEmpty then body a prepared else throw (.misused (.unexpectedWords a.words))

end Command

end ProtocolBindings.CommandLine
