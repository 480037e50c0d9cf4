import ProtocolBindings.Datum.Display
import ProtocolBindings.Text.Resemblance

/-!
# Arguments

The arguments of a command are options and other words.  An option has a name of two hyphens, and
it may have one of a hyphen and a single character.  Its value is the next argument, or what
follows an equals sign behind the long name or the character of the short one; short names
without values may share one hyphen.  Behind two bare hyphens everything is a word.
-/

namespace ProtocolBindings.CommandLine

/-- The options of all commands. -/
inductive OptionKey where
  | help
  | version
  | config
  | protocolVersion
  | dryRun
  | verbose
  | debug
  | protocolDir
deriving DecidableEq, Repr

/-- How an option is written. -/
structure OptionForm where
  key : OptionKey
  long : String
  short : Option Char := none
  takesValue : Bool := false
deriving Repr

/-- What is wrong with the arguments of a command. -/
inductive UsageProblem where
  /-- An option that the command does not have, and those it may have been meant for. -/
  | noSuchOption (name : String) (proposals : List String)
  | missingValue (name : String)
  | needlessValue (name : String)
  | invalidValue (names : List String) (reason : String)
  | unexpectedWords (words : List String)
  | missingCommand
  /-- A command that there is not, and those it may have been meant for. -/
  | noSuchCommand (name : String) (proposals : List String)
deriving Repr

namespace UsageProblem

/-- What is proposed in place of an unknown name. -/
def proposalText : List String → String
  | [] => ""
  | [name] => " Did you mean " ++ quoted name ++ "?"
  | names =>
    " (Did you mean one of: " ++ ", ".intercalate ((names.mergeSort (· ≤ ·)).map quoted) ++ "?)"

/-- What is said about a problem. -/
def message : UsageProblem → String
  | .noSuchOption name proposals =>
    "No such option " ++ quoted name ++ "." ++ proposalText proposals
  | .missingValue name => "Option " ++ quoted name ++ " requires an argument."
  | .needlessValue name => "Option " ++ quoted name ++ " does not take a value."
  | .invalidValue names reason =>
    "Invalid value for " ++ " / ".intercalate (names.map fun n => "'" ++ n ++ "'") ++ ": " ++ reason
  | .unexpectedWords words =>
    "Got unexpected extra argument" ++ (if words.length == 1 then "" else "s") ++ " (" ++
      " ".intercalate words ++ ")"
  | .missingCommand => "Missing command."
  | .noSuchCommand name proposals =>
    "No such command " ++ quoted name ++ "." ++ proposalText proposals

/-- Whether a problem is shown together with the usage of the command.  A missing or needless value
of an option is shown alone. -/
def showsUsage : UsageProblem → Bool
  | .missingValue _ | .needlessValue _ => false
  | _ => true

end UsageProblem

namespace OptionForm

def shortName (c : Char) : String :=
  String.ofList ['-', c]

def names (o : OptionForm) : List String :=
  o.long :: o.short.toList.map shortName

end OptionForm

/-- The options of a command as they were given, in order, and the words besides. -/
structure Arguments where
  options : List (OptionKey × String) := []
  words : List String := []
deriving Repr

namespace Arguments

/-- Adds an option in front. -/
def withOption (key : OptionKey) (value : String) (a : Arguments) : Arguments :=
  { a with options := (key, value) :: a.options }

/-- Adds a word in front. -/
def withWord (word : String) (a : Arguments) : Arguments :=
  { a with words := word :: a.words }

def has (a : Arguments) (key : OptionKey) : Bool :=
  a.options.any (·.1 == key)

/-- The value of an option; the last one given counts. -/
def value? (a : Arguments) (key : OptionKey) : Option String :=
  (a.options.reverse.find? (·.1 == key)).map (·.2)

/-- An option that waits for its value, and the name under which it was given. -/
abbrev Waiting := Option (OptionKey × String)

/-- The options behind one hyphen, and the one that waits for the next argument. -/
def readShort (forms : List OptionForm) :
    List Char → Except UsageProblem (List (OptionKey × String) × Waiting)
  | [] => .ok ([], none)
  | c :: rest =>
    match forms.find? (·.short == some c) with
    | none => .error (.noSuchOption (OptionForm.shortName c) [])
    | some form =>
      if form.takesValue then
        if rest.isEmpty then .ok ([], some (form.key, OptionForm.shortName c))
        else .ok ([(form.key, String.ofList rest)], none)
      else do
        let (options, waiting) ← readShort forms rest
        return ((form.key, "") :: options, waiting)

/-- Divides an argument at its first equals sign. -/
def splitValue (cs : List Char) : String × Option String :=
  let name := cs.takeWhile (· != '=')
  match cs.drop name.length with
  | [] => (String.ofList name, none)
  | _ :: value => (String.ofList name, some (String.ofList value))

/-- The option of an argument that begins with a hyphen, or that which waits for the next
argument. -/
def readOption (forms : List OptionForm) (arg : String) :
    Except UsageProblem (List (OptionKey × String) × Waiting) :=
  let (name, value) := splitValue arg.toList
  match forms.find? (·.long == name), value with
  | some form, some value =>
    if form.takesValue then .ok ([(form.key, value)], none) else .error (.needlessValue name)
  | some form, none =>
    if form.takesValue then .ok ([], some (form.key, name)) else .ok ([(form.key, "")], none)
  | none, _ =>
    match arg.toList with
    | '-' :: '-' :: _ => .error (.noSuchOption name (Text.closest name (forms.map (·.long))))
    | _ => readShort forms (arg.toList.drop 1)

def isOption (arg : String) : Bool :=
  match arg.toList with
  | '-' :: _ :: _ => true
  | _ => false

/-- Reads arguments, the first of which may be the value that an option waits for.  With
`untilWord`, the first word ends the options. -/
def readFrom (forms : List OptionForm) (untilWord : Bool) :
    Waiting → List String → Except UsageProblem Arguments
  | none, [] => .ok {}
  | some (_, name), [] => .error (.missingValue name)
  | some (key, _), value :: rest => do
    return (← readFrom forms untilWord none rest).withOption key value
  | none, arg :: rest =>
    if arg == "--" then .ok { words := rest }
    else if isOption arg then do
      let (options, waiting) ← readOption forms arg
      let a ← readFrom forms untilWord waiting rest
      return { a with options := options ++ a.options }
    else if untilWord then .ok { words := arg :: rest }
    else do return (← readFrom forms untilWord none rest).withWord arg

def read (forms : List OptionForm) (untilWord : Bool) (args : List String) :
    Except UsageProblem Arguments :=
  readFrom forms untilWord none args

end Arguments

end ProtocolBindings.CommandLine
