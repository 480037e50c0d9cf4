import ProtocolBindings.Doc.Docstring
import ProtocolBindings.Source.Declaration

/-!
# Command functions

A command becomes a function that can be called with one, two or three arguments: the session,
the parameters and the options.  However it is called, it hands the method's name on the wire and
the parameters to the session.
-/

namespace ProtocolBindings

/-- The function of one command. -/
structure CommandFunction where
  commandName : String
  functionName : String
  /-- The numbers of arguments it can be called with. -/
  arities : List Nat := [1, 2, 3]
  docText : String
  /-- The name of the method on the wire. -/
  method : String
  source : String
deriving DecidableEq, Repr

namespace CommandFunction

/-- The name of a command on the wire: behind its domain and a dot, in the case of the
protocol. -/
def wireMethod (domain command : String) : String :=
  domain ++ "." ++ command

/-- The argument that carries out the command. -/
def sessionArgument : String := "session: _session.CommandSession"

def parametersArgument : String := "parameters: Mapping[str, Any]"

def optionsArgument : String := "options: _session.CommandOptions"

/-- The hint of the function's value, with the record of the returned values if there are
any. -/
def resultHint (c : Command) : String :=
  if c.returns.isEmpty then "_session.CommandResult"
  else "_session.CommandResult[" ++ Naming.resultName c.name ++ "]"

/-- The longest line that a signature may fill. -/
def lineWidth : Nat := 88

/-- One of the signatures a function can be called by.  It is broken if it is too long for a
line. -/
def overload (name : String) (arguments : List String) (result : String) : String :=
  let line := "def " ++ name ++ "(" ++ ", ".intercalate arguments ++ ") -> " ++ result ++ ": ..."
  let signature :=
    if lineWidth < line.length then
      "def " ++ name ++ "(\n" ++ "\n".intercalate (arguments.map fun a => "    " ++ a ++ ",") ++
        "\n) -> " ++ result ++ ": ..."
    else line
  "@overload\n" ++ signature

def implementation (name result docText method : String) : String :=
  "\n".intercalate
    ["def " ++ name ++ "(",
      "    " ++ sessionArgument ++ ",",
      "    " ++ parametersArgument ++ " | None = None,",
      "    " ++ optionsArgument ++ " | None = None,",
      ") -> " ++ result ++ ":",
      Doc.functionDocstring docText,
      "    return _session.execute_command(",
      "        session,",
      "        " ++ Declaration.literal method ++ ",",
      "        \x7b\x7d if parameters is None else parameters,",
      "        [] if options is None else options,",
      "    )"]

/-- The signatures and the function behind them. -/
def sourceText (name result docText method : String) : String :=
  "\n\n\n".intercalate
    [overload name [sessionArgument] result,
      overload name [sessionArgument, parametersArgument] result,
      overload name [sessionArgument, parametersArgument, optionsArgument] result,
      implementation name result docText method]

/-- The function of a command of `domain`.  Its name has to be an identifier. -/
def ofCommand (domain : String) (c : Command) : Except GenerationError CommandFunction :=
  let functionName := Naming.functionName c.name
  if Text.isIdentifier functionName then
    let docText := Doc.command c
    let method := wireMethod domain c.name
    .ok
      { commandName := c.name
        functionName
        docText
        method
        source := sourceText functionName (resultHint c) docText method }
  else malformed (.badCommandName c.name)

end CommandFunction

end ProtocolBindings
