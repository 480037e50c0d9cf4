import ProtocolBindings.Source.Function

/-!
# Modules

The module of a domain: its documentation, the imports that its contents need, the list of its
names, and then the declarations of its types and the functions of its commands in the order of
the protocol.  A command that returns values has their record in front of its function.  No two
definitions of a module may have the same name.
-/

namespace ProtocolBindings

/-- The module generated for one domain. -/
structure Module where
  domainName : String
  moduleName : String
  /-- The texts of the type declarations. -/
  declarations : List String
  functions : List CommandFunction
  /-- The other domains whose modules it names, in ascending order. -/
  domains : List String
  source : String
deriving DecidableEq, Repr

namespace Module

def fileName (m : Module) : String :=
  m.moduleName ++ ".py"

def function? (m : Module) (command : String) : Option CommandFunction :=
  m.functions.find? (·.commandName == command)

/-- What is generated for a command: its function and, if it returns values, their record. -/
structure CommandPart where
  function : CommandFunction
  result : Option Declaration
deriving DecidableEq, Repr

namespace CommandPart

def names (part : CommandPart) : List String :=
  part.function.functionName :: (part.result.toList.map (·.name))

def source (part : CommandPart) : String :=
  match part.result with
  | none => part.function.source
  | some result => result.text ++ "\n\n\n" ++ part.function.source

def ofCommand (domain : String) (c : Command) : Except GenerationError CommandPart := do
  let function ← CommandFunction.ofCommand domain c
  let result :=
    if c.returns.isEmpty then none else some (Declaration.ofResult domain c function.method)
  return { function, result }

end CommandPart

/-- The contents of a module, before its text is put together. -/
structure Contents where
  types : List Declaration
  commands : List CommandPart
deriving DecidableEq, Repr

namespace Contents

/-- The names that the module defines beside `experimental`, in order. -/
def names (contents : Contents) : List String :=
  contents.types.map (·.name) ++ contents.commands.flatMap (·.names)

/-- Every declaration: the types and the records of returned values. -/
def declarations (contents : Contents) : List Declaration :=
  contents.types ++ contents.commands.filterMap (·.result)

/-- Every hint that is written into a declaration. -/
def hints (contents : Contents) : List TypeHint :=
  contents.declarations.flatMap (·.hints)

/-- The other domains that the hints name, in ascending order. -/
def domains (contents : Contents) (current : String) : List String :=
  Ascending.ofList ((contents.hints.flatMap (·.domains)).filter (· != current))

end Contents

/-- Whether `Any` stands as a word of its own in a text. -/
def mentionsAny (text : String) : Bool :=
  (Text.pieces (!Text.isWordCharacter ·) text.toList).contains TypeHint.anyName.toList

/-- The names a module takes from the typing library, constants first, then types, then
functions. -/
def typingNames (contents : Contents) (current : String) : List String :=
  let hasCommands := !contents.commands.isEmpty
  (if (contents.domains current).isEmpty then [] else ["TYPE_CHECKING"]) ++
    (if hasCommands || contents.hints.any (mentionsAny ·.target) then [TypeHint.anyName]
      else []) ++
    (if contents.declarations.any (·.usesAlias) then ["TypeAlias"] else []) ++
    (if contents.declarations.any (·.usesRecord) then ["TypedDict"] else []) ++
    (if hasCommands then ["overload"] else [])

/-- The import of the other domains' modules out of their package. -/
def domainImport (package : String) (domains : List String) : String :=
  match domains with
  | [only] => "    from " ++ package ++ " import " ++ only
  | _ =>
    "    from " ++ package ++ " import (\n" ++
      "\n".intercalate (domains.map fun d => "        " ++ Naming.moduleName d ++ ",") ++ "\n    )"

def standardImports (contents : Contents) (current : String) : List String :=
  let typing := typingNames contents current
  (if contents.commands.isEmpty then [] else ["from collections.abc import Mapping"]) ++
    (if typing.isEmpty then [] else ["from typing import " ++ ", ".intercalate typing])

/-- The blocks of imports that the contents need.  Other domains are imported for the type
checker only, so modules may name one another. -/
def importBlocks (package current : String) (contents : Contents) : List String :=
  let standard := standardImports contents current
  let domains := contents.domains current
  (if standard.isEmpty then [] else ["\n".intercalate standard]) ++
    (if contents.commands.isEmpty then []
      else ["from chrome_remote_interface import session as _session"]) ++
    (if domains.isEmpty then [] else ["if TYPE_CHECKING:\n" ++ domainImport package domains])

/-- The name of the function that every module defines first. -/
def experimentalName : String := "experimental"

def exportList (names : List String) : String :=
  "__all__ = [\n" ++
    "\n".intercalate ((experimentalName :: names).map fun n => "    \"" ++ n ++ "\",") ++ "\n]"

def experimentalFunction (domain : Domain) : String :=
  "def " ++ experimentalName ++ "() -> bool:\n    " ++ Doc.tripleQuote ++ "Whether the " ++
    domain.name ++ " domain is marked experimental." ++ Doc.tripleQuote ++ "\n    return " ++
    (if domain.experimental then "True" else "False")

/-- The documentation at the head of a module. -/
def moduleDocstring (domain : Domain) (version : String) : String :=
  Doc.tripleQuote ++ Doc.escape (Doc.domain domain version) ++ "\n" ++ Doc.tripleQuote

def sourceText (package : String) (domain : Domain) (version : String) (contents : Contents) :
    String :=
  let head :=
    [moduleDocstring domain version, "from __future__ import annotations"] ++
      importBlocks package domain.name contents ++ [exportList contents.names]
  let types :=
    if contents.types.isEmpty then [] else ["\n\n".intercalate (contents.types.map (·.text))]
  "\n\n\n".intercalate
    (["\n\n".intercalate head, experimentalFunction domain] ++ types ++
      contents.commands.map (·.source)) ++ "\n"

/-- The contents of a domain's module.  A fault is located at the type or command it lies in. -/
def contentsOf (domain : Domain) : Except GenerationError Contents := do
  let types ← domain.types.mapM fun t =>
    located (domain.name ++ "." ++ t.id) (Declaration.ofTypeDef domain.name t)
  let commands ← domain.commands.mapM fun c =>
    located (domain.name ++ "." ++ c.name) (CommandPart.ofCommand domain.name c)
  return { types, commands }

/-- The module of a domain in the given package and version of the protocol. -/
def ofDomain (package : String) (domain : Domain) (version : String) :
    Except GenerationError Module :=
  if !Text.isIdentifier domain.name then
    located domain.name (malformed (.badDomainName domain.name))
  else do
    let contents ← contentsOf domain
    match firstRepeated? [] contents.names with
    | some name => located domain.name (malformed (.definedTwice name))
    | none =>
      return {
        domainName := domain.name
        moduleName := Naming.moduleName domain.name
        declarations := contents.types.map (·.text)
        functions := contents.commands.map (·.function)
        domains := contents.domains domain.name
        source := sourceText package domain version contents }

end Module

end ProtocolBindings
