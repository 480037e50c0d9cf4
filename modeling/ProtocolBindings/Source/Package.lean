import ProtocolBindings.Source.Module

/-!
# Packages

A package holds one module for each domain of a schema and a list of them.  Its files are a
function of the schema and the package's name.
-/

namespace ProtocolBindings.Package

/-- The package that modules are taken to belong to where no other is named. -/
def defaultName : String := "chrome_remote_interface.rpc"

/-- The name of the file that lists the domains. -/
def indexName : String := "__init__.py"

def modules (package : String) (schema : Schema) : Except GenerationError (List Module) :=
  schema.domains.mapM fun d => located d.name (Module.ofDomain package d schema.version)

/-- The text of the file that lists the domains. -/
def indexSource (schema : Schema) : String :=
  let names := schema.domainNames
  "\n".intercalate
    [Doc.tripleQuote ++ "Chrome DevTools Protocol domains, version '" ++ schema.version ++ "'.",
      "",
      "Generated by chrome-remote-interface. Do not edit.",
      Doc.tripleQuote,
      "",
      "PROTOCOL_VERSION = \"" ++ schema.version ++ "\"",
      "",
      if names.isEmpty then "DOMAINS = ()"
      else
        "DOMAINS = (\n" ++ "\n".intercalate (names.map fun n => "    \"" ++ n ++ "\",") ++ "\n)",
      "",
      "",
      "def protocol_version() -> str:",
      "    " ++ Doc.tripleQuote ++ "Gets the current version of the Chrome DevTools Protocol." ++
        Doc.tripleQuote,
      "    return PROTOCOL_VERSION",
      ""]

/-- The files of the given modules and the list of their domains. -/
def filesOf (schema : Schema) (modules : List Module) : List (String × String) :=
  Entries.set indexName (indexSource schema)
    (Entries.ofList (modules.map fun m => (m.fileName, m.source)))

/-- The files of a package by name, in the order of their generation. -/
def files (package : String) (schema : Schema) : Except GenerationError (List (String × String)) :=
  (modules package schema).map (filesOf schema)

end ProtocolBindings.Package
