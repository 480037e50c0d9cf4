import ProtocolBindings.Files.Path
import ProtocolBindings.Source.Package
import ProtocolBindings.Validation
import ProtocolBindings.Version

/-!
# Configurations

A configuration says where the protocol's files are, where the package is written, what it is
called, and which version and domains it is made for.  Only the place of the package has no
value of its own to fall back to.
-/

namespace ProtocolBindings

/-- What a run does beyond writing the modules. -/
structure Options where
  /-- Whether a manifest is written. -/
  manifest : Bool := true
  /-- Whether files that are no longer generated are removed. -/
  clean : Bool := true
deriving DecidableEq, Repr

/-- The configuration of a run. -/
structure Config where
  protocolDir : String := "priv"
  output : String
  package : String := Package.defaultName
  version : ProtocolVersion
  domains : List String := []
  options : Options := {}
deriving DecidableEq, Repr

namespace Options

/-- Reads the options of a run. -/
def ofDocument (d : Document) : Validated Options :=
  (d.asRecord "OptionsConfig").check fun record =>
    Options.mk <$> optionalField record "manifest" true Document.asBoolean
      <*> optionalField record "clean" true Document.asBoolean

end Options

namespace Config

/-- Whether a text is the name of a package: identifiers with points between them. -/
def isPackageName (name : String) : Bool :=
  (Text.pieces (· == '.') name.toList).all fun piece => Text.isIdentifier (String.ofList piece)

def packageName (d : Document) : Validated String :=
  d.asText.check fun name =>
    if isPackageName name then .valid name
    else
      .fail (.rejected ("Invalid package '" ++ name ++
        "'. Expected a dotted module path like 'myapp.rpc'.")) d

/-- Reads a version.  Any datum that can be shown asks for the version of its text; nothing asks for
the one that the environment names. -/
def versionOf (environment : Option String) (d : Document) : Validated ProtocolVersion :=
  match d.datum with
  | .null => .valid (.select environment)
  | _ =>
    if d.isShowable then .valid (.select (some d.display))
    else .fail (.rejected Datum.unshowableMessage) d

/-- Reads a configuration, where `environment` is the version that the environment names. -/
def ofDocument (environment : Option String) (d : Document) : Validated Config :=
  (d.asRecord "CRIConfig").check fun record =>
    Config.mk <$> optionalField record "protocol_dir" "priv" Document.asText
      <*> requiredField record "output" Document.asText
      <*> optionalField record "package" Package.defaultName packageName
      <*> optionalField record "version" (.select environment) (versionOf environment)
      <*> optionalField record "domains" [] (Document.asList Document.asText)
      <*> optionalField record "options" {} Options.ofDocument

/-- The configuration that a document holds, or the report on what is wrong with it. -/
def validate (environment : Option String) (d : Document) : Except ValidationError Config :=
  (ofDocument environment d).toExcept "CRIConfig"

/-- The configuration for a version asked for on top of it, if one is. -/
def withVersion (request : Option String) (config : Config) : Config :=
  match request with
  | none => config
  | some name => { config with version := .select (some name) }

/-- The directory of the protocol's files. -/
def protocolPath (config : Config) : Path :=
  .ofText config.protocolDir

/-- The directory of the package. -/
def outputPath (config : Config) : Path :=
  .ofText config.output

/-- A path given in a file, as seen from where the file is.  An absolute path stays as it is
written. -/
def relativeTo (base : Path) (text : String) : String :=
  if (Path.ofText text).isAbsolute then text else (base.joinText text).text

/-- The configuration of a file in the directory `base`, with its paths as seen from outside. -/
def within (base : Path) (config : Config) : Config :=
  { config with
    protocolDir := relativeTo base config.protocolDir
    output := relativeTo base config.output }

end Config

end ProtocolBindings
