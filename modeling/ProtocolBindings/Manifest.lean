import ProtocolBindings.Json.Read
import ProtocolBindings.Schema.Fingerprint
import ProtocolBindings.Source.Package
import ProtocolBindings.Text.Lines
import ProtocolBindings.Text.Utf8

/-!
# Manifests

A manifest records what a run has generated: the schema it came from and every file with a digest
of its text.  It holds no time, so that a run over the same schema writes it anew without a
change.  The manifest of the previous run tells which files have changed and which are left over.
-/

namespace ProtocolBindings

/-- A generated file. -/
structure OutputInfo where
  path : String
  hash : String
  /-- The domain the file belongs to; the list of domains belongs to none. -/
  domain : Option String := none
deriving DecidableEq, Repr

/-- The record of one run. -/
structure Manifest where
  version : String := "1.0.0"
  protocolVersion : String
  package : String
  schemaHash : String
  outputs : List OutputInfo := []
deriving DecidableEq, Repr

namespace OutputInfo

/-- The record of a file as JSON. -/
def toJson (o : OutputInfo) : Json :=
  .object [("path", .string o.path), ("hash", .string o.hash), ("domain", .ofText? o.domain)]

/-- Reads the record of a file. -/
def ofDocument (d : Document) : Validated OutputInfo :=
  (d.asRecord "OutputInfo").check fun record =>
    OutputInfo.mk <$> requiredField record "path" Document.asText
      <*> requiredField record "hash" Document.asText
      <*> optionalField record "domain" none Document.asOptionalText

end OutputInfo

namespace Manifest

def fileName : String := ".cri-manifest.json"

def toJson (m : Manifest) : Json :=
  .object
    [("version", .string m.version), ("protocol_version", .string m.protocolVersion),
      ("package", .string m.package), ("schema_hash", .string m.schemaHash),
      ("outputs", .array (m.outputs.map (·.toJson)))]

def toText (m : Manifest) : String :=
  m.toJson.toIndentedText ++ "\n"

def ofDocument (d : Document) : Validated Manifest :=
  (d.asRecord "GenerationManifest").check fun record =>
    Manifest.mk <$> optionalField record "version" "1.0.0" Document.asText
      <*> requiredField record "protocol_version" Document.asText
      <*> requiredField record "package" Document.asText
      <*> requiredField record "schema_hash" Document.asText
      <*> optionalField record "outputs" [] (Document.asList OutputInfo.ofDocument)

/-- The manifest that the bytes of a file hold; none if they hold no manifest.  An integer with too
many digits is one of the reasons why they hold none, but the other limits are not. -/
def ofBytes? [Host] (bytes : ByteArray) : Except Limit (Option Manifest) :=
  match Text.Utf8.decode bytes with
  | .error _ => .ok none
  | .ok text =>
    match Json.parse (Text.unifyNewlines text.toList) with
    | .error fault =>
      match fault.limit? with
      | none | some .digits => .ok none
      | some limit => .error limit
    | .ok json =>
      match ofDocument (.ofJson json) with
      | .valid m => .ok (some m)
      | .invalid _ => .ok none

/-- The digest of a file's text. -/
def contentHash (content : String) : String :=
  Sha256.shortDigest content

def domainOf? (schema : Schema) (fileName : String) : Option String :=
  (schema.domains.find? fun d => d.name ++ ".py" == fileName).map (·.name)

/-- The records of generated files, in ascending order of their names. -/
def outputsOf (schema : Schema) (files : List (String × String)) : List OutputInfo :=
  (files.mergeSort fun a b => a.1 ≤ b.1).map fun (name, content) =>
    { path := name, hash := contentHash content, domain := domainOf? schema name }

def ofFiles (package : String) (schema : Schema) (files : List (String × String)) : Manifest :=
  { protocolVersion := schema.version
    package
    schemaHash := schema.fingerprint
    outputs := outputsOf schema files }

/-- The paths of the recorded files, in ascending order. -/
def paths (m : Manifest) : List String :=
  Ascending.ofList (m.outputs.map (·.path))

/-- The recorded files that are not among the new ones, in ascending order. -/
def orphaned (m : Manifest) (outputs : List OutputInfo) : List String :=
  m.paths.filter fun path => !(outputs.map (·.path)).contains path

/-- The digest recorded for a path; the last one counts. -/
def hash? (m : Manifest) (path : String) : Option String :=
  (m.outputs.reverse.find? (·.path == path)).map (·.hash)

/-- Whether a file was recorded with another digest. -/
def isModified (m : Manifest) (output : OutputInfo) : Bool :=
  match m.hash? output.path with
  | none => false
  | some hash => hash != output.hash

/-- The new files that were recorded with another digest, in ascending order. -/
def modified (m : Manifest) (outputs : List OutputInfo) : List String :=
  ((outputs.filter m.isModified).map (·.path)).mergeSort (· ≤ ·)

end Manifest

end ProtocolBindings
