import ProtocolBindings.Console.Markup
import ProtocolBindings.Files.System
import ProtocolBindings.Schema.Build
import ProtocolBindings.Text.Utf8
import ProtocolBindings.ValidationReport
import ProtocolBindings.Yaml.Fault

/-!
# Failures

Everything that can end an operation of the program.
-/

namespace ProtocolBindings

/-- Why an operation ended. -/
inductive Failure where
  | generation (error : GenerationError)
  | invalidRecord (error : ValidationError)
  | file (error : FileError)
  /-- No configuration was named and none was found. -/
  | noConfig
  /-- A configuration is not in UTF-8. -/
  | notUtf8 (fault : Text.Utf8.Fault)
  /-- A configuration is not YAML. -/
  | notYaml (failure : Yaml.Failure) (text : String)
  /-- A document is beyond a limit of its reader. -/
  | beyond (limit : Limit)
  /-- A schema is nested too deep to be recorded. -/
  | unrecordable
  /-- A message cannot be shown on the console. -/
  | markup (fault : Markup.Fault)
deriving Repr

namespace Failure

def ofBuilding : BuildError → Failure
  | .generation e => .generation e
  | .invalidRecord e => .invalidRecord e
  | .tooDeep => .beyond .depth

def message : Failure → String
  | .generation e => e.message
  | .invalidRecord e => e.message
  | .file e => e.message
  | .noConfig => "No cri.yml found. Create one or specify path with --config"
  | .notUtf8 fault => fault.message
  | .notYaml failure text => failure.message text.toList
  | .beyond limit => limit.message
  | .unrecordable => "The schema is nested too deep to be recorded"
  | .markup fault => fault.message

/-- Whether an operation ended because a text names half a pair of 16-bit units. -/
def IsHalfPair : Failure → Prop
  | .beyond .pairs => True
  | .file e => e.problem = .beyond .pairs
  | .notYaml (.unreadable .halfPair) _ => True
  | _ => False

end Failure

end ProtocolBindings
