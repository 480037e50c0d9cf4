import ProtocolBindings.Yaml.Fault

/-!
# Tokens

The parts of a text that its structure is read from.  The start and the end of a collection in
block form are tokens too, although no character stands for them.
-/

namespace ProtocolBindings.Yaml

/-- An instruction in front of a document. -/
inductive Directive where
  | version (major minor : Nat)
  /-- What a handle in front of a tag stands for. -/
  | tagHandle (handle meaning : String)
  | other
deriving DecidableEq, Repr

/-- The kinds of tokens. -/
inductive TokenKind where
  | streamEnd
  | directive (directive : Directive)
  | documentStart
  | documentEnd
  | blockSequenceStart
  | blockMappingStart
  | blockEnd
  | flowSequenceStart
  | flowSequenceEnd
  | flowMappingStart
  | flowMappingEnd
  | blockEntry
  | flowEntry
  | key
  | value
  | alias (name : String)
  | anchor (name : String)
  | tag (handle : Option String) (suffix : String)
  | scalar (text : String) (plain : Bool)
deriving DecidableEq, Repr

/-- What a token is called in a fault. -/
def TokenKind.name : TokenKind → String
  | .streamEnd => "<stream end>"
  | .directive _ => "<directive>"
  | .documentStart => "<document start>"
  | .documentEnd => "<document end>"
  | .blockSequenceStart => "<block sequence start>"
  | .blockMappingStart => "<block mapping start>"
  | .blockEnd => "<block end>"
  | .flowSequenceStart => "["
  | .flowSequenceEnd => "]"
  | .flowMappingStart => "\x7b"
  | .flowMappingEnd => "\x7d"
  | .blockEntry => "-"
  | .flowEntry => ","
  | .key => "?"
  | .value => ":"
  | .alias _ => "<alias>"
  | .anchor _ => "<anchor>"
  | .tag .. => "<tag>"
  | .scalar .. => "<scalar>"

/-- A token with its place. -/
structure Token where
  kind : TokenKind
  start : Mark
  stop : Mark
deriving DecidableEq, Repr

end ProtocolBindings.Yaml
