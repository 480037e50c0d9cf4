/-!
# Protocol versions

The versions of the protocol that can be asked for.  Any other request means the newest one, the
tip of the tree.
-/

namespace ProtocolBindings

/-- A version of the protocol. -/
inductive ProtocolVersion where
  | v12
  | v13
  | tipOfTree
deriving DecidableEq, Repr

namespace ProtocolVersion

/-- Every version, oldest first. -/
def all : List ProtocolVersion := [.v12, .v13, .tipOfTree]

/-- The version a request that names none falls back to. -/
def default : ProtocolVersion := .tipOfTree

def name : ProtocolVersion → String
  | .v12 => "1-2"
  | .v13 => "1-3"
  | .tipOfTree => "tot"

def ofName? (name : String) : Option ProtocolVersion :=
  all.find? (·.name == name)

def select (request : Option String) : ProtocolVersion :=
  (request.bind ofName?).getD default

/-- The environment variable that names the version to use where nothing else does. -/
def environmentKey : String := "CRI_PROTOCOL_VERSION"

end ProtocolVersion

end ProtocolBindings
