import ProtocolBindings.Schema.Basic

/-!
# Statistics

What a run has to do with, in numbers, and what it changes of the run before.
-/

namespace ProtocolBindings

/-- The numbers of a run. -/
structure Statistics where
  domains : Nat := 0
  types : Nat := 0
  commands : Nat := 0
  experimentalDomains : Nat := 0
  files : Nat := 0
  /-- Files that the previous run recorded with another content. -/
  modified : List String := []
  /-- Files that the previous run recorded and this one does not generate. -/
  removed : List String := []
deriving DecidableEq, Repr

/-- The numbers that can be read off a schema. -/
def Statistics.ofSchema (schema : Schema) : Statistics :=
  { domains := schema.domains.length
    types := (schema.domains.flatMap (·.types)).length
    commands := (schema.domains.flatMap (·.commands)).length
    experimentalDomains := (schema.domains.filter (·.experimental)).length }

end ProtocolBindings
