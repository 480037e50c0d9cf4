import ProtocolBindings.Datum.Calendar
import ProtocolBindings.Entries

/-!
# Keys of mappings

Which data can be keys, and which keys are the same.  Numbers are the same key if they are equal,
whatever their kind; truth values count as zero and one.  Two times that both have a known
distance from universal time are the same key if they are the same instant.
-/

namespace ProtocolBindings

namespace Datum

def canBeKey : Datum → Bool
  | .list _ | .mapping _ | .set _ | .shared _ => false
  | _ => true

/-- The integer that a number equals, if there is one. -/
def integer? : Datum → Option Int
  | .boolean b => some (if b then 1 else 0)
  | .integer n => some n
  | .float x => x.toInt?
  | _ => none

end Datum

/-- Whether two times are the same. -/
def Timestamp.isSame (s t : Timestamp) : Bool :=
  match s.instant?, t.instant? with
  | some i, some j => i == j
  | none, none => s == t
  | _, _ => false

/-- A key of a mapping.  What is not a number differs from everything that is read in another
place, so a key of that kind holds the place it is read from. -/
structure Key where
  datum : Datum
  origin : Option Nat := none
deriving Inhabited, Repr

namespace Key

def isSame (a b : Key) : Bool :=
  match a.datum.integer?, b.datum.integer? with
  | some m, some n => m == n
  | none, none =>
    match a.datum, b.datum with
    | .null, .null => true
    | .float .notANumber, .float .notANumber => a.origin == b.origin
    | .float x, .float y => x == y
    | .text s, .text t => s == t
    | .bytes s, .bytes t => s == t
    | .date y m d, .date y' m' d' => y == y' && m == m' && d == d'
    | .timestamp s, .timestamp t => s.isSame t
    | _, _ => false
  | _, _ => false

/-- Entries with the same key made into one: in the first one's place and with its key, and with
the last one's value. -/
def unify (entries : List (Key × Datum)) : List (Datum × Datum) :=
  (@Entries.ofList Key Datum ⟨isSame⟩ entries).map fun (key, value) => (key.datum, value)

end Key

end ProtocolBindings
