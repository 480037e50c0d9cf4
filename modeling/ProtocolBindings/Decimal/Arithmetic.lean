import ProtocolBindings.Decimal.Binary64

/-!
# Sums and products

The sum and the product of two numbers of the 64-bit binary format: the exact result, rounded to
the nearest number of the format.
-/

namespace ProtocolBindings.Binary64

def ofScaled (negative : Bool) (significand : Nat) (exponent : Int) : Binary64 :=
  if 0 ≤ exponent then ofRatio negative (significand * Nat.pow 2 exponent.toNat) 1
  else ofRatio negative significand (Nat.pow 2 (-exponent).toNat)

/-- The sum of two numbers.  A sum that is zero has a minus only if both numbers have one. -/
def add : Binary64 → Binary64 → Binary64
  | .notANumber, _ | _, .notANumber => .notANumber
  | .infinite s, .infinite t => if s == t then .infinite s else .notANumber
  | .infinite s, _ | _, .infinite s => .infinite s
  | .finite s m e, .finite t n f =>
    let least := min e f
    let scaled (negative : Bool) (significand : Nat) (exponent : Int) : Int :=
      let n : Int := significand * Nat.pow 2 (exponent - least).toNat
      if negative then -n else n
    let sum := scaled s m e + scaled t n f
    if sum == 0 then .finite (s && t) 0 minExponent
    else ofScaled (sum < 0) sum.natAbs least

/-- The product of two numbers. -/
def multiply : Binary64 → Binary64 → Binary64
  | .notANumber, _ | _, .notANumber => .notANumber
  | .finite s m e, .finite t n f => ofScaled (s != t) (m * n) (e + f)
  | .finite s m _, .infinite t | .infinite t, .finite s m _ =>
    if m == 0 then .notANumber else .infinite (s != t)
  | .infinite s, .infinite t => .infinite (s != t)

end ProtocolBindings.Binary64
