/-!
# Binary floating-point numbers

Numbers of the 64-bit binary format, held by their exact value so that they can be compared and
computed with as integers.  A quotient of integers is rounded to the nearest number of the
format, and a half goes to the even significand.
-/

namespace ProtocolBindings

/-- A number of the 64-bit binary format. -/
inductive Binary64 where
  /-- The value `significand * 2 ^ exponent`, with its sign; zero has two signs. -/
  | finite (negative : Bool) (significand : Nat) (exponent : Int)
  | infinite (negative : Bool)
  | notANumber
deriving DecidableEq, Repr, Inhabited

namespace Binary64

/-- The least exponent of a significand, that of the subnormal numbers. -/
def minExponent : Int := -1074

/-- The greatest exponent of a significand. -/
def maxExponent : Int := 971

/-- The quotient rounded to an integer, a half to the even neighbour. -/
def roundHalfEven (num den : Nat) : Nat :=
  let quotient := num / den
  let rest := num % den
  if 2 * rest < den then quotient
  else if den < 2 * rest then quotient + 1
  else if quotient % 2 == 0 then quotient
  else quotient + 1

def belowPower (num den : Nat) (power : Int) : Bool :=
  if 0 ≤ power then num < den * Nat.pow 2 power.toNat else num * Nat.pow 2 (-power).toNat < den

def ofRatio (negative : Bool) (num den : Nat) : Binary64 :=
  if num == 0 then .finite negative 0 minExponent
  else
    let guess : Int := (num.log2 : Int) - den.log2
    let top := if belowPower num den guess then guess - 1 else guess
    let exponent := max (top - 52) minExponent
    let significand :=
      if 0 ≤ exponent then roundHalfEven num (den * Nat.pow 2 exponent.toNat)
      else roundHalfEven (num * Nat.pow 2 (-exponent).toNat) den
    let (significand, exponent) :=
      if significand == Nat.pow 2 53 then (Nat.pow 2 52, exponent + 1) else (significand, exponent)
    if maxExponent < exponent then .infinite negative
    else .finite negative significand exponent

/-- The number nearest to `digits * 10 ^ exponent`.  Exponents far outside the range of the
format are settled without computing the power. -/
def ofDecimal (negative : Bool) (digits : Nat) (exponent : Int) : Binary64 :=
  let size : Int := (Nat.toDigits 10 digits).length + exponent
  if digits == 0 || size < -330 then .finite negative 0 minExponent
  else if 310 < size then .infinite negative
  else if 0 ≤ exponent then ofRatio negative (digits * Nat.pow 10 exponent.toNat) 1
  else ofRatio negative digits (Nat.pow 10 (-exponent).toNat)

/-- The number nearest to an integer. -/
def ofInt (n : Int) : Binary64 :=
  ofDecimal (n < 0) n.natAbs 0

/-- The integer a number equals, if there is one. -/
def toInt? : Binary64 → Option Int
  | .finite negative significand exponent =>
    let signed (n : Nat) : Int := if negative then -n else n
    if 0 ≤ exponent then some (signed (significand * Nat.pow 2 exponent.toNat))
    else
      let den := Nat.pow 2 (-exponent).toNat
      if significand % den == 0 then some (signed (significand / den)) else none
  | _ => none

/-- The same magnitude with the other sign. -/
def negate : Binary64 → Binary64
  | .finite negative significand exponent => .finite (!negative) significand exponent
  | .infinite negative => .infinite (!negative)
  | .notANumber => .notANumber

end Binary64

end ProtocolBindings
