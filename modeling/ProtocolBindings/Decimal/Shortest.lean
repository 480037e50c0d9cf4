import ProtocolBindings.Decimal.Binary64

/-!
# Shortest decimals

The decimal with the fewest digits that still rounds to a given binary number, and of several
such decimals the nearest one.  For each number of digits the two neighbours of the value on
that decimal grid are tested in exact arithmetic; if any point of a grid rounds to the number,
one of these two does.
-/

namespace ProtocolBindings

/-- The value `digits * 10 ^ exponent`. -/
structure Decimal where
  digits : Nat
  exponent : Int
deriving DecidableEq, Repr, Inhabited

namespace Decimal

/-- Drops the zeros at the end of the digits; `fuel` bounds their number. -/
def dropZeros : Nat → Decimal → Decimal
  | 0, d => d
  | fuel + 1, d =>
    if d.digits != 0 && d.digits % 10 == 0 then dropZeros fuel ⟨d.digits / 10, d.exponent + 1⟩
    else d

end Decimal

namespace Binary64

def compareScaled (a : Nat) (exponent : Int) (num den : Nat) : Ordering :=
  if 0 ≤ exponent then compare (a * Nat.pow 10 exponent.toNat * den) num
  else compare (a * den) (num * Nat.pow 10 (-exponent).toNat)

/-- The power of ten of the first digit of `num / den`, a positive value above `10 ^ (-400)`. -/
def leadingPower (num den : Nat) : Int :=
  if den ≤ num then ((Nat.toDigits 10 (num / den)).length : Int) - 1
  else -(((List.range 400).find? fun k => den ≤ num * Nat.pow 10 k).getD 0 : Nat)

/-- The shortest decimal that rounds to `significand * 2 ^ exponent`.  The bounds of the values
that round to it are kept as quotients by `den`; they belong to them when the significand is
even. -/
def shortest (significand : Nat) (exponent : Int) : Decimal :=
  if significand == 0 then ⟨0, 0⟩
  else
    let scale := exponent - 2
    let up := if 0 ≤ scale then Nat.pow 2 scale.toNat else 1
    let den := if 0 ≤ scale then 1 else Nat.pow 2 (-scale).toNat
    let value := 4 * significand * up
    let narrow := significand == Nat.pow 2 52 && minExponent < exponent
    let low := (4 * significand - if narrow then 1 else 2) * up
    let high := (4 * significand + 2) * up
    let closed := significand % 2 == 0
    let rounds (a : Nat) (e : Int) : Bool :=
      (match compareScaled a e low den with
        | .lt => false | .eq => closed | .gt => true) &&
      (match compareScaled a e high den with
        | .lt => true | .eq => closed | .gt => false)
    let top := leadingPower value den
    let candidate (places : Nat) : Option Decimal :=
      let e := top - places
      let a :=
        if 0 ≤ e then value / (den * Nat.pow 10 e.toNat) else value * Nat.pow 10 (-e).toNat / den
      match rounds a e, rounds (a + 1) e with
      | false, false => none
      | true, false => some ⟨a, e⟩
      | false, true => some ⟨a + 1, e⟩
      | true, true =>
        -- The nearer of the two lies on the same side of the middle as the value.
        match compareScaled (2 * a + 1) e (2 * value) den with
        | .lt => some ⟨a + 1, e⟩
        | .gt => some ⟨a, e⟩
        | .eq => some ⟨if a % 2 == 0 then a else a + 1, e⟩
    (((List.range 17).findSome? candidate).getD ⟨0, 0⟩).dropZeros 20

end Binary64

end ProtocolBindings
