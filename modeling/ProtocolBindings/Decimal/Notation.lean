import ProtocolBindings.Decimal.Shortest

/-!
# Number texts

How a floating-point number is written: the shortest digits that read back, with a point and at
least one digit after it, positionally from `0.0001` up to sixteen digits before the point and
with an exponent of at least two digits outside that range.
-/

namespace ProtocolBindings

/-- The words for the values that have no digits. -/
structure SpecialWords where
  infinity : String
  notANumber : String
deriving DecidableEq, Repr

namespace Decimal

def zeros (n : Nat) : String :=
  String.ofList (List.replicate n '0')

/-- The digits of a decimal with the point after the first `point` of them; the point may lie
outside the digits on either side. -/
def positional (digits : List Char) (point : Int) : String :=
  if point ≤ 0 then "0." ++ zeros (-point).toNat ++ String.ofList digits
  else if point < digits.length then
    String.ofList (digits.take point.toNat) ++ "." ++ String.ofList (digits.drop point.toNat)
  else String.ofList digits ++ zeros (point.toNat - digits.length) ++ ".0"

/-- The digits of a decimal as one digit before the point and an exponent. -/
def scientific (digits : List Char) (exponent : Int) : String :=
  let power := toString exponent.natAbs
  let head := String.ofList (digits.take 1)
  let tail := digits.drop 1
  head ++ (if tail.isEmpty then "" else "." ++ String.ofList tail) ++ "e" ++
    (if exponent < 0 then "-" else "+") ++ (if power.length < 2 then "0" else "") ++ power

/-- The text of a decimal: positional if the first digit has a place from `10 ^ (-4)` to
`10 ^ 15`. -/
def text (d : Decimal) : String :=
  let digits := Nat.toDigits 10 d.digits
  let point : Int := digits.length + d.exponent
  if d.digits == 0 then "0.0"
  else if -4 < point && point ≤ 16 then positional digits point
  else scientific digits (point - 1)

end Decimal

def Binary64.text (words : SpecialWords) : Binary64 → String
  | .finite negative significand exponent =>
    (if negative then "-" else "") ++ (shortest significand exponent).text
  | .infinite negative => (if negative then "-" else "") ++ words.infinity
  | .notANumber => words.notANumber

end ProtocolBindings
