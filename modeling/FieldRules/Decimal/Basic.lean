namespace FieldRules

/-- The number `digits · 10 ^ exponent`. -/
structure Decimal where
  digits : Nat
  exponent : Int
  deriving DecidableEq

namespace Decimal

def numeral (n : Nat) : List Char := Nat.toDigits 10 n

/-- Moves the zeros at the end of the digits into the exponent; `fuel` bounds their number. -/
def normalize : (fuel : Nat) → Decimal → Decimal
  | 0, d => d
  | fuel + 1, d =>
    if d.digits % 10 = 0 ∧ d.digits ≠ 0 then normalize fuel ⟨d.digits / 10, d.exponent + 1⟩ else d

/-- Nearest binary64 number, ties to even. Far beyond the range the power is not computed. -/
def toFloat (d : Decimal) : Float :=
  let magnitude := d.exponent + (numeral d.digits).length
  if d.digits = 0 ∨ magnitude < -330 then 0.0
  else if 310 < magnitude then 1.0 / 0.0
  else Float.ofScientific d.digits (d.exponent < 0) d.exponent.natAbs

end Decimal
end FieldRules
