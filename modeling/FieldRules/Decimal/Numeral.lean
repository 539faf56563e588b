import FieldRules.Decimal.Basic
import FieldRules.Text.Basic
import FieldRules.Text.Numeral

namespace FieldRules.Decimal

/-- Digits at the front and the text after them. -/
def spanDigits (cs : List Char) : List Char × List Char :=
  (cs.takeWhile Char.isDigit, cs.dropWhile Char.isDigit)

/-- An exponent, which has a digit, to the end of the text. -/
def exponent? (cs : List Char) : Option Int :=
  let value (ds : List Char) : Option Nat :=
    if ds ≠ [] ∧ ds.all Char.isDigit then some (Text.digitsValue ds) else none
  match cs with
  | '-' :: ds => (value ds).map fun n => -(n : Int)
  | '+' :: ds => (value ds).map Int.ofNat
  | ds => (value ds).map Int.ofNat

/-- An unsigned decimal: digits before or after the point, then an exponent or the end. -/
def ofText? (cs : List Char) : Option Decimal :=
  let (whole, rest) := spanDigits cs
  let (fraction, rest) := match rest with
    | '.' :: rest => spanDigits rest
    | rest => ([], rest)
  let digits := Text.digitsValue (whole ++ fraction)
  if whole = [] ∧ fraction = [] then none
  else match rest with
    | [] => some ⟨digits, -fraction.length⟩
    | c :: rest =>
      if c = 'e' ∨ c = 'E' then (exponent? rest).map fun e => ⟨digits, e - fraction.length⟩
      else none

def unsigned? (cs : List Char) : Option Float :=
  let name := Text.lower cs
  if name = "inf".toList ∨ name = "infinity".toList then some (1.0 / 0.0)
  else if name = "nan".toList then some (0.0 / 0.0)
  else (ofText? cs).map toFloat

/-- Reads a number after one sign or none. -/
def float? (cs : List Char) : Option Float :=
  match cs with
  | '-' :: ds => (unsigned? ds).map Float.neg
  | '+' :: ds => unsigned? ds
  | ds => unsigned? ds

end FieldRules.Decimal
