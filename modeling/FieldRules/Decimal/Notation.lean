import FieldRules.Decimal.Shortest

namespace FieldRules.Decimal

def minus (negative : Bool) (cs : List Char) : List Char := if negative then '-' :: cs else cs

/-- Digits and point without an exponent; a whole number has neither point nor fraction. -/
def positional (d : Decimal) : List Char :=
  let ds := numeral d.digits
  if 0 ≤ d.exponent then ds ++ List.replicate d.exponent.toNat '0'
  else
    let places := (-d.exponent).toNat
    if ds.length ≤ places then '0' :: '.' :: (List.replicate (places - ds.length) '0' ++ ds)
    else ds.take (ds.length - places) ++ '.' :: ds.drop (ds.length - places)

/-- One digit before the point, and an exponent with its sign. -/
def scientific (d : Decimal) : List Char :=
  let ds := numeral d.digits
  let e := d.exponent + (ds.length - 1 : Nat)
  let mantissa := match ds with
    | [] => []
    | [c] => [c]
    | c :: cs => c :: '.' :: cs
  mantissa ++ 'e' :: (if e < 0 then '-' else '+') :: numeral e.natAbs

/-- The way messages show a number: never an exponent, and a half step goes up. -/
def plain (x : Float) : List Char :=
  match Binary64.smallWhole? x with
  | some n => (toString n).toList
  | none => match Binary64.view x with
    | .finite negative m q => minus negative (positional (shortest .up m q))
    | .infinite negative => minus negative "inf".toList
    | .nan => "NaN".toList

/-- The way JSON texts show a finite number: always a point or an exponent. Exponents stand for
numbers from 10 ^ 16 up and below 10 ^ -5. -/
def pointed (x : Float) : List Char :=
  match Binary64.view x with
  | .finite negative m q =>
    let d := shortest .toEven m q
    let e := d.exponent + ((numeral d.digits).length - 1 : Nat)
    minus negative <|
      if -5 ≤ e ∧ e < 16 then
        if 0 ≤ d.exponent then positional d ++ ['.', '0'] else positional d
      else scientific d
  | _ => "null".toList

end FieldRules.Decimal

namespace FieldRules

def formatNumber (x : Float) : String := String.ofList (Decimal.plain x)

end FieldRules
