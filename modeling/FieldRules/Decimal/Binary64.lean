namespace FieldRules.Binary64

/-- What the bits of a number say; a finite one is `± mantissa · 2 ^ exponent`. -/
inductive View where
  | finite (negative : Bool) (mantissa : Nat) (exponent : Int)
  | infinite (negative : Bool)
  | nan

def view (x : Float) : View :=
  let b : Nat := x.toBits.toNat
  let negative : Bool := b / 0x8000000000000000 = 1
  let e : Nat := b / 0x10000000000000 % 2048
  let f : Nat := b % 0x10000000000000
  if e = 2047 then if f = 0 then .infinite negative else .nan
  else if e = 0 then .finite negative f (-1074)
  else .finite negative (0x10000000000000 + f) ((e : Int) - 1075)

/-- Whole part of `m · 2 ^ e`. -/
def wholePart (m : Nat) (e : Int) : Nat :=
  if 0 ≤ e then m * Nat.pow 2 e.toNat else m / Nat.pow 2 (-e).toNat

def isWhole (m : Nat) (e : Int) : Bool := 0 ≤ e || m % Nat.pow 2 (-e).toNat == 0

def signed (negative : Bool) (n : Nat) : Int := if negative then -n else n

def int64Min : Int := -0x8000000000000000

def int64Max : Int := 0x7FFFFFFFFFFFFFFF

/-- Truncates toward zero; what lies beyond the 64-bit words goes to the nearest one, and what is
no number to zero. -/
def truncate (x : Float) : Int :=
  match view x with
  | .finite negative m e => max int64Min (min int64Max (signed negative (wholePart m e)))
  | .infinite negative => if negative then int64Min else int64Max
  | .nan => 0

/-- The integer that a number below 10 ^ 15 in magnitude is, if it is one. -/
def smallWhole? (x : Float) : Option Int :=
  match view x with
  | .finite negative m e =>
    if isWhole m e ∧ wholePart m e < 1000000000000000 then some (signed negative (wholePart m e))
    else none
  | _ => none

end FieldRules.Binary64
