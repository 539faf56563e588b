import FieldRules.Decimal.Basic
import FieldRules.Decimal.Binary64

namespace FieldRules.Decimal

/-- Where a point goes that lies halfway between two points of the grid. -/
inductive Tie where
  | up | toEven
  deriving DecidableEq

/-- A number and its rounding bounds: `lower`, `value` and `upper`, each times `2 ^ power`. -/
structure Interval where
  lower : Nat
  value : Nat
  upper : Nat
  power : Int
  closed : Bool

/-- The interval of `m · 2 ^ q`; below a power of two the neighbour is half as far. -/
def Interval.of (m : Nat) (q : Int) : Interval :=
  let gap := if m = 0x10000000000000 ∧ -1074 < q then 1 else 2
  ⟨4 * m - gap, 4 * m, 4 * m + 2, q - 2, m % 2 = 0⟩

/-- A point of the grid of step `10 ^ p` in the interval, the nearer one if two are. -/
def Interval.gridPoint? (i : Interval) (tie : Tie) (p : Int) : Option Nat :=
  let scale := Nat.pow 2 i.power.toNat * Nat.pow 10 (-p).toNat
  let step := Nat.pow 10 p.toNat * Nat.pow 2 (-i.power).toNat
  let inside (d : Nat) : Bool :=
    if i.closed then i.lower * scale ≤ d * step && d * step ≤ i.upper * scale
    else i.lower * scale < d * step && d * step < i.upper * scale
  let d := i.value * scale / step
  let below := i.value * scale - d * step
  let above := (d + 1) * step - i.value * scale
  match inside d, inside (d + 1) with
  | false, false => none
  | true, false => some d
  | false, true => some (d + 1)
  | true, true =>
    if below < above then some d
    else if above < below then some (d + 1)
    else match tie with
      | .up => some (d + 1)
      | .toEven => if d % 2 = 0 then some d else some (d + 1)

/-- Exponent of the leading decimal digit of `m · 2 ^ q`. -/
def leading (m : Nat) (q : Int) : Int :=
  if 0 ≤ q then (numeral (m * Nat.pow 2 q.toNat)).length - 1
  else (numeral (m * Nat.pow 10 400 / Nat.pow 2 (-q).toNat)).length - 401

/-- The shortest decimal that reads back as `m · 2 ^ q`; seventeen digits always do. -/
def shortest (tie : Tie) (m : Nat) (q : Int) : Decimal :=
  if m = 0 then ⟨0, 0⟩
  else
    let top := leading m q
    -- If any point of a grid reads back, one of the two around the number does.
    let found := (List.range 17).findSome? fun (n : Nat) =>
      ((Interval.of m q).gridPoint? tie (top - n)).map fun d => (⟨d, top - n⟩ : Decimal)
    match found with
    | some d => normalize 20 d
    | none => ⟨m, 0⟩

end FieldRules.Decimal
