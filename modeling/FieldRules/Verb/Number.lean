import FieldRules.Verb.Basic
import FieldRules.Decimal.Notation

namespace FieldRules

inductive NumberVerb where
  | digits | digitsBetween | integer
  | greaterThan | greaterThanOrEqual | lessThan | lessThanOrEqual
  | between | oneOf
  deriving DecidableEq

namespace NumberVerb

def all : List NumberVerb :=
  [digits, digitsBetween, integer, greaterThan, greaterThanOrEqual, lessThan, lessThanOrEqual,
    between, oneOf]

def name : NumberVerb → String
  | digits => "digits"
  | digitsBetween => "digitsBetween"
  | integer => "integer"
  | greaterThan => "greaterThan"
  | greaterThanOrEqual => "greaterThanOrEqual"
  | lessThan => "lessThan"
  | lessThanOrEqual => "lessThanOrEqual"
  | between => "between"
  | oneOf => "in"

/-- Magnitude without its fraction; an infinite number has none. -/
def magnitude? (x : Float) : Option Nat :=
  match Binary64.view x with
  | .finite _ m e => some (Binary64.wholePart m e)
  | .infinite _ => none
  | .nan => some 0

/-- A tenth of a whole number, as binary64 numbers are divided, without its fraction. -/
def tenth? (n : Nat) : Option Nat := magnitude? (Float.ofModel (.ofNat n) / 10.0)

/-- Times a whole number can be divided by ten before it is below ten; `none` when a quotient is no
smaller than what was divided, as of an infinite number. -/
def tenfolds? (n : Nat) : Option Nat :=
  if n < 10 then some 0
  else (tenth? n).bind fun q => if h : q < n then (tenfolds? q).map (· + 1) else none
termination_by n
decreasing_by exact h

/-- Decimal digits before the point; `none` when counting them never ends. -/
def digitCount? (x : Float) : Option Nat := (magnitude? x).bind fun n => (tenfolds? n).map (· + 1)

/-- Counts the digits of the value and goes on with their number. -/
def counted (f : Field) (check : Nat → Except Failure Field) : Except Failure Field := do
  match digitCount? (← f.number) with
  | none => return { f with endless := true }
  | some count => check count

def bound (kind : String) (holds : Float → Float → Bool) (f : Field) : Except Failure Field := do
  let limit ← f.argNumber 0
  f.verify (holds (← f.number) limit) ((f.fail kind).withText (formatNumber limit))

/-- Looks for `x` among the arguments from the `i`-th on; one that is no number ends the search. -/
def search (f : Field) (x : Float) : (i : Nat) → (left : Nat) → Except Failure Field
  | _, 0 => .error (f.fail "number.in")
  | i, left + 1 => do
    if (← f.argNumber i) == x then return f else search f x (i + 1) left

def run : NumberVerb → Handler
  | digits, _, _, f => do
    let n ← f.argCount 0
    counted f fun count =>
      f.verify (count == n) ((f.fail "number.digits").withText (toString n))
  | digitsBetween, _, _, f => do
    let low ← f.argCount 0
    let high ← f.argCount 1
    counted f fun count =>
      f.verify (low ≤ count && count ≤ high)
        ((f.fail "number.digitsBetween").withText (toString low) |>.withText (toString high))
  | integer, _, _, f => do
    let x ← f.number
    return { f with value := some (.integer (Int64.ofInt (Binary64.truncate x))) }
  | greaterThan, _, _, f => bound "number.greaterThan" (fun x limit => limit < x) f
  | greaterThanOrEqual, _, _, f => bound "number.greaterThanOrEqual" (fun x limit => limit ≤ x) f
  | lessThan, _, _, f => bound "number.lessThan" (fun x limit => x < limit) f
  | lessThanOrEqual, _, _, f => bound "number.lessThanOrEqual" (fun x limit => x ≤ limit) f
  | between, _, _, f => do
    let low ← f.argNumber 0
    let high ← f.argNumber 1
    let x ← f.number
    f.verify (!(x < low || high < x))
      ((f.fail "number.between").withText (formatNumber low) |>.withText (formatNumber high))
  | oneOf, _, _, f => do search f (← f.number) 0 f.args.length

end NumberVerb
end FieldRules
