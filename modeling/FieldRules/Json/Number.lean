import FieldRules.Json.Basic
import FieldRules.Json.Error
import FieldRules.Text.Rest

namespace FieldRules.Json

def digitValue (c : Char) : Nat := c.toNat - '0'.toNat

def wordMax : Nat := 0xFFFFFFFFFFFFFFFF

def exponentMax : Int := 0x7FFFFFFF

def exponentMin : Int := -0x80000000

def pow10 (k : Nat) : Float := Float.ofScientific 1 false k

def isInfinite (x : Float) : Bool := x == 1.0 / 0.0

/-- Scales by `10 ^ e`. Powers beyond 10 ^ 308 are no binary64 numbers: a large exponent is out of
range, a small one is taken in steps of 308. -/
def scale : (fuel : Nat) → Float → Int → Option Float
  | 0, x, _ => some x
  | fuel + 1, x, e =>
    if e.natAbs ≤ 308 then
      if 0 ≤ e then
        let y := x * pow10 e.toNat
        if isInfinite y then none else some y
      else some (x / pow10 e.natAbs)
    else if x == 0.0 then some x
    else if 0 ≤ e then none
    else scale fuel (x / pow10 308) (e + 308)

def signed (negative : Bool) (x : Float) : Float := if negative then -x else x

def clampExponent (e : Int) : Int := max exponentMin (min exponentMax e)

/-- The number once its text has been read up to `rest`. Significand and power of ten are rounded
apart, before one is multiplied with the other. -/
def finishFloat (negative : Bool) (significand : Nat) (e : Int) (rest : List Char) :
    Except Fault Json :=
  match scale 10 (Float.ofNat significand) e with
  | some x => .ok (.float (signed negative x))
  | none => .error ⟨.numberOutOfRange, rest, 0⟩

def skipDigits (cs : List Char) : Tail cs := Tail.dropWhile Char.isDigit cs

/-- Digits of an exponent; `none` when they outgrow a 32-bit word, with the text after the digit
that did. -/
def exponentDigits (e : Nat) : (cs : List Char) → Option Nat × Tail cs
  | [] => (some e, .all [])
  | c :: cs =>
    if c.isDigit then
      if exponentMax < 10 * e + digitValue c then (none, (Tail.all cs).cons c)
      else
        let (r, rest) := exponentDigits (10 * e + digitValue c) cs
        (r, rest.cons c)
    else (some e, .all _)

/-- The exponent behind its letter. -/
def exponentPart (negative : Bool) (significand : Nat) (e : Int) (cs : List Char) :
    Except Fault (Json × Tail cs) :=
  let (down, ⟨ds, h⟩) : Bool × Tail cs := match cs with
    | '+' :: ds => (false, (Tail.all ds).cons '+')
    | '-' :: ds => (true, (Tail.all ds).cons '-')
    | ds => (false, .all ds)
  match ds, h with
  | [], _ => .error ⟨.endInValue, [], 0⟩
  | c :: rest, h =>
    if c.isDigit then
      match exponentDigits (digitValue c) rest with
      | (some n, later) => do
        let x ← finishFloat negative significand
          (clampExponent (if down then e - n else e + n)) later
        return (x, (later.cons c).within h)
      | (none, later) =>
        if significand ≠ 0 ∧ !down then .error ⟨.numberOutOfRange, later, 0⟩
        else
          let after := (skipDigits later).within later.2
          .ok (.float (signed negative 0.0), (after.cons c).within h)
    else .error ⟨.invalidNumber, c :: rest, 1⟩

/-- What may follow the digits of a fraction. -/
def afterFraction (negative : Bool) (significand : Nat) (e : Int) (cs : List Char) :
    Except Fault (Json × Tail cs) :=
  match cs with
  | c :: rest =>
    if c = 'e' ∨ c = 'E' then do
      let (x, later) ← exponentPart negative significand e rest
      return (x, later.cons c)
    else do
      return (← finishFloat negative significand e (c :: rest), .all _)
  | [] => do return (← finishFloat negative significand e [], .all [])

/-- Digits of a fraction, of which `count` have been read. -/
def fractionDigits (negative : Bool) (count significand : Nat) (e : Int) :
    (cs : List Char) → Except Fault (Json × Tail cs)
  | [] =>
    if count = 0 then .error ⟨.endInValue, [], 0⟩
    else afterFraction negative significand (e - count) []
  | c :: cs =>
    if c.isDigit then
      if wordMax < 10 * significand + digitValue c then do
        let ⟨rest, h⟩ := skipDigits (c :: cs)
        let (x, later) ← afterFraction negative significand (e - count) rest
        return (x, later.within h)
      else do
        let (x, rest) ←
          fractionDigits negative (count + 1) (10 * significand + digitValue c) e cs
        return (x, rest.cons c)
    else if count = 0 then .error ⟨.invalidNumber, c :: cs, 1⟩
    else afterFraction negative significand (e - count) (c :: cs)

/-- What may follow the digits of a significand that is already full; more of them, `e` so far,
only count. -/
def longTail (negative : Bool) (significand : Nat) (e : Nat) :
    (cs : List Char) → Except Fault (Json × Tail cs)
  | [] => do return (← finishFloat negative significand e [], .all [])
  | c :: cs =>
    if c.isDigit then do
      let (x, rest) ← longTail negative significand (e + 1) cs
      return (x, rest.cons c)
    else if c = '.' then do
      let (x, rest) ← fractionDigits negative 0 significand e cs
      return (x, rest.cons c)
    else if c = 'e' ∨ c = 'E' then do
      let (x, rest) ← exponentPart negative significand e cs
      return (x, rest.cons c)
    else do return (← finishFloat negative significand e (c :: cs), .all _)

/-- An integer, of either kind. -/
def integer (negative : Bool) (n : Nat) : Json :=
  if !negative then .whole n
  else if n = 0 ∨ 0x8000000000000000 < n then .float (-(Float.ofNat n))
  else .whole (-n)

/-- Digits of an integer whose value so far is `n`, and what may follow them. -/
def integerDigits (negative : Bool) (n : Nat) : (cs : List Char) → Except Fault (Json × Tail cs)
  | [] => .ok (integer negative n, .all [])
  | c :: cs =>
    if c.isDigit then
      if wordMax < 10 * n + digitValue c then longTail negative n 0 (c :: cs)
      else do
        let (x, rest) ← integerDigits negative (10 * n + digitValue c) cs
        return (x, rest.cons c)
    else if c = '.' then do
      let (x, rest) ← fractionDigits negative 0 n 0 cs
      return (x, rest.cons c)
    else if c = 'e' ∨ c = 'E' then do
      let (x, rest) ← exponentPart negative n 0 cs
      return (x, rest.cons c)
    else .ok (integer negative n, .all _)

/-- A number behind its sign; a leading zero stands alone. -/
def readNumber (negative : Bool) : (cs : List Char) → Except Fault (Json × Rest cs)
  | [] => .error ⟨.endInValue, [], 0⟩
  | c :: cs =>
    if c = '0' ∧ (cs.head?.any Char.isDigit) then .error ⟨.invalidNumber, cs, 1⟩
    else if c.isDigit then do
      let (x, rest) ← integerDigits negative (digitValue c) cs
      return (x, rest.behind c)
    else .error ⟨.invalidNumber, c :: cs, 1⟩

end FieldRules.Json
