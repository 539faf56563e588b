namespace FieldRules.Lenient

/-- Value of an ASCII, Arabic-Indic or Extended Arabic-Indic digit. -/
def digit? (c : Char) : Option Nat :=
  let n := c.toNat
  if 0x30 ≤ n ∧ n ≤ 0x39 then some (n - 0x30)
  else if 0x660 ≤ n ∧ n ≤ 0x669 then some (n - 0x660)
  else if 0x6F0 ≤ n ∧ n ≤ 0x6F9 then some (n - 0x6F0)
  else none

/-- The number read so far. -/
structure Reading where
  magnitude : Float := 0.0
  /-- Divisor of the next digit, once a point has been read. -/
  scale : Option Float := none
  negative : Bool := false
  strict : Bool := true

/-- A point starts a new fraction, and a minus anywhere makes the number negative. -/
def Reading.step (r : Reading) (c : Char) : Reading :=
  if c = '.' then { r with scale := some 10.0 }
  else if c = '-' then { r with negative := true }
  else match digit? c, r.scale with
    | none, _ => { r with strict := false }
    | some d, none => { r with magnitude := r.magnitude * 10.0 + Float.ofNat d }
    | some d, some s =>
      { r with magnitude := r.magnitude + Float.ofNat d / s, scale := some (s * 10.0) }

def Reading.value (r : Reading) : Float := if r.negative then -r.magnitude else r.magnitude

/-- The number a text is read as, and whether the reading is strict. -/
def number (text : String) : Float × Bool :=
  match text.toList with
  | [] => (0.0, false)
  | cs => let r := cs.foldl Reading.step {}; (r.value, r.strict)

end FieldRules.Lenient
