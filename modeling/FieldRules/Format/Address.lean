import FieldRules.Text.Numeral

namespace FieldRules.Address

/-- A decimal part at the front of a text, and the rest. -/
def decimalPart? (cs : List Char) : Option (List Char) :=
  let ds := cs.takeWhile Char.isDigit
  let leadingZero := ds.length > 1 && ds.head? == some '0'
  if ds ≠ [] ∧ ds.length ≤ 3 ∧ !leadingZero ∧ Text.digitsValue ds ≤ 255 then
    some (cs.dropWhile Char.isDigit)
  else none

/-- The rest of a text that begins with `c`. -/
def past? (c : Char) : List Char → Option (List Char)
  | [] => none
  | d :: ds => if d = c then some ds else none

/-- The rest after a dotted address. -/
def dotted? (cs : List Char) : Option (List Char) := do
  let cs ← decimalPart? cs
  let cs ← decimalPart? (← past? '.' cs)
  let cs ← decimalPart? (← past? '.' cs)
  decimalPart? (← past? '.' cs)

def isHex (c : Char) : Bool := (Text.hexValue? c).isSome

/-- The rest after a group. -/
def group? (cs : List Char) : Option (List Char) :=
  let ds := cs.takeWhile isHex
  if ds ≠ [] ∧ ds.length ≤ 4 then some (cs.dropWhile isHex) else none

/-- Groups read, whether they end in a dotted address, and the rest. -/
structure Groups where
  count : Nat
  dotted : Bool
  rest : List Char

/-- Reads at most `room` more groups, with a colon before each but the first. -/
def groups (count : Nat) : (room : Nat) → List Char → Groups
  | 0, cs => ⟨count, false, cs⟩
  | room + 1, cs =>
    let start := if count = 0 then some cs else past? ':' cs
    match if 1 ≤ room then start.bind dotted? else none with
    | some rest => ⟨count + 2, true, rest⟩
    | none => match start.bind group? with
      | some rest => groups (count + 1) room rest
      | none => ⟨count, false, cs⟩

def isV4 (cs : List Char) : Bool := dotted? cs == some []

def isV6 (cs : List Char) : Bool :=
  let front := groups 0 8 cs
  if front.count = 8 then front.rest.isEmpty
  else if front.dotted then false
  else match front.rest with
    | ':' :: ':' :: rest => (groups 0 (7 - front.count) rest).rest.isEmpty
    | _ => false

def isValid (cs : List Char) : Bool := isV4 cs || isV6 cs

end FieldRules.Address
