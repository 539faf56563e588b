namespace FieldRules.Text

/-- Value of a string of digits. -/
def digitsValue (cs : List Char) : Nat :=
  cs.foldl (fun n c => 10 * n + (c.toNat - '0'.toNat)) 0

/-- A count is at most this. -/
def countMax : Nat := 0xFFFFFFFFFFFFFFFF

/-- Reads a count: digits, after one `+` or none, whose value a 64-bit word holds. -/
def count? (cs : List Char) : Option Nat :=
  let ds := match cs with
    | '+' :: ds => ds
    | _ => cs
  if ds ≠ [] ∧ ds.all Char.isDigit ∧ digitsValue ds ≤ countMax then some (digitsValue ds) else none

def hexDigit (n : Nat) : Char := "0123456789abcdef".toList.getD n '0'

/-- Hexadecimal digits, lower case, with no leading zeros. -/
def hex (n : Nat) : List Char := Nat.toDigits 16 n

/-- Hexadecimal digits filled with zeros to `width`. -/
def hexPadded (width n : Nat) : List Char :=
  let ds := hex n
  List.replicate (width - ds.length) '0' ++ ds

def hexValue? (c : Char) : Option Nat :=
  if c.isDigit then some (c.toNat - 48)
  else if 'a' ≤ c ∧ c ≤ 'f' then some (c.toNat - 87)
  else if 'A' ≤ c ∧ c ≤ 'F' then some (c.toNat - 55)
  else none

/-- Decimal digits filled with zeros to `width`. -/
def padded (width n : Nat) : List Char :=
  let ds := Nat.toDigits 10 n
  List.replicate (width - ds.length) '0' ++ ds

end FieldRules.Text
