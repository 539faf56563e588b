namespace FieldRules.NationalCode

def digit (c : Char) : Nat := c.toNat - '0'.toNat

/-- Sum of the first nine digits under the weights 10 down to 2. -/
def weightedSum (cs : List Char) : Nat :=
  (cs.take 9).zipIdx.foldl (fun n (c, i) => n + digit c * (10 - i)) 0

/-- With `r` the weighted sum modulo 11, the check digit is `r` below 2 and `11 - r` from there. -/
def checkDigit (cs : List Char) : Nat :=
  let r := weightedSum cs % 11
  if r < 2 then r else 11 - r

def isValid (text : String) : Bool :=
  let cs := text.toList
  cs.length == 10 && cs.all Char.isDigit && (cs.drop 9).map digit == [checkDigit cs]

end FieldRules.NationalCode
