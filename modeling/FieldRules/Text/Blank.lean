namespace FieldRules.Text

/-- Membership in White_Space. -/
def isBlank (c : Char) : Bool :=
  let n := c.toNat
  (9 ≤ n && n ≤ 13) || n == 0x20 || n == 0x85 || n == 0xA0 || n == 0x1680 ||
    (0x2000 ≤ n && n ≤ 0x200A) || n == 0x2028 || n == 0x2029 || n == 0x202F ||
    n == 0x205F || n == 0x3000

def dropWhileEnd (p : Char → Bool) (cs : List Char) : List Char :=
  (cs.reverse.dropWhile p).reverse

/-- Drops what `p` accepts from both ends. -/
def trim (p : Char → Bool) (cs : List Char) : List Char :=
  dropWhileEnd p (cs.dropWhile p)

def trimBlanks : List Char → List Char := trim isBlank

/-- Trims spaces only, and no other white space. -/
def trimSpaces : List Char → List Char := trim (· == ' ')

theorem dropWhileEnd_nil (p : Char → Bool) : dropWhileEnd p [] = [] := rfl

end FieldRules.Text
