namespace FieldRules.Text

/-- Lower case of the ASCII letters; all else stays. -/
def lower (cs : List Char) : List Char := cs.map Char.toLower

/-- Upper case of the ASCII letters; all else stays. -/
def upper (cs : List Char) : List Char := cs.map Char.toUpper

/-- Pieces between the characters `p` accepts; never empty. -/
def split (p : Char → Bool) : List Char → List (List Char)
  | [] => [[]]
  | c :: cs =>
    if p c then [] :: split p cs
    else match split p cs with
      | [] => [[c]]
      | piece :: pieces => (c :: piece) :: pieces

theorem split_ne_nil (p : Char → Bool) (cs : List Char) : split p cs ≠ [] := by
  cases cs with
  | nil => simp [split]
  | cons c cs =>
    simp only [split]
    split
    · simp
    · split <;> simp

/-- The text after `head`, when the text begins with it. -/
def after? : (head : List Char) → List Char → Option (List Char)
  | [], cs => some cs
  | _ :: _, [] => none
  | h :: head, c :: cs => if h = c then after? head cs else none

theorem after?_append (head cs : List Char) : after? head (head ++ cs) = some cs := by
  induction head with
  | nil => rfl
  | cons h head ih => simp [after?, ih]

def startsWith (head cs : List Char) : Bool := head.isPrefixOf cs

def endsWith (tail cs : List Char) : Bool := tail.isSuffixOf cs

/-- Whether `part` stands somewhere in the text; the empty text stands everywhere. -/
def contains (part : List Char) : List Char → Bool
  | [] => part.isEmpty
  | c :: cs => startsWith part (c :: cs) || contains part cs

def byteLength : List Char → Nat
  | [] => 0
  | c :: cs => c.utf8Size + byteLength cs

theorem byteLength_append (xs ys : List Char) :
    byteLength (xs ++ ys) = byteLength xs + byteLength ys := by
  induction xs with
  | nil => simp [byteLength]
  | cons c cs ih => simp [byteLength, ih, Nat.add_assoc]

/-- Drops `n` bytes of UTF-8; `none` when they end inside a character or beyond the text. -/
def dropBytes? : (n : Nat) → List Char → Option (List Char)
  | 0, cs => some cs
  | _ + 1, [] => none
  | n + 1, c :: cs => if c.utf8Size ≤ n + 1 then dropBytes? (n + 1 - c.utf8Size) cs else none
termination_by _ cs => cs.length

/-- Replaces every `pair` of two characters by its second one, left to right. -/
def replacePair (a b : Char) : List Char → List Char
  | [] => []
  | [c] => [c]
  | c :: d :: cs =>
    if c = a ∧ d = b then b :: replacePair a b cs else c :: replacePair a b (d :: cs)

end FieldRules.Text
