namespace FieldRules

/-- The text after a piece that is not empty. -/
abbrev Rest (cs : List Char) := { rest : List Char // rest.length < cs.length }

/-- The text after a piece that may be empty. -/
abbrev Tail (cs : List Char) := { rest : List Char // rest.length ≤ cs.length }

namespace Tail

/-- All of the text. -/
def all (cs : List Char) : Tail cs := ⟨cs, Nat.le_refl _⟩

/-- None of the text. -/
def none (cs : List Char) : Tail cs := ⟨[], Nat.zero_le _⟩

/-- What is left behind all characters that `p` accepts. -/
def dropWhile (p : Char → Bool) (cs : List Char) : Tail cs :=
  ⟨cs.dropWhile p, (List.dropWhile_suffix p).length_le⟩

/-- What is left when one more character stands before the text. -/
def behind {cs : List Char} (c : Char) (t : Tail cs) : Rest (c :: cs) :=
  ⟨t.1, Nat.lt_succ_of_le t.2⟩

def within {cs ds : List Char} (t : Tail cs) (h : cs.length ≤ ds.length) : Tail ds :=
  ⟨t.1, Nat.le_trans t.2 h⟩

def after {cs ds : List Char} (t : Tail cs) (h : cs.length < ds.length) : Rest ds :=
  ⟨t.1, Nat.lt_of_le_of_lt t.2 h⟩

end Tail

namespace Rest

def toTail {cs : List Char} (r : Rest cs) : Tail cs := ⟨r.1, Nat.le_of_lt r.2⟩

def within {cs ds : List Char} (r : Rest cs) (h : cs.length ≤ ds.length) : Rest ds :=
  ⟨r.1, Nat.lt_of_lt_of_le r.2 h⟩

/-- What is left of what is left. -/
def trans {cs : List Char} (r : Rest cs) (t : Tail r.1) : Rest cs := t.after r.2

/-- The text behind its first character. -/
def next (c : Char) (cs : List Char) : Rest (c :: cs) := (Tail.all cs).behind c

end Rest

/-- What is left when one more character stands before the text. -/
def Tail.cons {cs : List Char} (c : Char) (t : Tail cs) : Tail (c :: cs) := (t.behind c).toTail

/-- What is left when one more character stands before the text. -/
def Rest.cons {cs : List Char} (c : Char) (r : Rest cs) : Rest (c :: cs) := r.toTail.behind c

end FieldRules
