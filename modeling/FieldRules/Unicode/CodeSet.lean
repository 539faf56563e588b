import FieldRules.Unicode.Fold

namespace FieldRules.Unicode

/-- Code points from the first flip to the second, from the third to the fourth, and so on. -/
structure CodeSet where
  flips : List Nat
  deriving DecidableEq

namespace CodeSet

/-- Membership from a point on where it is `inside`. -/
def insideAt (inside : Bool) (n : Nat) : List Nat → Bool
  | [] => inside
  | x :: xs => if n < x then inside else insideAt (!inside) n xs

def contains (s : CodeSet) (c : Char) : Bool := insideAt false c.toNat s.flips

def empty : CodeSet := ⟨[]⟩

/-- All code points from `first` to `last`. -/
def range (first last : Nat) : CodeSet := ⟨[first, last + 1]⟩

def single (c : Char) : CodeSet := range c.toNat c.toNat

def all : CodeSet := ⟨[0]⟩

/-- Puts a span before flips, joined to the span there if they touch. -/
def consSpan (s : Span) (flips : List Nat) : List Nat :=
  if flips.head? = some (s.first + s.size) then s.first :: flips.tail
  else s.first :: (s.first + s.size) :: flips

/-- The set of ascending spans. -/
def ofSpans (spans : List Span) : CodeSet := ⟨spans.foldr consSpan []⟩

def compl (s : CodeSet) : CodeSet :=
  match s.flips with
  | 0 :: flips => ⟨flips⟩
  | flips => ⟨0 :: flips⟩

/-- Keeps a flip only where the combined membership changes. -/
def flipIf (before after : Bool) (x : Nat) (flips : List Nat) : List Nat :=
  if before = after then flips else x :: flips

/-- Flips of a combination, from a point on where the two sets have members as `a` and `b` say. -/
def combineFlips (op : Bool → Bool → Bool) (a b : Bool) : List Nat → List Nat → List Nat
  | [], [] => []
  | x :: xs, [] => flipIf (op a b) (op (!a) b) x (combineFlips op (!a) b xs [])
  | [], y :: ys => flipIf (op a b) (op a (!b)) y (combineFlips op a (!b) [] ys)
  | x :: xs, y :: ys =>
    if x < y then flipIf (op a b) (op (!a) b) x (combineFlips op (!a) b xs (y :: ys))
    else if y < x then flipIf (op a b) (op a (!b)) y (combineFlips op a (!b) (x :: xs) ys)
    else flipIf (op a b) (op (!a) (!b)) x (combineFlips op (!a) (!b) xs ys)
termination_by xs ys => xs.length + ys.length

/-- Combines two sets by an operation that is false where both are. -/
def combine (op : Bool → Bool → Bool) (s t : CodeSet) : CodeSet :=
  ⟨combineFlips op false false s.flips t.flips⟩

def union (s t : CodeSet) : CodeSet := combine or s t

def inter (s t : CodeSet) : CodeSet := combine and s t

def diff (s t : CodeSet) : CodeSet := combine (fun a b => a && !b) s t

def symmDiff (s t : CodeSet) : CodeSet := combine xor s t

def unions (sets : List CodeSet) : CodeSet := sets.foldl union empty

/-- The set and all that folds to what its members fold to. -/
def folded (s : CodeSet) : CodeSet :=
  let partners := foldRuns.flatMap fun r => (List.range r.count).flatMap fun i =>
    let low := r.first + i * r.step
    let high := low + r.distance
    (if insideAt false low s.flips then [high] else []) ++
      (if insideAt false high s.flips then [low] else [])
  partners.foldl (fun t n => t.union (range n n)) s

/-- The set with both cases of its ASCII letters. -/
def foldedAscii (s : CodeSet) : CodeSet :=
  let letters (own other : Nat) : List Nat :=
    ((List.range 26).filter fun i => insideAt false (own + i) s.flips).map (other + ·)
  (letters 0x41 0x61 ++ letters 0x61 0x41).foldl (fun t n => t.union (range n n)) s

/-- Number of ranges that reach beyond ASCII. -/
def wideRanges (s : CodeSet) : Nat := ((s.flips.filter (0x80 < ·)).length + 1) / 2

def isAscii (s : CodeSet) : Bool := s.wideRanges == 0 && s.flips.length % 2 == 0

end CodeSet
end FieldRules.Unicode
