import FieldRules.Pattern.Escape

namespace FieldRules.Pattern

open Unicode (CodeSet)

/-- A set, and how deep its brackets nest. -/
structure Members where
  set : CodeSet
  depth : Nat := 0

inductive SetOp where
  | inter | diff | symmDiff

def SetOp.apply : SetOp → CodeSet → CodeSet → CodeSet
  | inter => CodeSet.inter
  | diff => CodeSet.diff
  | symmDiff => CodeSet.symmDiff

namespace Members

/-- All of some members, the first of them last in the list; two or more nest a level deeper. -/
def all : List Members → Members
  | [] => ⟨.empty, 0⟩
  | [x] => x
  | xs => ⟨CodeSet.unions (xs.map Members.set), (xs.map Members.depth).foldl max 0 + 1⟩

/-- Joins members to those left of an operator, if there is one. -/
def joined (m : Mode) (left : Option (Members × SetOp)) (right : Members) : Members :=
  match left with
  | none => right
  | some (left, op) =>
    ⟨op.apply (m.fold left.set) (m.fold right.set), max left.depth right.depth + 1⟩

def bracketed? (m : Mode) (negated : Bool) (x : Members) : Option Members := do
  return ⟨← m.negate? negated (m.fold x.set), x.depth + 1⟩

end Members

/-- Without Unicode, sets hold ASCII characters only. -/
def isAllowed (m : Mode) (c : Char) : Bool := m.unicode || c.toNat < 0x80

def Atom.members? (m : Mode) : Atom → Option Members
  | .char c _ => if isAllowed m c then some ⟨.single c, 0⟩ else none
  | .set s => some ⟨s, 0⟩
  | .look _ => none

/-- A character that can end a range. -/
def Atom.bound? (m : Mode) : Atom → Option Char
  | .char c _ => if isAllowed m c then some c else none
  | _ => none

def asciiClass? (name : String) : Option CodeSet :=
  match name with
  | "alnum" => some (CodeSet.asciiLetter.union .asciiDigit)
  | "alpha" => some .asciiLetter
  | "ascii" => some (.range 0 0x7F)
  | "blank" => some ((CodeSet.single '\t').union (.single ' '))
  | "cntrl" => some ((CodeSet.range 0 0x1F).union (.single '\x7f'))
  | "digit" => some .asciiDigit
  | "graph" => some (.range 0x21 0x7E)
  | "lower" => some (.range 0x61 0x7A)
  | "print" => some (.range 0x20 0x7E)
  | "punct" => some ((CodeSet.range 0x21 0x7E).diff (CodeSet.asciiLetter.union .asciiDigit))
  | "space" => some .asciiSpace
  | "upper" => some (.range 0x41 0x5A)
  | "word" => some .asciiWord
  | "xdigit" => some (CodeSet.unions [.asciiDigit, .range 0x41 0x46, .range 0x61 0x66])
  | _ => none

/-- The name of a class, and the colon and bracket behind it. -/
def readAsciiName (cs : List Char) : Option (CodeSet × Tail cs) :=
  let ⟨rest, h⟩ := Tail.dropWhile (· != ':') cs
  match rest, h with
  | ':' :: ']' :: rest, h => do
    let s ← asciiClass? (String.ofList (cs.takeWhile (· != ':')))
    return (s, (((Tail.all rest).cons ']').cons ':').within h)
  | _, _ => none

/-- A class between colons, behind the opening bracket, and whether it is negated. -/
def readAsciiClass (cs : List Char) : Option (CodeSet × Bool × Rest cs) :=
  match cs with
  | ':' :: '^' :: rest => do
    let (s, rest) ← readAsciiName rest
    return (s, true, (rest.cons '^').behind ':')
  | ':' :: rest => do
    let (s, rest) ← readAsciiName rest
    return (s, false, rest.behind ':')
  | _ => none

/-- A single character, or an escape. -/
def readAtom (m : Mode) (cs : List Char) : Option (Atom × Rest cs) :=
  match cs with
  | [] => none
  | '\\' :: rest => do
    let (a, rest) ← escape m rest
    return (a, rest.cons '\\')
  | c :: rest => some (.char c false, .next c rest)

/-- An atom or a range. A hyphen before a closing bracket or another hyphen makes no range. -/
def readRange (m : Mode) (cs : List Char) : Option (Members × Rest cs) := do
  let (a, later) ← readAtom m cs
  match later.trans (skipSpace m later.1) with
  | ⟨[], _⟩ => none
  | ⟨'-' :: behind, h⟩ =>
    let tail := skipSpace m behind
    if tail.1.head? = some ']' ∨ tail.1.head? = some '-' then
      return (← a.members? m, ⟨'-' :: behind, h⟩)
    else do
      let (b, later) ← readAtom m tail.1
      let first ← a.bound? m
      let last ← b.bound? m
      if last < first then none
      return (⟨.range first.toNat last.toNat, 0⟩,
        ((later.toTail.within tail.2).cons '-').after h)
  | later => return (← a.members? m, later)

/-- Hyphens at the front, which stand for themselves. -/
def leadingHyphens (m : Mode) (cs : List Char) : List Members × Tail cs :=
  let ⟨rest, h⟩ := skipSpace m cs
  match rest, h with
  | [], h => ([], ⟨[], h⟩)
  | c :: rest, h =>
    if c = '-' then
      let (xs, later) := leadingHyphens m rest
      (⟨.single '-', 0⟩ :: xs, (later.cons c).within h)
    else ([], ⟨c :: rest, h⟩)
termination_by cs.length
decreasing_by exact h

/-- What stands right behind an opening bracket: whether the set is negated, and members that stand
for themselves there only, which are hyphens or else a closing bracket. -/
def openBracket (m : Mode) (cs : List Char) : Bool × List Members × Tail cs :=
  let ⟨rest, h⟩ := skipSpace m cs
  let (negated, ⟨rest, h⟩) : Bool × Tail cs := match rest, h with
    | '^' :: rest, h => (true, ((Tail.all rest).cons '^').within h)
    | rest, h => (false, ⟨rest, h⟩)
  let (hyphens, later) := leadingHyphens m rest
  let later := later.within h
  match hyphens, later with
  | [], ⟨']' :: rest, h⟩ =>
    (negated, [⟨.single ']', 0⟩], ((Tail.all rest).cons ']').within h)
  | hyphens, later => (negated, hyphens, later)

def readOperator (cs : List Char) : Option (SetOp × Rest cs) :=
  match cs with
  | '&' :: '&' :: rest => some (.inter, (Rest.next '&' rest).cons '&')
  | '-' :: '-' :: rest => some (.diff, (Rest.next '-' rest).cons '-')
  | '~' :: '~' :: rest => some (.symmDiff, (Rest.next '~' rest).cons '~')
  | _ => none

/-- The set up to its closing bracket. -/
def readBracket (m : Mode) (negated : Bool) (left : Option (Members × SetOp))
    (items : List Members) (cs : List Char) : Option (Members × Rest cs) := do
  let ⟨rest, h⟩ := skipSpace m cs
  match rest, h with
  | [], _ => none
  | c :: rest, h =>
    let past (t : Tail rest) : Rest cs := (t.behind c).within h
    if c = ']' then
      let x ← Members.bracketed? m negated (Members.joined m left (.all items))
      return (x, past (.all rest))
    else if c = '[' then
      match readAsciiClass rest with
      | some (s, negatedClass, later) =>
        let s ← m.negate? negatedClass (m.fold s)
        let ⟨rest, h⟩ := past later.toTail
        let (x, later) ← readBracket m negated left (⟨s, 0⟩ :: items) rest
        return (x, later.toTail.after h)
      | none =>
        let (negatedInner, inner, later) := openBracket m rest
        let ⟨rest, h⟩ := past later
        let (y, later) ← readBracket m negatedInner none inner rest
        let ⟨rest, h⟩ := later.toTail.after h
        let (x, later) ← readBracket m negated left (y :: items) rest
        return (x, later.toTail.after h)
    else match readOperator (c :: rest) with
      | some (op, later) =>
        let left := (Members.joined m left (.all items), op)
        let ⟨rest, h⟩ := later.within h
        let (x, later) ← readBracket m negated (some left) [] rest
        return (x, later.toTail.after h)
      | none =>
        let (y, later) ← readRange m (c :: rest)
        let ⟨rest, h⟩ := later.within h
        let (x, later) ← readBracket m negated left (y :: items) rest
        return (x, later.toTail.after h)
termination_by cs.length
decreasing_by all_goals exact h

/-- A set behind its opening bracket. -/
def readSet (m : Mode) (cs : List Char) : Option (Members × Tail cs) := do
  let (negated, items, ⟨rest, h⟩) := openBracket m cs
  let (x, rest) ← readBracket m negated none items rest
  return (x, (rest.within h).toTail)

end FieldRules.Pattern
