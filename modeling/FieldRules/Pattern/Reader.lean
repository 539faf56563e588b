import FieldRules.Pattern.Bracket
import FieldRules.Pattern.Size

namespace FieldRules.Pattern

open Unicode (CodeSet)

/-- What a bracket opens: flags for the rest of the group it is in, or a group of its own. -/
inductive Opening where
  | flags (m : Mode)
  | group (label : GroupLabel) (m : Mode)

/-- A name begins with a letter or `_`; digits, `.` and square brackets may follow. -/
def isNameChar (first : Bool) (c : Char) : Bool :=
  c == '_' || CodeSet.alphabetic.contains c ||
    (!first && (['.', '[', ']'].contains c || CodeSet.alphanumeric.contains c))

/-- The name of a group up to its closing angle bracket. -/
def readName (first : Bool) : (cs : List Char) → Option (List Char × Tail cs)
  | [] => none
  | c :: cs =>
    if c = '>' then if first then none else some ([], (Tail.all cs).cons c)
    else if isNameChar first c then do
      let (name, rest) ← readName false cs
      return (c :: name, rest.cons c)
    else none

/-- Reads from behind an opening bracket. -/
def readOpening (m : Mode) (cs : List Char) : Option (Opening × Tail cs) :=
  let ⟨rest, h⟩ := skipSpace m cs
  let named (name : List Char) : Opening := .group (.named name) m
  match rest, h with
  | '?' :: '=' :: _, _ => none
  | '?' :: '!' :: _, _ => none
  | '?' :: '<' :: '=' :: _, _ => none
  | '?' :: '<' :: '!' :: _, _ => none
  | '?' :: 'P' :: '<' :: rest, h => do
    let (name, rest) ← readName true rest
    return (named name, (((rest.cons '<').cons 'P').cons '?').within h)
  | '?' :: '<' :: rest, h => do
    let (name, rest) ← readName true rest
    return (named name, ((rest.cons '<').cons '?').within h)
  | '?' :: rest, h => do
    let (m, colon, rest) ← readFlags m true false [] rest
    return (if colon then .group .plain m else .flags m, (rest.cons '?').toTail.within h)
  | rest, h => some (.group .numbered m, ⟨rest, h⟩)

/-- Repetition counts fit 32 bits. -/
def countLimit : Nat := 0x100000000

def countDigits (m : Mode) (cs : List Char) : List Char × Tail cs :=
  match cs with
  | [] => ([], .all [])
  | c :: rest =>
    if c.isDigit then
      let ⟨rest, h⟩ := skipSpace m rest
      let (ds, later) := countDigits m rest
      (c :: ds, (later.within h).cons c)
    else ([], .all _)
termination_by cs.length
decreasing_by simp only [List.length_cons]; omega

/-- A count with blanks around it. -/
def readCount (m : Mode) (cs : List Char) : Option (Nat × Tail cs) :=
  let ⟨rest, h⟩ := Tail.dropWhile Text.isBlank cs
  let (ds, ⟨later, h'⟩) := countDigits m rest
  if ds ≠ [] ∧ Text.digitsValue ds < countLimit then
    some (Text.digitsValue ds, ((Tail.dropWhile Text.isBlank later).within h').within h)
  else none

/-- Least and greatest count behind an opening brace. -/
def readCounts (m : Mode) (cs : List Char) : Option (Nat × Option Nat × Tail cs) := do
  let ⟨rest, h⟩ := skipSpace m cs
  let (least, later) ← readCount m rest
  match later.within h with
  | ⟨'\x7d' :: rest, h⟩ => return (least, some least, ((Tail.all rest).cons '\x7d').within h)
  | ⟨',' :: rest, h⟩ => do
    match ((skipSpace m rest).cons ',').within h with
    | ⟨'\x7d' :: rest, h⟩ => return (least, none, ((Tail.all rest).cons '\x7d').within h)
    | ⟨rest, h⟩ => do
      let (most, later) ← readCount m rest
      match later.within h with
      | ⟨'\x7d' :: rest, h⟩ =>
        if most < least then none
        else return (least, some most, ((Tail.all rest).cons '\x7d').within h)
      | _ => none
  | _ => none

/-- Text behind a question mark, which turns the greed of a repetition around. -/
def skipLazy (cs : List Char) : Tail cs :=
  match cs with
  | '?' :: rest => (Tail.all rest).cons '?'
  | cs => .all cs

/-- Repeats the last item. -/
def repeatLast (min : Nat) (max : Option Nat) : List Pattern → Option (List Pattern)
  | [] => none
  | p :: items => if p.isRepeatable then some (p.repeated min max :: items) else none

/-- Any character, or any that does not end a line. -/
def anyChar? (m : Mode) : Option Pattern :=
  if !m.unicode then none
  else
    let ends : CodeSet :=
      if m.dotAll then .empty
      else if m.crlf then (CodeSet.single '\n').union (.single '\r')
      else .single '\n'
    some (.set ends.compl 0)

def Atom.pattern? (m : Mode) : Atom → Option Pattern
  | .char c byte =>
    if !m.unicode ∧ byte ∧ 0x80 ≤ c.toNat then none else some (.set (m.fold (.single c)) 0)
  | .set s => some (.set s 0)
  | .look l => some (.look l)

def lineStart (m : Mode) : Look := if m.multiLine then .lineStart m.crlf else .textStart

def lineEnd (m : Mode) : Look := if m.multiLine then .lineEnd m.crlf else .textEnd

/-- Reads branches up to the end of the text, or of the group. Finished branches and the items of
the last one have their last at the front. -/
def readBranches (inGroup : Bool) (m : Mode) (branches items : List Pattern) (cs : List Char) :
    Option (Pattern × Tail cs) := do
  let ⟨rest, h⟩ := skipSpace m cs
  let whole : Pattern := ofBranches (ofParts items.reverse :: branches).reverse
  match rest, h with
  | [], _ => if inGroup then none else return (whole, .none cs)
  | c :: rest, h =>
    let past (t : Tail rest) : Rest cs := (t.behind c).within h
    let next : Rest cs := past (.all rest)
    let goOn (m : Mode) (branches items : List Pattern) (r : Rest cs) :
        Option (Pattern × Tail cs) := do
      let ⟨rest, h⟩ := r
      let (p, later) ← readBranches inGroup m branches items rest
      return (p, (later.after h).toTail)
    let item (p : Pattern) : Rest cs → Option (Pattern × Tail cs) := goOn m branches (p :: items)
    let repetition (min : Nat) (max : Option Nat) (r : Rest cs) : Option (Pattern × Tail cs) := do
      goOn m branches (← repeatLast min max items) (r.trans (skipLazy r.1))
    match c with
    | '(' => match ← readOpening m rest with
      | (.flags m, later) => goOn m branches (.flags :: items) (past later)
      | (.group label inner, later) => do
        let ⟨rest, h⟩ := past later
        let (p, later) ← readBranches true inner [] [] rest
        item (.group label p) (later.after h)
    | ')' => if inGroup then return (whole, next.toTail) else none
    | '|' => goOn m (ofParts items.reverse :: branches) [] next
    | '[' => do
      let (x, later) ← readSet m rest
      item (.set x.set x.depth) (past later)
    | '?' => repetition 0 (some 1) next
    | '*' => repetition 0 none next
    | '+' => repetition 1 none next
    | '\x7b' => do
      let (min, max, later) ← readCounts m rest
      let behind := past later
      repetition min max (behind.trans (skipSpace m behind.1))
    | '.' => item (← anyChar? m) next
    | '^' => item (.look (lineStart m)) next
    | '$' => item (.look (lineEnd m)) next
    | '\\' => do
      let (a, later) ← escape m rest
      item (← a.pattern? m) (past later.toTail)
    | c => item (← (Atom.char c false).pattern? m) next
termination_by cs.length
decreasing_by all_goals exact h

def depthLimit : Nat := 250

/-- Reads a pattern; `none` when it is malformed, names two groups alike, nests too deep or is too
large. -/
def ofText? (cs : List Char) : Option Pattern := do
  let (p, _) ← readBranches false {} [] [] cs
  if p.groupNames.Nodup ∧ p.depth ≤ depthLimit ∧ p.size ≤ sizeLimit then some p else none

end FieldRules.Pattern
