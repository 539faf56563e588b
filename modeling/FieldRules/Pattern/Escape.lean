import FieldRules.Pattern.Basic
import FieldRules.Pattern.Mode
import FieldRules.Text.Numeral

namespace FieldRules.Pattern

open Unicode (CodeSet)

/-- What a single character or an escape stands for. -/
inductive Atom where
  /-- A character; `byte` when it is written as one byte. -/
  | char (c : Char) (byte : Bool)
  | set (s : CodeSet)
  | look (l : Look)

/-- Hexadecimal digits, `count` of them. -/
def hexFixed (m : Mode) : (count value : Nat) → (cs : List Char) → Option (Nat × Tail cs)
  | 0, n, cs => some (n, .all cs)
  | _ + 1, _, [] => none
  | count + 1, n, c :: cs => do
    let d ← Text.hexValue? c
    let ⟨rest, h⟩ := skipSpace m cs
    let (n, later) ← hexFixed m count (16 * n + d) rest
    return (n, (later.within h).cons c)

/-- One or more hexadecimal digits up to a closing brace. -/
def hexBraced (m : Mode) (any : Bool) (n : Nat) (cs : List Char) : Option (Nat × Tail cs) :=
  let ⟨rest, h⟩ := skipSpace m cs
  match rest, h with
  | [], _ => none
  | c :: rest, h =>
    if c = '\x7d' then if any then some (n, ((skipSpace m rest).cons c).within h) else none
    else do
      let d ← Text.hexValue? c
      let (n, later) ← hexBraced m true (16 * n + d) rest
      return (n, (later.cons c).within h)
termination_by cs.length
decreasing_by exact h

def charOfCode? (n : Nat) : Option Char := if n.isValidChar then some (Char.ofNat n) else none

/-- The character behind `x`, `u` or `U`, with as many digits as these stand for or in braces. -/
def hexChar (m : Mode) (width : Nat) (cs : List Char) : Option (Atom × Tail cs) :=
  let ⟨rest, h⟩ := skipSpace m cs
  match rest, h with
  | '\x7b' :: rest, h => do
    let (n, later) ← hexBraced m false 0 rest
    return (.char (← charOfCode? n) false, (later.cons '\x7b').within h)
  | rest, h => do
    let (n, later) ← hexFixed m width 0 rest
    return (.char (← charOfCode? n) (width == 2), later.within h)

/-- Characters up to a closing brace. -/
def bracedName (m : Mode) (cs : List Char) : Option (List Char × Tail cs) :=
  let ⟨rest, h⟩ := skipSpace m cs
  match rest, h with
  | [], _ => none
  | c :: rest, h =>
    if c = '\x7d' then some ([], ((Tail.all rest).cons c).within h)
    else do
      let (name, later) ← bracedName m rest
      return (c :: name, (later.cons c).within h)
termination_by cs.length
decreasing_by exact h

/-- Parts a text at the first place where `mark` stands. -/
def partAt? (mark : List Char) : List Char → Option (List Char × List Char)
  | [] => none
  | c :: cs => match Text.after? mark (c :: cs) with
    | some rest => some ([], rest)
    | none => (partAt? mark cs).map fun (left, right) => (c :: left, right)

/-- A class by the text in its braces: a name, or a kind and a name behind a mark. -/
def classOf? (text : List Char) : Option CodeSet :=
  match (["!=", ":", "="].map String.toList).findSome? fun mark => partAt? mark text with
  | some (kind, name) => CodeSet.valued? kind name
  | none => CodeSet.named? text

/-- The class behind `p` or `P`. -/
def namedClass (m : Mode) (negated : Bool) (cs : List Char) : Option (Atom × Tail cs) := do
  let ⟨rest, h⟩ := skipSpace m cs
  let (name, later) : List Char × Tail cs ← match rest, h with
    | [], _ => none
    | '\\' :: _, _ => none
    | '\x7b' :: rest, h => do
      let (name, later) ← bracedName m rest
      pure (name, (later.cons '\x7b').within h)
    | c :: rest, h => pure ([c], ((skipSpace m rest).cons c).within h)
  if !m.unicode then none
  let s ← classOf? name
  return (.set (← m.negate? negated (m.fold s)), later)

def wordLetters (m : Mode) : CodeSet := if m.unicode then .word else .asciiWord

/-- The edge in the braces behind `\b`, when a letter or hyphen is in them; other braces count. -/
def wordEdge (m : Mode) (cs : List Char) : Option (WordEdge × Tail cs) :=
  match cs with
  | '\x7b' :: behind =>
    let ⟨rest, h⟩ := skipSpace m behind
    if rest.head?.any fun c => c.isAlpha || c == '-' then do
      let (name, later) ← bracedName m rest
      let edge : WordEdge ← match String.ofList name with
        | "start" => some .start
        | "end" => some .stop
        | "start-half" => some .startHalf
        | "end-half" => some .stopHalf
        | _ => none
      return (edge, (later.within h).cons '\x7b')
    else if rest = [] then none
    else some (.any, .all _)
  | cs => some (.any, .all cs)

/-- A character that its backslash takes literally: ASCII, and no letter, digit or angle bracket. -/
def isEscapable (c : Char) : Bool :=
  c.toNat < 0x80 && !c.isAlphanum && c != '<' && c != '>'

def escape (m : Mode) (cs : List Char) : Option (Atom × Rest cs) :=
  match cs with
  | [] => none
  | c :: rest =>
    let plain (a : Atom) : Option (Atom × Rest (c :: rest)) := some (a, .next c rest)
    let behind (r : Option (Atom × Tail rest)) : Option (Atom × Rest (c :: rest)) :=
      r.map fun (a, rest) => (a, rest.behind c)
    let class? (negated : Bool) (wide ascii : CodeSet) : Option (Atom × Rest (c :: rest)) := do
      plain (.set (← m.negate? negated (if m.unicode then wide else ascii)))
    let word (edge : WordEdge) : Atom := .look (.word edge (wordLetters m))
    match c with
    | 'x' => behind (hexChar m 2 rest)
    | 'u' => behind (hexChar m 4 rest)
    | 'U' => behind (hexChar m 8 rest)
    | 'p' => behind (namedClass m false rest)
    | 'P' => behind (namedClass m true rest)
    | 'd' => class? false .digit .asciiDigit
    | 'D' => class? true .digit .asciiDigit
    | 's' => class? false .space .asciiSpace
    | 'S' => class? true .space .asciiSpace
    | 'w' => class? false .word .asciiWord
    | 'W' => class? true .word .asciiWord
    | 'a' => plain (.char '\x07' false)
    | 'f' => plain (.char '\x0c' false)
    | 't' => plain (.char '\t' false)
    | 'n' => plain (.char '\n' false)
    | 'r' => plain (.char '\r' false)
    | 'v' => plain (.char '\x0b' false)
    | 'A' => plain (.look .textStart)
    | 'z' => plain (.look .textEnd)
    | 'b' => behind ((wordEdge m rest).map fun (edge, rest) => (word edge, rest))
    | 'B' => plain (word .none)
    | '<' => plain (word .start)
    | '>' => plain (word .stop)
    | c => if isEscapable c then plain (.char c false) else none

end FieldRules.Pattern
