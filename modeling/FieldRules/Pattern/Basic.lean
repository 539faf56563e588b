import FieldRules.Unicode.Class

namespace FieldRules

/-- Edges of words. A half edge looks at one side only. -/
inductive WordEdge where
  | any | none | start | stop | startHalf | stopHalf
  deriving DecidableEq

/-- Conditions on a place in the text. -/
inductive Look where
  | textStart
  | textEnd
  | lineStart (crlf : Bool)
  | lineEnd (crlf : Bool)
  /-- An edge of words that are made of `letters`. -/
  | word (edge : WordEdge) (letters : Unicode.CodeSet)

inductive GroupLabel where
  | plain | numbered | named (name : List Char)
  deriving DecidableEq

inductive Pattern where
  /-- A group of flags alone, which cannot be repeated. -/
  | flags
  /-- One character of a set, whose brackets nest to `depth`. -/
  | set (s : Unicode.CodeSet) (depth : Nat)
  | look (l : Look)
  | group (label : GroupLabel) (p : Pattern)
  /-- At least `min` times and at most `max` times, if there is such a limit. -/
  | times (min : Nat) (max : Option Nat) (p : Pattern)
  | concat (ps : List Pattern)
  | either (ps : List Pattern)

namespace Pattern

def empty : Pattern := concat []

/-- Parts one after the other; a single part stands for itself. -/
def ofParts : List Pattern → Pattern
  | [p] => p
  | ps => concat ps

/-- Branches to choose from; a single branch stands for itself. -/
def ofBranches : List Pattern → Pattern
  | [p] => p
  | ps => either ps

mutual
/-- How deep groups, repetitions, branches, sequences and brackets nest. -/
def depth : Pattern → Nat
  | flags => 0
  | set _ depth => depth
  | look _ => 0
  | group _ p => p.depth + 1
  | times _ _ p => p.depth + 1
  | concat [] => 0
  | concat (p :: ps) => max p.depth (depthOfAll ps) + 1
  | either ps => depthOfAll ps + 1

def depthOfAll : List Pattern → Nat
  | [] => 0
  | p :: ps => max p.depth (depthOfAll ps)
end

mutual
def groupNames : Pattern → List (List Char)
  | flags => []
  | set _ _ => []
  | look _ => []
  | group (.named name) p => name :: p.groupNames
  | group _ p => p.groupNames
  | times _ _ p => p.groupNames
  | concat ps => groupNamesOfAll ps
  | either ps => groupNamesOfAll ps

def groupNamesOfAll : List Pattern → List (List Char)
  | [] => []
  | p :: ps => p.groupNames ++ groupNamesOfAll ps
end

mutual
/-- Whether the pattern has no characters to match at all. -/
def isZeroWidth : Pattern → Bool
  | flags => true
  | set _ _ => false
  | look _ => true
  | group _ p => p.isZeroWidth
  | times _ max p => max == some 0 || p.isZeroWidth
  | concat ps => areZeroWidth ps
  | either ps => areZeroWidth ps

def areZeroWidth : List Pattern → Bool
  | [] => true
  | p :: ps => p.isZeroWidth && areZeroWidth ps
end

/-- Repeating what has no characters more than once adds nothing. -/
def repeated (min : Nat) (max : Option Nat) (p : Pattern) : Pattern :=
  if p.isZeroWidth then times (Nat.min min 1) (some (Nat.min (max.getD 1) 1)) p
  else times min max p

def isRepeatable : Pattern → Bool
  | flags => false
  | _ => true

end Pattern
end FieldRules
