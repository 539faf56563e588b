import FieldRules.Text.Rest
import FieldRules.Text.Blank
import FieldRules.Unicode.CodeSet

namespace FieldRules.Pattern

inductive Flag where
  | ignoreCase | multiLine | dotAll | swapGreed | unicode | crlf | ignoreSpace
  deriving DecidableEq

def Flag.ofChar? (c : Char) : Option Flag :=
  match c with
  | 'i' => some .ignoreCase
  | 'm' => some .multiLine
  | 's' => some .dotAll
  | 'U' => some .swapGreed
  | 'u' => some .unicode
  | 'R' => some .crlf
  | 'x' => some .ignoreSpace
  | _ => none

/-- The flags in force. -/
structure Mode where
  ignoreCase : Bool := false
  multiLine : Bool := false
  dotAll : Bool := false
  unicode : Bool := true
  crlf : Bool := false
  ignoreSpace : Bool := false

namespace Mode

/-- Turns a flag on or off. Greed does not change what matches. -/
def put (m : Mode) (on : Bool) : Flag → Mode
  | .ignoreCase => { m with ignoreCase := on }
  | .multiLine => { m with multiLine := on }
  | .dotAll => { m with dotAll := on }
  | .swapGreed => m
  | .unicode => { m with unicode := on }
  | .crlf => { m with crlf := on }
  | .ignoreSpace => { m with ignoreSpace := on }

/-- Adds other cases if case is ignored. -/
def fold (m : Mode) (s : Unicode.CodeSet) : Unicode.CodeSet :=
  if !m.ignoreCase then s else if m.unicode then s.folded else s.foldedAscii

/-- The complement, if it is asked for. Without Unicode it would hold parts of characters, so there
is none. -/
def negate? (m : Mode) (negated : Bool) (s : Unicode.CodeSet) : Option Unicode.CodeSet :=
  if !negated then some s else if m.unicode then some s.compl else none

end Mode

/-- Flags up to the colon or bracket behind them. The result is true for a colon; a bracket ends a
group of flags alone. Each flag stands once, and a hyphen turns off one or more behind it. -/
def readFlags (m : Mode) (on dangling : Bool) (seen : List Flag) :
    (cs : List Char) → Option (Mode × Bool × Rest cs)
  | [] => none
  | c :: cs =>
    if c = ':' then if dangling then none else some (m, true, .next c cs)
    else if c = ')' then if dangling ∨ seen = [] then none else some (m, false, .next c cs)
    else if c = '-' then
      if on then do
        let (m, colon, rest) ← readFlags m false true seen cs
        return (m, colon, rest.cons c)
      else none
    else do
      let f ← Flag.ofChar? c
      if seen.contains f then none
      let (m, colon, rest) ← readFlags (m.put on f) on false (f :: seen) cs
      return (m, colon, rest.cons c)

/-- Text behind blanks and comments; a comment goes from `#` to the end of its line. -/
def skipComments (inComment : Bool) : (cs : List Char) → Tail cs
  | [] => .all []
  | c :: cs =>
    if inComment || Text.isBlank c || c == '#' then
      (skipComments (if inComment then c != '\n' else c == '#') cs).cons c
    else .all _

/-- Text behind the space that may be skipped. -/
def skipSpace (m : Mode) (cs : List Char) : Tail cs :=
  if m.ignoreSpace then skipComments false cs else .all cs

end FieldRules.Pattern
