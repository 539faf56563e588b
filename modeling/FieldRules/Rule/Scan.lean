import FieldRules.Rule.Call
import FieldRules.Rule.Argument

namespace FieldRules

/-- What has been read of the token at hand. -/
structure Scanner where
  prev : Char := ' '
  /-- Text of the open token, all of it; `none` between tokens. -/
  token : Option (List Char) := none
  /-- The open token has had an argument list. -/
  hasArgs : Bool := false
  depth : Nat := 0
  /-- Text of the token before the list opened last. -/
  verb : List Char := []
  /-- Raw text of the argument being read. -/
  arg : List Char := []
  /-- Arguments of the open list read so far. -/
  args : List String := []
  deriving DecidableEq

namespace Scanner

/-- Text of the open token, empty between tokens. -/
def text (s : Scanner) : List Char := s.token.getD []

/-- The token at hand goes on with `c`. -/
def extend (s : Scanner) (c : Char) : Scanner := { s with prev := c, token := some (s.text ++ [c]) }

/-- Arguments of the list once it closes; a single blank one stands for none. -/
def closedArgs (s : Scanner) : List String :=
  if s.args = [] ∧ Text.trimSpaces s.arg = [] then []
  else s.args ++ [String.ofList (Argument.unescape s.arg)]

/-- A character inside an argument list. -/
def stepInside (s : Scanner) (c : Char) : Scanner × Option Call :=
  let on := { s.extend c with arg := s.arg ++ [c] }
  if s.prev = '\\' then (on, none)
  else if c = '(' then ({ on with depth := s.depth + 1 }, none)
  else if c = ')' then
    if s.depth = 1 then
      ({ on with depth := 0, arg := [], args := [] },
        some ⟨String.ofList s.verb, s.closedArgs, true⟩)
    else ({ on with depth := s.depth - 1 }, none)
  else if c = ',' ∧ s.depth = 1 then
    ({ on with arg := [], args := s.args ++ [String.ofList (Argument.unescape s.arg)] }, none)
  else (on, none)

/-- A character outside argument lists. A space ends the token even after a backslash. -/
def stepOutside (s : Scanner) (c : Char) : Scanner × Option Call :=
  if c = ' ' then
    ({ s with prev := c, token := none, hasArgs := false },
      if s.hasArgs then none else s.token.map Call.bare)
  else if c = '(' ∧ s.prev ≠ '\\' then
    ({ s.extend c with hasArgs := true, depth := 1, verb := s.text, arg := [] }, none)
  else (s.extend c, none)

/-- Reads one character, and gives the call that it completes. -/
def step (s : Scanner) (c : Char) : Scanner × Option Call :=
  if 0 < s.depth then s.stepInside c else s.stepOutside c

/-- The end of the rule closes a bare verb; an argument list left open is dropped. -/
def finish (s : Scanner) : Option Call :=
  if s.hasArgs ∨ 0 < s.depth then none else s.token.map Call.bare

/-- The calls completed by the rest of the rule. -/
def calls (s : Scanner) : List Char → List Call
  | [] => s.finish.toList
  | c :: cs => (s.step c).2.toList ++ (s.step c).1.calls cs

/-- The scanner after `cs`. -/
def run (s : Scanner) : List Char → Scanner
  | [] => s
  | c :: cs => (s.step c).1.run cs

theorem run_append (s : Scanner) (xs ys : List Char) : s.run (xs ++ ys) = (s.run xs).run ys := by
  induction xs generalizing s with
  | nil => rfl
  | cons c cs ih => simp [run, ih]

end Scanner

/-- The calls of a rule, in order. -/
def scan (rule : String) : List Call := ({} : Scanner).calls rule.toList

end FieldRules
