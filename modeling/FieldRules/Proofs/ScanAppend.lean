import FieldRules.Rule.Scan

namespace FieldRules

namespace Scanner

/-- The calls completed while the characters are read; the end of the rule may close one more. -/
def emitted (s : Scanner) : List Char → List Call
  | [] => []
  | c :: cs => (s.step c).2.toList ++ (s.step c).1.emitted cs

theorem calls_eq_emitted (s : Scanner) (cs : List Char) :
    s.calls cs = s.emitted cs ++ (s.run cs).finish.toList := by
  induction cs generalizing s with
  | nil => rfl
  | cons c cs ih => simp only [calls, emitted, run, ih, List.append_assoc]

theorem calls_append (s : Scanner) (xs ys : List Char) :
    s.calls (xs ++ ys) = s.emitted xs ++ (s.run xs).calls ys := by
  induction xs generalizing s with
  | nil => rfl
  | cons c xs ih => simp only [List.cons_append, calls, emitted, run, ih, List.append_assoc]

theorem emitted_append (s : Scanner) (xs ys : List Char) :
    s.emitted (xs ++ ys) = s.emitted xs ++ (s.run xs).emitted ys := by
  induction xs generalizing s with
  | nil => rfl
  | cons c xs ih => simp only [List.cons_append, emitted, run, ih, List.append_assoc]

theorem run_concat (s : Scanner) (cs : List Char) (c : Char) :
    s.run (cs ++ [c]) = ((s.run cs).step c).1 := by
  rw [run_append]
  rfl

/-- An open argument list is dropped at the end of the rule. -/
theorem finish_of_open {s : Scanner} (h : 0 < s.depth) : s.finish = none := by
  simp [finish, h]

theorem step_space {s : Scanner} (h : s.depth = 0) :
    s.step ' ' = ({ s with prev := ' ', token := none, hasArgs := false }, s.finish) := by
  simp [step, h, stepOutside, finish]

theorem finish_prefix_calls (s : Scanner) (cs : List Char) :
    s.finish.toList <+: s.calls (' ' :: cs) := by
  by_cases h : 0 < s.depth
  · rw [finish_of_open h]
    exact List.nil_prefix
  · rw [calls, step_space (Nat.eq_zero_of_not_pos h)]
    exact List.prefix_append _ _

end Scanner

/-- What follows a space takes no call away, whatever lists it closes or opens. -/
theorem scan_prefix_append (r s : String) : scan r <+: scan (r ++ " " ++ s) := by
  have htext : (r ++ " " ++ s).toList = r.toList ++ ' ' :: s.toList := by
    simp [String.toList_append]
  rw [scan, scan, htext, Scanner.calls_append, Scanner.calls_eq_emitted]
  exact List.prefix_append_right_inj _ |>.mpr (Scanner.finish_prefix_calls _ _)

end FieldRules
