import FieldRules.Proofs.ScanAppend

namespace FieldRules

namespace Scanner

theorem step_outside {s : Scanner} (h : s.depth = 0) (c : Char) : s.step c = s.stepOutside c := by
  simp [step, h]

theorem step_inside {s : Scanner} (h : 0 < s.depth) (c : Char) : s.step c = s.stepInside c := by
  simp [step, h]

/-- Outside argument lists no arguments are held over from the list before. -/
def Settled (s : Scanner) : Prop := s.depth = 0 → s.args = []

theorem Settled.step {s : Scanner} (h : s.Settled) (c : Char) : (s.step c).1.Settled := by
  intro hd
  by_cases hs : 0 < s.depth
  · rw [step_inside hs] at hd ⊢
    unfold stepInside at hd ⊢
    grind [extend]
  · have hargs : s.args = [] := h (by omega)
    rw [step_outside (by omega)]
    unfold stepOutside
    grind [extend]

theorem Settled.run {s : Scanner} (h : s.Settled) (cs : List Char) : (s.run cs).Settled := by
  induction cs generalizing s with
  | nil => exact h
  | cons c cs ih => exact ih (h.step c)

theorem settled_start : ({} : Scanner).Settled := fun _ => rfl

/-- The same scanner, or outside argument lists one that holds other texts of the list before; the
next list overwrites these. -/
def Alike (s t : Scanner) : Prop :=
  t = s ∨ s.depth = 0 ∧ t = { s with verb := t.verb, arg := t.arg }

theorem Alike.finish {s t : Scanner} (h : Alike s t) : t.finish = s.finish := by
  rcases h with rfl | ⟨-, h⟩
  · rfl
  · rw [h]
    rfl

theorem Alike.step {s t : Scanner} (h : Alike s t) (c : Char) :
    (t.step c).2 = (s.step c).2 ∧ Alike (s.step c).1 (t.step c).1 := by
  rcases h with rfl | ⟨hd, h⟩
  · exact ⟨rfl, .inl rfl⟩
  · have htd : t.depth = 0 := by
      rw [h]
      exact hd
    rw [step_outside hd, step_outside htd, h]
    unfold stepOutside
    by_cases hspace : c = ' '
    · simp [hspace, Alike, hd]
    · by_cases hopen : c = '(' ∧ s.prev ≠ '\\'
      · simp [hopen, Alike, extend, text]
      · simp [hspace, hopen, Alike, extend, text, hd]

theorem Alike.run {s t : Scanner} (h : Alike s t) (cs : List Char) :
    t.emitted cs = s.emitted cs ∧ Alike (s.run cs) (t.run cs) := by
  induction cs generalizing s t with
  | nil => exact ⟨rfl, h⟩
  | cons c cs ih =>
    obtain ⟨hcall, hstep⟩ := h.step c
    obtain ⟨hcalls, hrun⟩ := ih hstep
    exact ⟨by rw [emitted, emitted, hcall, hcalls], hrun⟩

theorem Alike.calls {s t : Scanner} (h : Alike s t) (cs : List Char) : t.calls cs = s.calls cs := by
  obtain ⟨hcalls, hrun⟩ := h.run cs
  rw [calls_eq_emitted, calls_eq_emitted, hcalls, hrun.finish]

/-- Behind a space outside argument lists a rule begins anew. -/
theorem alike_step_space {s : Scanner} (h : s.depth = 0) (hs : s.Settled) :
    Alike {} (s.step ' ').1 := by
  rw [step_space h]
  exact .inr ⟨rfl, by simp [h, hs h]⟩

theorem calls_space {s : Scanner} (h : s.depth = 0) (hs : s.Settled) (cs : List Char) :
    s.calls (' ' :: cs) = s.finish.toList ++ ({} : Scanner).calls cs := by
  rw [calls, (alike_step_space h hs).calls, step_space h]

theorem calls_replicate_space (s : Scanner) (n : Nat) :
    s.calls (List.replicate n ' ') = s.finish.toList := by
  induction n generalizing s with
  | zero => rfl
  | succ n ih =>
    rw [List.replicate_succ, calls, ih]
    by_cases hs : 0 < s.depth
    · have hstep : s.step ' ' = ({ s.extend ' ' with arg := s.arg ++ [' '] }, none) := by
        rw [step_inside hs, stepInside]
        simp
      have hopen : (s.step ' ').1.finish = none := finish_of_open (by rw [hstep]; exact hs)
      rw [finish_of_open hs, hopen, hstep]
      rfl
    · rw [step_space (by omega)]
      simp [finish]

end Scanner

/-- The number of argument lists that are open at the end of a rule. -/
def openLists (rule : String) : Nat := (({} : Scanner).run rule.toList).depth

/-- A text of spaces. -/
def spaces (n : Nat) : String := String.ofList (List.replicate n ' ')

theorem toList_spaces (n : Nat) : (spaces n).toList = List.replicate n ' ' := String.toList_ofList

theorem scan_append_space {r : String} (h : openLists r = 0) (s : String) :
    scan (r ++ " " ++ s) = scan r ++ scan s := by
  have htext : (r ++ " " ++ s).toList = r.toList ++ ' ' :: s.toList := by
    simp [String.toList_append]
  rw [scan, htext, Scanner.calls_append, Scanner.calls_space h (Scanner.settled_start.run _),
    ← List.append_assoc, ← Scanner.calls_eq_emitted]
  rfl

theorem scan_append_spaces (r : String) (n : Nat) : scan (r ++ spaces n) = scan r := by
  rw [scan, scan, String.toList_append, toList_spaces, Scanner.calls_append,
    Scanner.calls_replicate_space, Scanner.calls_eq_emitted]

theorem scan_spaces_append (n : Nat) (s : String) : scan (spaces n ++ s) = scan s := by
  rw [scan, scan, String.toList_append, toList_spaces]
  induction n with
  | zero => rfl
  | succ n ih =>
    rw [← ih]
    rfl

theorem scan_append_space_spaces {r : String} (h : openLists r = 0) (n : Nat) (s : String) :
    scan (r ++ " " ++ spaces n ++ s) = scan (r ++ " " ++ s) := by
  have htext : r ++ " " ++ spaces n ++ s = r ++ " " ++ (spaces n ++ s) := String.append_assoc
  rw [htext, scan_append_space h, scan_append_space h, scan_spaces_append]

end FieldRules
