import FieldRules.Proofs.ArgumentList
import FieldRules.Proofs.EscapedArgument

namespace FieldRules

/-- The argument can stand in a list: trimming leaves it alone, and what follows it is not taken for
protected. -/
structure Argument.Writable (arg : String) : Prop where
  head : arg.toList.head? ≠ some ' '
  last : arg.toList.getLast? ≠ some ' '
  slash : arg.toList.getLast? ≠ some '\\'

instance (arg : String) : Decidable (Argument.Writable arg) :=
  decidable_of_iff
    (arg.toList.head? ≠ some ' ' ∧ arg.toList.getLast? ≠ some ' ' ∧ arg.toList.getLast? ≠ some '\\')
    ⟨fun ⟨head, last, slash⟩ => ⟨head, last, slash⟩, fun h => ⟨h.head, h.last, h.slash⟩⟩

/-- The call can be written. The space before the verb stands for what precedes it in a rule. -/
structure Call.Writable (c : Call) : Prop where
  no_space : ' ' ∉ c.verb.toList
  parens : (' ' :: c.verb.toList).IsChain fun before here => here = '(' → before = '\\'
  bare : c.parenthesized = false → c.verb ≠ "" ∧ c.args = []
  listed : c.parenthesized = true →
    c.verb.toList.getLast? ≠ some '\\' ∧ c.args ≠ [""] ∧ ∀ arg ∈ c.args, Argument.Writable arg

instance (c : Call) : Decidable c.Writable :=
  decidable_of_iff
    (' ' ∉ c.verb.toList ∧
      ((' ' :: c.verb.toList).IsChain fun before here => here = '(' → before = '\\') ∧
      (c.parenthesized = false → c.verb ≠ "" ∧ c.args = []) ∧
      (c.parenthesized = true → c.verb.toList.getLast? ≠ some '\\' ∧ c.args ≠ [""] ∧
        ∀ arg ∈ c.args, Argument.Writable arg))
    ⟨fun ⟨no_space, parens, bare, listed⟩ => ⟨no_space, parens, bare, listed⟩,
      fun h => ⟨h.no_space, h.parens, h.bare, h.listed⟩⟩

/-- The list of the arguments, up to its closing parenthesis. -/
def writeArgs (args : List String) : List Char :=
  [','].intercalate (args.map fun arg => Argument.escape arg.toList) ++ [')']

def Call.write (c : Call) : String :=
  if c.parenthesized then String.ofList (c.verb.toList ++ '(' :: writeArgs c.args) else c.verb

/-- The calls with spaces between them, `gap n + 1` of them before the last `n` calls. -/
def writeRule (gap : Nat → Nat) : List Call → String
  | [] => ""
  | [c] => c.write
  | c :: cs => c.write ++ " " ++ spaces (gap cs.length) ++ writeRule gap cs

namespace Scanner

/-- A bare word ends with the rule. -/
theorem InWord.finish {s : Scanner} {word : List Char} (h : s.InWord word) (hword : word ≠ []) :
    s.finish = some (Call.bare word) := by
  simp [Scanner.finish, h.hasArgs, h.depth, h.token, hword]

section InList

variable {s : Scanner} {verb : List Char} {args : List String} {arg : List Char}

theorem InList.step (h : s.InList verb args arg) {c : Char}
    (hc : s.prev = '\\' ∨ Argument.isSpecial c = false) :
    (s.step c).2 = none ∧ (s.step c).1.InList verb args (arg ++ [c]) ∧ (s.step c).1.prev = c := by
  have hstep : s.step c = ({ s.extend c with arg := s.arg ++ [c] }, none) := by
    rw [step_inside (by rw [h.depth]; decide), stepInside]
    rcases hc with hc | hc
    · simp [hc]
    · simp only [Argument.isSpecial, Bool.or_eq_false_iff, beq_eq_false_iff_ne] at hc
      simp [hc]
  rw [hstep]
  exact ⟨rfl, ⟨h.depth, h.hasArgs, h.verb, h.args, by rw [← h.arg]⟩, rfl⟩

/-- An escaped text is read as text, whatever stands before it. -/
theorem InList.escape (h : s.InList verb args arg) (cs : List Char) :
    s.emitted (Argument.escape cs) = [] ∧
      (s.run (Argument.escape cs)).InList verb args (arg ++ Argument.escape cs) ∧
      (s.run (Argument.escape cs)).prev = cs.getLast?.getD s.prev := by
  induction cs generalizing s arg with
  | nil => exact ⟨rfl, by simpa [Argument.escape, Argument.protect, run] using h, rfl⟩
  | cons c cs ih =>
    have hlast : (c :: cs).getLast?.getD s.prev = cs.getLast?.getD c := by
      rw [List.getLast?_cons]
      rfl
    by_cases hc : Argument.isSpecial c
    · have htext : Argument.escape (c :: cs) = '\\' :: c :: Argument.escape cs := by
        simp [Argument.escape, Argument.protect_cons, hc]
      obtain ⟨hout₁, hin₁, hprev₁⟩ := h.step (c := '\\') (.inr rfl)
      obtain ⟨hout₂, hin₂, hprev₂⟩ := hin₁.step (c := c) (.inl hprev₁)
      obtain ⟨hout, hin, hprev⟩ := ih hin₂
      rw [htext]
      refine ⟨?_, by simpa [run] using hin, ?_⟩
      · simp [emitted, hout₁, hout₂, hout]
      · rw [hprev₂, ← hlast] at hprev
        exact hprev
    · have htext : Argument.escape (c :: cs) = c :: Argument.escape cs := by
        simp [Argument.escape, Argument.protect_cons, hc]
      obtain ⟨hout₁, hin₁, hprev₁⟩ := h.step (c := c) (.inr (by simpa using hc))
      obtain ⟨hout, hin, hprev⟩ := ih hin₁
      rw [htext]
      refine ⟨?_, by simpa [run] using hin, ?_⟩
      · simp [emitted, hout₁, hout]
      · rw [hprev₁, ← hlast] at hprev
        exact hprev

end InList

theorem readAsText_escape {x : String} (hx : Argument.Writable x) :
    ReadAsText (Argument.escape x.toList) := by
  intro s verb args h hprev
  obtain ⟨hout, hin, hlast⟩ := h.escape x.toList
  refine ⟨hout, hin, ?_⟩
  rw [hlast]
  exact getLast?_getD_ne hx.slash hprev

/-- A lone empty argument would be taken for none. -/
theorem lists_writeArgs {args : List String} (hblank : args ≠ [""])
    (hargs : ∀ x ∈ args, Argument.Writable x) : Lists (writeArgs args) args := by
  by_cases hne : args = []
  · subst hne
    have hnil : ReadAsText [] := fun s verb args h hprev => ⟨rfl, h, hprev⟩
    exact lists_blank hnil rfl
  · have hraws : ∀ raw ∈ args.map fun x => Argument.escape x.toList, ReadAsText raw := by
      intro raw hraw
      obtain ⟨x, hx, rfl⟩ := List.mem_map.mp hraw
      exact readAsText_escape (hargs x hx)
    have hkept : ∀ raw, (args.map fun x => Argument.escape x.toList) = [raw] →
        Text.trimSpaces raw ≠ [] := by
      intro raw hraw
      obtain ⟨x, rfl, rfl⟩ := List.map_eq_singleton_iff.mp hraw
      have hx : Argument.Writable x := hargs x List.mem_cons_self
      have hxne : x.toList ≠ [] := by simpa using hblank
      exact Text.trimSpaces_ne_nil (Argument.escape_ne_nil hxne) (Argument.head?_escape hx.head)
    have hread : ((args.map fun x => Argument.escape x.toList).map fun raw =>
        String.ofList (Argument.unescape raw)) = args := by
      rw [List.map_map]
      refine (List.map_congr_left fun x hx => ?_).trans (List.map_id args)
      have hwritable : Argument.Writable x := hargs x hx
      exact (congrArg String.ofList (Argument.unescape_escape hwritable.head hwritable.last)).trans
        String.ofList_toList
    have hlists := lists_rawArgs (by simpa using hne) hkept hraws
    rw [hread] at hlists
    exact hlists

theorem run_write {c : Call} (h : c.Writable) :
    ({} : Scanner).calls c.write.toList = [c] ∧ (({} : Scanner).run c.write.toList).depth = 0 := by
  obtain ⟨verb, args, parenthesized⟩ := c
  cases parenthesized with
  | false =>
    obtain ⟨hverb, rfl⟩ := h.bare rfl
    obtain ⟨hout, hword, -⟩ := inWord_start.run h.no_space h.parens
    rw [List.nil_append] at hword
    have hne : verb.toList ≠ [] := by simpa using hverb
    refine ⟨?_, hword.depth⟩
    simp only [Call.write, Bool.false_eq_true, if_false]
    rw [calls_eq_emitted, hout, hword.finish hne]
    simp [Call.bare]
  | true =>
    obtain ⟨hslash, hblank, hargs⟩ := h.listed rfl
    have htext : (Call.mk verb args true).write.toList = verb.toList ++ '(' :: writeArgs args := by
      simp [Call.write]
    have hcalls := calls_list h.no_space h.parens hslash (lists_writeArgs hblank hargs)
    rw [String.ofList_toList] at hcalls
    rw [htext]
    exact hcalls

end Scanner

theorem scan_write {c : Call} (h : c.Writable) : scan c.write = [c] := (Scanner.run_write h).1

theorem openLists_write {c : Call} (h : c.Writable) : openLists c.write = 0 :=
  (Scanner.run_write h).2

/-- Whatever calls can be written are read back as they were, with any number of spaces between
them. -/
theorem scan_writeRule (gap : Nat → Nat) {calls : List Call} (h : ∀ c ∈ calls, c.Writable) :
    scan (writeRule gap calls) = calls := by
  induction calls with
  | nil => rfl
  | cons c cs ih =>
    have hc : c.Writable := h c List.mem_cons_self
    have hcs := ih fun b hb => h b (List.mem_cons_of_mem c hb)
    cases cs with
    | nil => exact scan_write hc
    | cons b cs =>
      rw [writeRule, scan_append_space_spaces (openLists_write hc),
        scan_append_space (openLists_write hc), scan_write hc, hcs, List.singleton_append]
      simp

/-- A bare verb ends in a backslash, another has one before a parenthesis, and a third is empty;
of the arguments one has backslashes before special characters and one is empty. -/
theorem scan_writeRule_backslashes :
    (∀ c ∈ [⟨"f\\", [], false⟩, ⟨"v\\(w)", ["a\\,(b", "", "c d\\)"], true⟩, ⟨"", [], true⟩],
      Call.Writable c) ∧
    scan (writeRule (fun n => n)
        [⟨"f\\", [], false⟩, ⟨"v\\(w)", ["a\\,(b", "", "c d\\)"], true⟩, ⟨"", [], true⟩]) =
      [⟨"f\\", [], false⟩, ⟨"v\\(w)", ["a\\,(b", "", "c d\\)"], true⟩, ⟨"", [], true⟩] := by
  have h : ∀ c ∈ [⟨"f\\", [], false⟩, ⟨"v\\(w)", ["a\\,(b", "", "c d\\)"], true⟩, ⟨"", [], true⟩],
      Call.Writable c := by decide
  exact ⟨h, scan_writeRule (fun n => n) h⟩

/-- Three spaces come before the list, and one before the last call. -/
example : writeRule (fun n => 2 * (n - 1)) [⟨"f", [], false⟩, ⟨"in", ["a,b", "(c)"], true⟩,
    ⟨"required", [], false⟩] = "f   in(a\\,b,\\(c\\)) required" := by decide

end FieldRules
