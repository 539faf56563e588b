import FieldRules.Proofs.TopLevelSpace
import Mathlib.Data.List.Chain

namespace FieldRules

/-- The raw arguments with commas between them, up to the closing parenthesis. -/
def rawArgs (raws : List (List Char)) : List Char := [','].intercalate raws ++ [')']

theorem rawArgs_singleton (raw : List Char) : rawArgs [raw] = raw ++ [')'] := by
  simp [rawArgs]

theorem rawArgs_cons_cons (raw next : List Char) (more : List (List Char)) :
    rawArgs (raw :: next :: more) = raw ++ ',' :: rawArgs (next :: more) := by
  simp [rawArgs, List.intercalate_cons_cons]

namespace Scanner

/-- The scanner has read `word` of a token that has no argument list yet. -/
structure InWord (s : Scanner) (word : List Char) : Prop where
  depth : s.depth = 0
  hasArgs : s.hasArgs = false
  args : s.args = []
  token : s.token = if word = [] then none else some word

/-- The scanner stands in the first list of the token `verb`, with the arguments `args` behind it
and the text `arg` of one more. -/
structure InList (s : Scanner) (verb : List Char) (args : List String) (arg : List Char) :
    Prop where
  depth : s.depth = 1
  hasArgs : s.hasArgs = true
  verb : s.verb = verb
  args : s.args = args
  arg : s.arg = arg

theorem inWord_start : ({} : Scanner).InWord [] := ⟨rfl, rfl, rfl, rfl⟩

theorem InWord.text {s : Scanner} {word : List Char} (h : s.InWord word) : s.text = word := by
  rw [Scanner.text, h.token]
  split
  · rename_i hword
    exact hword.symm
  · rfl

theorem InWord.step {s : Scanner} {word : List Char} (h : s.InWord word) {c : Char}
    (hspace : c ≠ ' ') (hparen : c = '(' → s.prev = '\\') :
    s.step c = (s.extend c, none) ∧ (s.extend c).InWord (word ++ [c]) := by
  have hword : ¬(c = '(' ∧ s.prev ≠ '\\') := by
    rintro ⟨hc, hprev⟩
    exact hprev (hparen hc)
  constructor
  · rw [step_outside h.depth, stepOutside, if_neg hspace, if_neg hword]
  · exact ⟨h.depth, h.hasArgs, h.args, by simp [extend, h.text]⟩

theorem InWord.run {s : Scanner} {word : List Char} (h : s.InWord word) {verb : List Char}
    (hspace : ' ' ∉ verb)
    (hparens : (s.prev :: verb).IsChain fun before here => here = '(' → before = '\\') :
    s.emitted verb = [] ∧ (s.run verb).InWord (word ++ verb) ∧
      (s.run verb).prev = verb.getLast?.getD s.prev := by
  induction verb generalizing s word with
  | nil => exact ⟨rfl, by simpa [Scanner.run] using h, rfl⟩
  | cons c cs ih =>
    obtain ⟨hc, hcs⟩ := List.isChain_cons_cons.mp hparens
    obtain ⟨hstep, hword⟩ := h.step (fun hc => hspace (by simp [hc])) hc
    obtain ⟨hout, hrun, hprev⟩ := ih hword (fun hc => hspace (by simp [hc])) hcs
    rw [emitted, Scanner.run, hstep]
    refine ⟨hout, by simpa using hrun, ?_⟩
    rw [hprev, List.getLast?_cons]
    rfl

theorem InWord.open {s : Scanner} {word : List Char} (h : s.InWord word) (hprev : s.prev ≠ '\\') :
    (s.step '(').2 = none ∧ (s.step '(').1.InList word [] [] ∧ (s.step '(').1.prev = '(' := by
  have hstep : s.step '(' =
      ({ s.extend '(' with hasArgs := true, depth := 1, verb := s.text, arg := [] }, none) := by
    rw [step_outside h.depth, stepOutside]
    simp [hprev]
  rw [hstep]
  exact ⟨rfl, ⟨rfl, rfl, h.text, h.args, rfl⟩, rfl⟩

theorem getLast?_getD_ne {cs : List Char} {b c : Char} (h : cs.getLast? ≠ some b) (hc : c ≠ b) :
    cs.getLast?.getD c ≠ b := by
  cases hlast : cs.getLast? with
  | none => exact hc
  | some a => exact fun ha => h (hlast.trans (congrArg some ha))

/-- An argument that starts with the text goes on behind it, at the depth of its list, and what
follows is not protected. -/
def ReadAsText (raw : List Char) : Prop :=
  ∀ (s : Scanner) (verb : List Char) (args : List String), s.InList verb args [] →
    s.prev ≠ '\\' →
    s.emitted raw = [] ∧ (s.run raw).InList verb args raw ∧ (s.run raw).prev ≠ '\\'

/-- A list that has just been opened ends with the text, and its arguments are `args`. -/
def Lists (text : List Char) (args : List String) : Prop :=
  ∀ (s : Scanner) (verb : List Char), s.InList verb [] [] → s.prev ≠ '\\' →
    s.emitted text = [⟨String.ofList verb, args, true⟩] ∧ (s.run text).depth = 0 ∧
      (s.run text).hasArgs = true

section InList

variable {s : Scanner} {verb : List Char} {args : List String} {raw : List Char}

theorem InList.comma (h : s.InList verb args raw) (hprev : s.prev ≠ '\\') :
    (s.step ',').2 = none ∧
      (s.step ',').1.InList verb (args ++ [String.ofList (Argument.unescape raw)]) [] ∧
      (s.step ',').1.prev = ',' := by
  have hstep : s.step ',' = ({ s.extend ',' with
      arg := [], args := s.args ++ [String.ofList (Argument.unescape s.arg)] }, none) := by
    rw [step_inside (by rw [h.depth]; decide), stepInside]
    simp [hprev, h.depth]
  rw [hstep]
  exact ⟨rfl, ⟨h.depth, h.hasArgs, h.verb, by rw [← h.args, ← h.arg], rfl⟩, rfl⟩

theorem InList.close (h : s.InList verb args raw) (hprev : s.prev ≠ '\\') :
    (s.step ')').2 = some ⟨String.ofList verb, s.closedArgs, true⟩ ∧
      (s.step ')').1.depth = 0 ∧ (s.step ')').1.hasArgs = true := by
  have hstep : s.step ')' = ({ s.extend ')' with depth := 0, arg := [], args := [] },
      some ⟨String.ofList s.verb, s.closedArgs, true⟩) := by
    rw [step_inside (by rw [h.depth]; decide), stepInside]
    simp [hprev, h.depth]
  rw [hstep, h.verb]
  exact ⟨rfl, rfl, h.hasArgs⟩

theorem InList.closedArgs_of_kept (h : s.InList verb args raw)
    (hkept : args = [] → Text.trimSpaces raw ≠ []) :
    s.closedArgs = args ++ [String.ofList (Argument.unescape raw)] := by
  have hsome : ¬(s.args = [] ∧ Text.trimSpaces s.arg = []) := by
    rw [h.args, h.arg]
    rintro ⟨hargs, hblank⟩
    exact hkept hargs hblank
  rw [Scanner.closedArgs, if_neg hsome, h.args, h.arg]

/-- Only a blank argument that stands alone is not kept. -/
theorem InList.rawArgs (h : s.InList verb args []) (hprev : s.prev ≠ '\\')
    {raws : List (List Char)} (hne : raws ≠ [])
    (hkept : args = [] → ∀ raw, raws = [raw] → Text.trimSpaces raw ≠ [])
    (hraws : ∀ raw ∈ raws, ReadAsText raw) :
    s.emitted (FieldRules.rawArgs raws) = [⟨String.ofList verb,
        args ++ raws.map fun raw => String.ofList (Argument.unescape raw), true⟩] ∧
      (s.run (FieldRules.rawArgs raws)).depth = 0 ∧
      (s.run (FieldRules.rawArgs raws)).hasArgs = true := by
  induction raws generalizing s args with
  | nil => exact absurd rfl hne
  | cons raw more ih =>
    obtain ⟨hout, hin, hquiet⟩ := hraws raw List.mem_cons_self s verb args h hprev
    cases more with
    | nil =>
      obtain ⟨hcall, hdepth, hhas⟩ := hin.close hquiet
      rw [hin.closedArgs_of_kept fun hargs => hkept hargs raw rfl] at hcall
      rw [rawArgs_singleton, emitted_append, run_concat, hout]
      exact ⟨by simp [emitted, hcall], hdepth, hhas⟩
    | cons next more =>
      obtain ⟨hnone, hnext, hcomma⟩ := hin.comma hquiet
      have hrest := ih hnext (by rw [hcomma]; decide) (by simp) (by simp)
        fun t ht => hraws t (List.mem_cons_of_mem raw ht)
      rw [rawArgs_cons_cons, emitted_append, run_append, hout, emitted, hnone]
      simpa [Scanner.run] using hrest

end InList

theorem lists_rawArgs {raws : List (List Char)} (hne : raws ≠ [])
    (hkept : ∀ raw, raws = [raw] → Text.trimSpaces raw ≠ [])
    (hraws : ∀ raw ∈ raws, ReadAsText raw) :
    Lists (rawArgs raws) (raws.map fun raw => String.ofList (Argument.unescape raw)) := by
  intro s verb h hprev
  exact h.rawArgs hprev hne (fun _ => hkept) hraws

theorem lists_blank {raw : List Char} (hraw : ReadAsText raw) (hblank : Text.trimSpaces raw = []) :
    Lists (rawArgs [raw]) [] := by
  intro s verb h hprev
  obtain ⟨hout, hin, hquiet⟩ := hraw s verb [] h hprev
  obtain ⟨hcall, hdepth, hhas⟩ := hin.close hquiet
  have hnone : (s.run raw).closedArgs = [] := if_pos ⟨hin.args, by rw [hin.arg, hblank]⟩
  rw [hnone] at hcall
  rw [rawArgs_singleton, emitted_append, run_concat, hout]
  exact ⟨by simp [emitted, hcall], hdepth, hhas⟩

/-- A word and a list behind it are one call. The space before the word stands for what precedes it
in a rule. -/
theorem calls_list {verb text : List Char} {args : List String} (hspace : ' ' ∉ verb)
    (hparens : (' ' :: verb).IsChain fun before here => here = '(' → before = '\\')
    (hslash : verb.getLast? ≠ some '\\') (hlist : Lists text args) :
    ({} : Scanner).calls (verb ++ '(' :: text) = [⟨String.ofList verb, args, true⟩] ∧
      (({} : Scanner).run (verb ++ '(' :: text)).depth = 0 := by
  obtain ⟨hout, hword, hprev⟩ := inWord_start.run hspace hparens
  rw [List.nil_append] at hword
  have hquiet : (({} : Scanner).run verb).prev ≠ '\\' := by
    rw [hprev]
    exact getLast?_getD_ne hslash (by decide)
  obtain ⟨hnone, hopened, hparen⟩ := hword.open hquiet
  obtain ⟨hcall, hdepth, hhas⟩ := hlist _ verb hopened (by rw [hparen]; decide)
  have hend : (({} : Scanner).run (verb ++ '(' :: text)).finish = none := by
    rw [run_append]
    exact if_pos (.inl hhas)
  rw [calls_eq_emitted, hend, emitted_append, run_append, hout, emitted, hnone, hcall]
  exact ⟨rfl, hdepth⟩

end Scanner
end FieldRules
