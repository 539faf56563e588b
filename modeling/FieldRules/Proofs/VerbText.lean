import FieldRules.Proofs.ArgumentList
import FieldRules.Proofs.OpenList

namespace FieldRules

/-- No space, and no parenthesis but directly behind a backslash. The space before the verb stands
for what precedes it in a rule. -/
def IsWord (verb : List Char) : Prop :=
  ' ' ∉ verb ∧ (' ' :: verb).IsChain fun before here => here = '(' → before = '\\'

instance (verb : List Char) : Decidable (IsWord verb) := inferInstanceAs (Decidable (_ ∧ _))

theorem isWord_nil : IsWord [] := ⟨List.not_mem_nil, List.isChain_singleton ' '⟩

theorem IsWord.snoc {verb : List Char} (h : IsWord verb) {c : Char} (hspace : c ≠ ' ')
    (hparen : c = '(' → verb.getLast?.getD ' ' = '\\') : IsWord (verb ++ [c]) := by
  constructor
  · simpa [h.1] using hspace.symm
  · rw [← List.cons_append, List.isChain_append]
    refine ⟨h.2, List.isChain_singleton c, fun before hbefore here hhere hopen => ?_⟩
    rw [List.getLast?_cons, Option.mem_some_iff] at hbefore
    rw [List.head?_cons, Option.mem_some_iff] at hhere
    exact hbefore ▸ hparen (hhere.trans hopen)

namespace Scanner

/-- What holds of the scanner wherever it stands in a rule. -/
structure Regular (s : Scanner) : Prop where
  has_list : 0 < s.depth → s.hasArgs = true
  in_token : s.prev = '\\' → s.token.isSome
  word : s.depth = 0 → s.hasArgs = false → IsWord s.text ∧ s.prev = s.text.getLast?.getD ' '

theorem regular_start : ({} : Scanner).Regular :=
  ⟨fun h => absurd h (Nat.lt_irrefl 0), fun h => absurd h (by decide), fun _ _ => ⟨isWord_nil, rfl⟩⟩

theorem prev_step (s : Scanner) (c : Char) : (s.step c).1.prev = c := by
  unfold step stepInside stepOutside extend
  grind

theorem prev_run (s : Scanner) (cs : List Char) : (s.run cs).prev = cs.getLast?.getD s.prev := by
  induction cs generalizing s with
  | nil => rfl
  | cons c cs ih =>
    rw [run, ih, prev_step, List.getLast?_cons]
    rfl

theorem step_open {s : Scanner} (hs : s.depth = 0) (hprev : s.prev ≠ '\\') :
    s.step '(' =
      ({ s.extend '(' with hasArgs := true, depth := 1, verb := s.text, arg := [] }, none) := by
  rw [step_outside hs, stepOutside]
  simp [hprev]

theorem step_extend {s : Scanner} (hs : s.depth = 0) {c : Char} (hspace : c ≠ ' ')
    (hparen : c = '(' → s.prev = '\\') : s.step c = (s.extend c, none) := by
  have hopen : ¬(c = '(' ∧ s.prev ≠ '\\') := fun ⟨hc, hprev⟩ => hprev (hparen hc)
  rw [step_outside hs, stepOutside, if_neg hspace, if_neg hopen]

/-- Where a character is read: in a list, or outside lists as a space, as a part of the token or as
the parenthesis that opens a list. -/
inductive StepCase (s : Scanner) : Char → Prop
  | inside {c : Char} (hs : 0 < s.depth) : StepCase s c
  | space (hs : s.depth = 0) : StepCase s ' '
  | extend {c : Char} (hs : s.depth = 0) (hspace : c ≠ ' ') (hparen : c = '(' → s.prev = '\\') :
      StepCase s c
  | opens (hs : s.depth = 0) (hprev : s.prev ≠ '\\') : StepCase s '('

theorem stepCase (s : Scanner) (c : Char) : s.StepCase c := by
  by_cases hs : 0 < s.depth
  · exact .inside hs
  · have hout : s.depth = 0 := Nat.eq_zero_of_not_pos hs
    by_cases hspace : c = ' '
    · subst hspace
      exact .space hout
    · by_cases hparen : c = '(' → s.prev = '\\'
      · exact .extend hout hspace hparen
      · obtain ⟨rfl, hprev⟩ := Classical.not_imp.mp hparen
        exact .opens hout hprev

theorem Regular.step {s : Scanner} (h : s.Regular) (c : Char) : (s.step c).1.Regular := by
  cases s.stepCase c with
  | inside hs =>
    have hlist := h.has_list hs
    rw [step_inside hs]
    unfold stepInside
    constructor <;> grind [Scanner.extend]
  | space hs =>
    rw [step_space hs]
    exact ⟨fun hopen => absurd hs hopen.ne', fun hprev => absurd hprev (by simp),
      fun _ _ => ⟨isWord_nil, rfl⟩⟩
  | extend hs hspace hparen =>
    rw [step_extend hs hspace hparen]
    refine ⟨fun hopen => absurd hs hopen.ne', fun _ => rfl, fun _ hno => ?_⟩
    obtain ⟨hword, hprev⟩ := h.word hs hno
    exact ⟨hword.snoc hspace fun hc => hprev ▸ hparen hc, by simp [Scanner.extend, text]⟩
  | opens hs hprev =>
    rw [step_open hs hprev]
    exact ⟨fun _ => rfl, fun _ => rfl, fun hout => absurd hout Nat.one_ne_zero⟩

theorem Regular.run {s : Scanner} (h : s.Regular) (cs : List Char) : (s.run cs).Regular := by
  induction cs generalizing s with
  | nil => exact h
  | cons c cs ih => exact ih (h.step c)

/-- A call comes from the character that completes it, read behind all that precedes it. -/
theorem mem_emitted {s : Scanner} {cs : List Char} {call : Call} :
    call ∈ s.emitted cs ↔
      ∃ before c after, cs = before ++ c :: after ∧ ((s.run before).step c).2 = some call := by
  induction cs generalizing s with
  | nil => simp [emitted]
  | cons c cs ih =>
    rw [emitted, List.mem_append, Option.mem_toList, ih]
    constructor
    · rintro (hcall | ⟨before, b, after, rfl, hcall⟩)
      · exact ⟨[], c, cs, rfl, hcall⟩
      · exact ⟨c :: before, b, after, rfl, hcall⟩
    · rintro ⟨before, b, after, hcs, hcall⟩
      cases before with
      | nil =>
        obtain ⟨rfl, rfl⟩ := List.cons.inj hcs
        exact .inl hcall
      | cons a before =>
        obtain ⟨rfl, rfl⟩ := List.cons.inj hcs
        exact .inr ⟨before, b, after, rfl, hcall⟩

theorem step_call_inside {s : Scanner} (hs : 0 < s.depth) {c : Char} {call : Call} :
    (s.step c).2 = some call ↔
      (s.step c).1.depth = 0 ∧ call = ⟨String.ofList s.verb, s.closedArgs, true⟩ := by
  rw [step_inside hs]
  unfold stepInside
  grind [extend]

theorem step_call_outside {s : Scanner} (hs : s.depth = 0) {c : Char} {call : Call} :
    (s.step c).2 = some call ↔ c = ' ' ∧ s.finish = some call := by
  by_cases hspace : c = ' '
  · subst hspace
    simp [step_space hs]
  · rw [step_outside hs]
    unfold stepOutside
    grind

theorem finish_eq_some {s : Scanner} {call : Call} :
    s.finish = some call ↔
      s.depth = 0 ∧ s.hasArgs = false ∧ ∃ word, s.token = some word ∧ call = Call.bare word := by
  unfold finish
  split
  · rename_i h
    grind
  · rename_i h
    simp only [not_or, Nat.not_lt, Nat.le_zero, Bool.not_eq_true] at h
    simp [h.1, h.2, Option.map_eq_some_iff, eq_comm]

/-- A token is read to its end into the text of the scanner. -/
theorem text_run {s : Scanner} {token : List Char} (h : s.TokenFrom token) :
    (s.run token).text = s.text ++ token := by
  induction token generalizing s with
  | nil => simp [run]
  | cons c cs ih =>
    have hspace : c = ' ' → 0 < s.depth := fun hc => h [] (by simp [hc])
    have hrest : (s.step c).1.TokenFrom cs := fun x hx =>
      h (c :: x) (List.cons_prefix_cons.mpr ⟨rfl, hx⟩)
    have hstep : (s.step c).1.text = s.text ++ [c] := by
      unfold step stepInside stepOutside
      grind [extend, text]
    rw [run, ih hrest, hstep]
    simp

theorem step_verb {s : Scanner} (hs : 0 < s.depth) (c : Char) : (s.step c).1.verb = s.verb := by
  rw [step_inside hs]
  unfold stepInside
  grind [extend]

theorem verb_run {s : Scanner} {cs : List Char} (h : ∀ x, x <+: cs → 0 < (s.run x).depth) :
    (s.run cs).verb = s.verb := by
  induction cs generalizing s with
  | nil => rfl
  | cons c cs ih =>
    have hs : 0 < s.depth := h [] List.nil_prefix
    have hrest : ∀ x, x <+: cs → 0 < ((s.step c).1.run x).depth := fun x hx =>
      h (c :: x) (List.cons_prefix_cons.mpr ⟨rfl, hx⟩)
    rw [run, ih hrest, step_verb hs]

/-- The verb is the text of the token at which its list was opened. -/
theorem verb_of_opened {s : Scanner} {inner : List Char} (hs : s.depth = 0)
    (h : ∀ x, x <+: inner → 0 < (s.run ('(' :: x)).depth) :
    (s.run ('(' :: inner)).verb = s.text := by
  have hopen : 0 < (s.step '(').1.depth := h [] List.nil_prefix
  have hverb : (s.step '(').1.verb = s.text := by
    rw [step_outside hs] at hopen ⊢
    unfold stepOutside at hopen ⊢
    grind [extend]
  rw [run, verb_run h, hverb]

/-- What is read behind `before` is the token `token`, and no list of it is open at its end. -/
structure Reads (before token : List Char) : Prop where
  boundary : Boundary before
  one_token : (({} : Scanner).run before).TokenFrom token
  outside : (({} : Scanner).run (before ++ token)).depth = 0

section Reads

variable {before token inner : List Char}

theorem text_boundary (h : Boundary before) : (({} : Scanner).run before).text = [] := by
  rcases h with rfl | ⟨p, rfl, hp⟩
  · rfl
  · rw [run_concat, step_space hp]
    rfl

theorem Reads.text (h : Reads before token) :
    (({} : Scanner).run (before ++ token)).text = token := by
  rw [run_append, text_run h.one_token, text_boundary h.boundary, List.nil_append]

theorem inWord_boundary (h : Boundary before) :
    (({} : Scanner).run before).InWord [] ∧ (({} : Scanner).run before).prev = ' ' := by
  rcases alike_boundary h with heq | ⟨-, heq⟩
  · rw [heq]
    exact ⟨inWord_start, rfl⟩
  · rw [heq]
    exact ⟨⟨rfl, rfl, rfl, rfl⟩, rfl⟩

/-- A token is a word exactly when it has had no list. -/
theorem Reads.isWord_iff (h : Reads before token) :
    IsWord token ↔ (({} : Scanner).run (before ++ token)).hasArgs = false := by
  constructor
  · intro hword
    obtain ⟨hin, hprev⟩ := inWord_boundary h.boundary
    obtain ⟨-, hrun, -⟩ := hin.run hword.1 (by rw [hprev]; exact hword.2)
    rw [run_append]
    exact hrun.hasArgs
  · intro hno
    have hword := (regular_start.run (before ++ token)).word h.outside hno
    rw [h.text] at hword
    exact hword.1

/-- The list that a token opens at its end is read to `inner` and still open there. -/
def OpenTo (before token inner : List Char) : Prop :=
  ∀ x, x <+: inner → 0 < (({} : Scanner).run (before ++ token ++ '(' :: x)).depth

theorem Reads.verb (h : Reads before token) (hopen : OpenTo before token inner) :
    (({} : Scanner).run (before ++ token ++ '(' :: inner)).verb = token := by
  rw [run_append, verb_of_opened h.outside, h.text]
  intro x hx
  rw [← run_append]
  exact hopen x hx

/-- A list that is open belongs to the token that has opened it. -/
theorem exists_reads_of_open {cs : List Char} (h : 0 < (({} : Scanner).run cs).depth) :
    ∃ before token inner, cs = before ++ token ++ '(' :: inner ∧ Reads before token ∧
      OpenTo before token inner := by
  obtain ⟨before, token, hbefore, htoken, hdepth, rfl | ⟨inner, rfl, hinner⟩⟩ := last_token cs
  · rw [hdepth] at h
    omega
  · exact ⟨before, token, inner, rfl, ⟨hbefore, htoken, hdepth⟩, hinner⟩

theorem exists_reads_of_outside {cs : List Char} (h : (({} : Scanner).run cs).depth = 0) :
    ∃ before token, cs = before ++ token ∧ Reads before token := by
  obtain ⟨before, token, hbefore, htoken, hdepth, rfl | ⟨inner, rfl, hinner⟩⟩ := last_token cs
  · exact ⟨before, token, rfl, hbefore, htoken, hdepth⟩
  · have hopen := hinner inner (List.prefix_refl inner)
    omega

end Reads

/-- The call stands in the rule behind `before`: its verb is what is read of a token there, up to
the list of the call, or up to a space or the end of the rule. -/
structure Places (rule before : List Char) (call : Call) : Prop where
  reads : Reads before call.verb.toList
  listed : call.parenthesized = true →
    before ++ call.verb.toList ++ ['('] <+: rule ∧ OpenTo before call.verb.toList []
  bare : call.parenthesized = false →
    IsWord call.verb.toList ∧
      (rule = before ++ call.verb.toList ∨ before ++ call.verb.toList ++ [' '] <+: rule)

theorem places_of_finish {cs rest : List Char} {call : Call}
    (h : (({} : Scanner).run cs).finish = some call) (hrest : rest = [] ∨ [' '] <+: rest) :
    ∃ before, Places (cs ++ rest) before call := by
  obtain ⟨hdepth, hno, word, hword, rfl⟩ := finish_eq_some.mp h
  obtain ⟨before, token, rfl, hreads⟩ := exists_reads_of_outside hdepth
  have htext : word = token := by
    rw [← hreads.text, Scanner.text, hword]
    rfl
  subst htext
  have hverb : (Call.bare word).verb.toList = word := String.toList_ofList
  refine ⟨before, by rwa [hverb], fun hlist => absurd hlist Bool.false_ne_true, fun _ => ?_⟩
  rw [hverb]
  refine ⟨hreads.isWord_iff.mpr hno, hrest.imp (fun hnil => by rw [hnil, List.append_nil]) ?_⟩
  exact fun hspace => (List.prefix_append_right_inj _).mpr hspace

theorem places_of_closed {cs : List Char} (rest : List Char) {c : Char} {call : Call}
    (hs : 0 < (({} : Scanner).run cs).depth)
    (h : ((({} : Scanner).run cs).step c).2 = some call) :
    ∃ before inner, cs = before ++ call.verb.toList ++ '(' :: inner ∧
      OpenTo before call.verb.toList inner ∧ Places (cs ++ rest) before call := by
  obtain ⟨before, token, inner, rfl, hreads, hopen⟩ := exists_reads_of_open hs
  obtain ⟨-, hcall⟩ := (step_call_inside hs).mp h
  have hverb : call.verb.toList = token := by
    rw [hcall, hreads.verb hopen]
    exact String.toList_ofList
  have hlist : call.parenthesized = true := by rw [hcall]
  have hinner : before ++ token ++ ['('] <+: before ++ token ++ '(' :: inner ++ rest :=
    ⟨inner ++ rest, by simp⟩
  have hopened : OpenTo before token [] := fun x hx => hopen x (hx.trans List.nil_prefix)
  rw [hverb]
  refine ⟨before, inner, rfl, hopen, by rwa [hverb], fun _ => ?_, fun hbare => ?_⟩
  · rw [hverb]
    exact ⟨hinner, hopened⟩
  · exact absurd (hlist.symm.trans hbare) (by decide)

/-- Only a closing parenthesis leads out of a list. -/
theorem eq_paren_of_closes {s : Scanner} {c : Char} (hs : 0 < s.depth)
    (h : (s.step c).1.depth = 0) : c = ')' := by
  rw [step_inside hs] at h
  unfold stepInside at h
  grind [extend]

theorem exists_call_of_closes {s : Scanner} {c : Char} (hs : 0 < s.depth)
    (h : (s.step c).1.depth = 0) :
    ∃ call, (s.step c).2 = some call ∧ call.verb.toList = s.verb :=
  ⟨_, (step_call_inside hs).mpr ⟨h, rfl⟩, String.toList_ofList⟩

end Scanner

/-- The token at the end of the text has had a list, which may still be open. -/
def hasList (text : String) : Bool := (({} : Scanner).run text.toList).hasArgs

/-- Behind `r`, whose last token has closed a list before, the rule opens another list for the same
token, and closes it behind `inner`. -/
structure GluesList (rule r inner rest : String) : Prop where
  text : rule = r ++ "(" ++ inner ++ ")" ++ rest
  outside : openLists r = 0
  has_list : hasList r = true
  inside : ∀ x y, inner = x ++ y → 0 < openLists (r ++ "(" ++ x)
  closed : openLists (r ++ "(" ++ inner ++ ")") = 0

theorem mem_scan {rule : String} {c : Call} :
    c ∈ scan rule ↔
      (∃ cs d rest, rule.toList = cs ++ d :: rest ∧ ((({} : Scanner).run cs).step d).2 = some c) ∨
      (({} : Scanner).run rule.toList).finish = some c := by
  rw [scan, Scanner.calls_eq_emitted, List.mem_append, Scanner.mem_emitted, Option.mem_toList]

theorem places_of_mem_scan {rule : String} {c : Call} (h : c ∈ scan rule) :
    ∃ before, Scanner.Places rule.toList before c := by
  rcases mem_scan.mp h with ⟨cs, d, rest, hrule, hcall⟩ | hfinish
  · rw [hrule]
    by_cases hs : 0 < (({} : Scanner).run cs).depth
    · obtain ⟨before, -, -, -, hplaces⟩ := Scanner.places_of_closed (d :: rest) hs hcall
      exact ⟨before, hplaces⟩
    · obtain ⟨rfl, hfinish⟩ := (Scanner.step_call_outside (by omega)).mp hcall
      exact Scanner.places_of_finish hfinish (.inr ⟨rest, rfl⟩)
  · have hplaces := Scanner.places_of_finish hfinish (.inl rfl)
    rwa [List.append_nil] at hplaces

/-- A call with a list is completed by the parenthesis that closes the list. -/
theorem exists_closed_of_mem_scan {rule : String} {c : Call} (h : c ∈ scan rule)
    (hlist : c.parenthesized = true) :
    ∃ cs rest, rule.toList = cs ++ ')' :: rest ∧ 0 < (({} : Scanner).run cs).depth ∧
      (({} : Scanner).run (cs ++ [')'])).depth = 0 ∧
      ((({} : Scanner).run cs).step ')').2 = some c := by
  have hfinish {cs : List Char} : (({} : Scanner).run cs).finish ≠ some c := fun hc => by
    have hbare := Scanner.finish_bare (Option.mem_toList.mpr hc)
    exact absurd (hlist.symm.trans hbare) (by decide)
  rcases mem_scan.mp h with ⟨cs, d, rest, hrule, hcall⟩ | hc
  · by_cases hs : 0 < (({} : Scanner).run cs).depth
    · obtain ⟨hclosed, -⟩ := (Scanner.step_call_inside hs).mp hcall
      obtain rfl := Scanner.eq_paren_of_closes hs hclosed
      exact ⟨cs, rest, hrule, hs, by rwa [Scanner.run_concat], hcall⟩
    · exact absurd ((Scanner.step_call_outside (by omega)).mp hcall).2 hfinish
  · exact absurd hc hfinish

/-- A verb that is no word is that of a list which its token has opened behind another one. -/
theorem exists_gluesList {rule : String} {c : Call} (h : c ∈ scan rule)
    (hword : ¬IsWord c.verb.toList) : ∃ r inner rest, GluesList rule r inner rest := by
  obtain ⟨_, hbare⟩ := places_of_mem_scan h
  have hlist : c.parenthesized = true := by
    by_contra hno
    exact hword (hbare.bare (Bool.eq_false_iff.mpr hno)).1
  obtain ⟨cs, rest, hrule, hs, hclosed, hcall⟩ := exists_closed_of_mem_scan h hlist
  obtain ⟨before, inner, rfl, hopen, hplaces⟩ := Scanner.places_of_closed rest hs hcall
  refine ⟨String.ofList (before ++ c.verb.toList), String.ofList inner, String.ofList rest,
    ?_, ?_, ?_, fun x y hxy => ?_, ?_⟩
  · rw [← String.toList_inj, hrule]
    simp
  · simpa [openLists] using hplaces.reads.outside
  · have hhas := mt hplaces.reads.isWord_iff.mpr hword
    simpa [hasList] using hhas
  · have hinner := congrArg String.toList hxy
    rw [String.toList_ofList, String.toList_append] at hinner
    simpa [openLists] using hopen x.toList ⟨y.toList, hinner.symm⟩
  · simpa [openLists] using hclosed

theorem GluesList.exists_call {rule r inner rest : String} (h : GluesList rule r inner rest) :
    ∃ c ∈ scan rule, ¬IsWord c.verb.toList := by
  have hinside : ∀ x, x <+: inner.toList →
      0 < (({} : Scanner).run (r.toList ++ '(' :: x)).depth := by
    rintro x ⟨y, hxy⟩
    have hinner : inner = String.ofList x ++ String.ofList y := by
      rw [← String.toList_inj]
      simp [hxy]
    simpa [openLists] using h.inside _ _ hinner
  obtain ⟨before, token, hr, hreads⟩ := Scanner.exists_reads_of_outside h.outside
  have hverb : (({} : Scanner).run (r.toList ++ '(' :: inner.toList)).verb = token := by
    rw [hr]
    exact hreads.verb fun x hx => hr ▸ hinside x hx
  have hclosed : ((({} : Scanner).run (r.toList ++ '(' :: inner.toList)).step ')').1.depth = 0 := by
    rw [← Scanner.run_concat]
    simpa [openLists] using h.closed
  obtain ⟨c, hc, hcverb⟩ := Scanner.exists_call_of_closes (hinside _ (List.prefix_refl _)) hclosed
  refine ⟨c, mem_scan.mpr (.inl ⟨_, ')', rest.toList, ?_, hc⟩), fun hword => ?_⟩
  · rw [h.text]
    simp
  · rw [hcverb, hverb, hreads.isWord_iff, ← hr] at hword
    exact absurd (h.has_list.symm.trans hword) (by decide)

/-- The verb of a call is the text of its token up to the list of the call, or up to the next space
for a bare one. All verbs of a rule are words exactly when no token of it closes two lists. -/
theorem verbs_are_words_iff (rule : String) :
    (∀ c ∈ scan rule, ∃ before, Scanner.Places rule.toList before c) ∧
    ((∀ c ∈ scan rule, IsWord c.verb.toList) ↔ ¬∃ r inner rest, GluesList rule r inner rest) := by
  refine ⟨fun c hc => places_of_mem_scan hc, fun hwords => ?_, fun hnone c hc => ?_⟩
  · rintro ⟨r, inner, rest, hglued⟩
    obtain ⟨c, hc, hword⟩ := hglued.exists_call
    exact hword (hwords c hc)
  · by_contra hword
    exact hnone (exists_gluesList hc hword)

/-- The verb of the second list takes in the first one, with its space and its parenthesis. -/
theorem verb_takes_in_list :
    ⟨"f(a b)g", ["c"], true⟩ ∈ scan "f(a b)g(c)" ∧ ¬IsWord "f(a b)g".toList := by decide

end FieldRules
