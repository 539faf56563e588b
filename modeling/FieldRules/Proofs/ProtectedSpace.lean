import FieldRules.Proofs.VerbText

namespace FieldRules

namespace Scanner

/-- Reads one character as `step` does, but keeps a space behind a backslash in its token. -/
def stepKeeping (s : Scanner) (c : Char) : Scanner × Option Call :=
  if s.depth = 0 ∧ c = ' ' ∧ s.prev = '\\' then (s.extend c, none) else s.step c

/-- The calls completed by the rest of the rule, protected spaces kept. -/
def callsKeeping (s : Scanner) : List Char → List Call
  | [] => s.finish.toList
  | c :: cs => (s.stepKeeping c).2.toList ++ (s.stepKeeping c).1.callsKeeping cs

theorem stepKeeping_protected {s : Scanner} (hs : s.depth = 0) (hprev : s.prev = '\\') :
    s.stepKeeping ' ' = (s.extend ' ', none) := if_pos ⟨hs, rfl, hprev⟩

theorem stepKeeping_unprotected {s : Scanner} {c : Char}
    (h : ¬(s.depth = 0 ∧ c = ' ' ∧ s.prev = '\\')) : s.stepKeeping c = s.step c := if_neg h

theorem stepKeeping_of_ne {s : Scanner} {c : Char} (h : c ≠ ' ' ∨ s.prev ≠ '\\') :
    s.stepKeeping c = s.step c :=
  stepKeeping_unprotected fun ⟨_, hspace, hprev⟩ => h.elim (· hspace) (· hprev)

theorem stepKeeping_inside {s : Scanner} (hs : 0 < s.depth) (c : Char) :
    s.stepKeeping c = s.step c := stepKeeping_unprotected fun hout => hs.ne' hout.1

/-- A token without a list is a bare word once it ends. -/
theorem finish_word {s : Scanner} (hs : s.depth = 0) (hno : s.hasArgs = false)
    (htoken : s.token ≠ none) : s.finish = some (Call.bare s.text) := by
  obtain ⟨word, hword⟩ := Option.ne_none_iff_exists'.mp htoken
  have htext : s.text = word := by rw [text, hword, Option.getD_some]
  exact finish_eq_some.mpr ⟨hs, hno, word, hword, by rw [htext]⟩

/-- A list stays open until it gives its call. -/
theorem open_of_step_none {s : Scanner} {c : Char} (hs : 0 < s.depth) (h : (s.step c).2 = none) :
    0 < (s.step c).1.depth := by
  by_contra hclosed
  have hcall := (step_call_inside hs).mpr ⟨Nat.eq_zero_of_not_pos hclosed, rfl⟩
  rw [h] at hcall
  cases hcall

/-- `s` has read a text and `t` the same text with protected spaces kept. From here on `t` reports
at most `owed` calls more than `s` does: a bare word that `s` has ended at a protected space stands
in a token that `t` has still to end. -/
structure Trails (owed : Nat) (s t : Scanner) : Prop where
  depth : t.depth = s.depth
  prev : t.prev = s.prev
  settled : owed = 0 →
    t.hasArgs = true ∨ t.hasArgs = s.hasArgs ∧ t.token.isSome = s.token.isSome

section Trails

variable {owed : Nat} {s t : Scanner}

theorem Trails.finish_le (h : Trails owed s t) :
    t.finish.toList.length ≤ s.finish.toList.length + owed := by
  have hdepth := h.depth
  have hsettled := h.settled
  unfold finish
  cases ht : t.token <;> cases hs : s.token <;> grind [Option.toList]

theorem Trails.step_inside (h : Trails owed s t) (hs : 0 < s.depth) (c : Char) :
    Trails owed (s.step c).1 (t.step c).1 ∧ (t.step c).2.isSome = (s.step c).2.isSome := by
  have ht : 0 < t.depth := h.depth ▸ hs
  have hdepth := h.depth
  have hprev := h.prev
  have hsettled := h.settled
  rw [Scanner.step_inside hs, Scanner.step_inside ht]
  unfold stepInside
  refine ⟨⟨?_, ?_, ?_⟩, ?_⟩ <;> grind [extend]

/-- Behind a space outside lists `t` owes nothing when its token has had a list, or when the space
ends the token of both. -/
theorem Trails.space_of_hasArgs (h : Trails owed s t) (hs : s.depth = 0)
    (hlist : t.hasArgs = true) :
    Trails 0 (s.step ' ').1 (t.stepKeeping ' ').1 ∧ (t.stepKeeping ' ').2 = none := by
  have ht : t.depth = 0 := h.depth.trans hs
  have hfinish : t.finish = none := if_pos (.inl hlist)
  rw [step_space hs]
  by_cases hprev : t.prev = '\\'
  · rw [stepKeeping_protected ht hprev]
    exact ⟨⟨h.depth, rfl, fun _ => .inl hlist⟩, rfl⟩
  · rw [stepKeeping_of_ne (.inr hprev), step_space ht]
    exact ⟨⟨h.depth, rfl, fun _ => .inr ⟨rfl, rfl⟩⟩, hfinish⟩

/-- One character changes what is owed by no more than the calls it completes. -/
theorem Trails.step (h : Trails owed s t) (hregular : s.Regular) (c : Char) :
    ∃ rest, Trails rest (s.step c).1 (t.stepKeeping c).1 ∧
      (t.stepKeeping c).2.toList.length + rest ≤ (s.step c).2.toList.length + owed := by
  cases s.stepCase c with
  | inside hs =>
    obtain ⟨htrails, hcall⟩ := h.step_inside hs c
    rw [stepKeeping_inside (h.depth ▸ hs)]
    refine ⟨owed, htrails, ?_⟩
    rw [Option.length_toList, Option.length_toList, hcall]
  | space hs =>
    have ht : t.depth = 0 := h.depth.trans hs
    by_cases hlist : t.hasArgs = true
    · obtain ⟨htrails, hnone⟩ := h.space_of_hasArgs hs hlist
      exact ⟨0, htrails, by simp [hnone]⟩
    · by_cases hprev : t.prev = '\\'
      · -- Here `s` ends a bare word that stays in the token of `t`.
        rw [stepKeeping_protected ht hprev, step_space hs]
        refine ⟨1, ⟨h.depth, rfl, fun hone => absurd hone Nat.one_ne_zero⟩, ?_⟩
        have hword := hregular.in_token (h.prev ▸ hprev)
        have hsettled := h.settled
        unfold finish
        grind [Option.toList]
      · rw [stepKeeping_of_ne (.inr hprev), step_space ht, step_space hs]
        exact ⟨0, ⟨h.depth, rfl, fun _ => .inr ⟨rfl, rfl⟩⟩, h.finish_le⟩
  | extend hs hspace hparen =>
    have ht : t.depth = 0 := h.depth.trans hs
    rw [stepKeeping_of_ne (.inl hspace), step_extend hs hspace hparen,
      step_extend ht hspace (h.prev ▸ hparen)]
    refine ⟨owed, ⟨h.depth, rfl, fun hnone => ?_⟩, Nat.le_refl _⟩
    exact (h.settled hnone).imp_right fun hsame => ⟨hsame.1, rfl⟩
  | opens hs hprev =>
    have ht : t.depth = 0 := h.depth.trans hs
    rw [stepKeeping_of_ne (.inl (by decide)), step_open hs hprev, step_open ht (h.prev ▸ hprev)]
    exact ⟨0, ⟨rfl, rfl, fun _ => .inl rfl⟩, Nat.zero_le _⟩

theorem Trails.length_le (h : Trails owed s t) (hregular : s.Regular) (cs : List Char) :
    (t.callsKeeping cs).length ≤ (s.calls cs).length + owed := by
  induction cs generalizing owed s t with
  | nil => exact h.finish_le
  | cons c cs ih =>
    obtain ⟨rest, htrails, hcall⟩ := h.step hregular c
    have htail := ih htrails (hregular.step c)
    rw [callsKeeping, calls, List.length_append, List.length_append]
    omega

end Trails

/-- The next call, if there is one, has a verb that begins with `front`. -/
structure Begins (t : Scanner) (front : List Char) : Prop where
  outside : t.depth = 0 → t.hasArgs = false ∧ front <+: t.text
  inside : 0 < t.depth → front <+: t.verb

section Begins

variable {t : Scanner} {front : List Char}

theorem Begins.finish (h : t.Begins front) {call : Call} (hcall : t.finish = some call) :
    front <+: call.verb.toList := by
  obtain ⟨hdepth, -, word, hword, rfl⟩ := finish_eq_some.mp hcall
  have hfront := (h.outside hdepth).2
  rw [text, hword] at hfront
  rwa [Call.bare, String.toList_ofList]

theorem Begins.extend (h : t.Begins front) (ht : t.depth = 0) (c : Char) :
    (t.extend c).Begins front := by
  obtain ⟨hno, hfront⟩ := h.outside ht
  refine ⟨fun _ => ⟨hno, ?_⟩, fun hopen => absurd ht hopen.ne'⟩
  exact hfront.trans (List.prefix_append _ _)

theorem Begins.step (h : t.Begins front) (c : Char) :
    (t.stepKeeping c).2 = none ∧ (t.stepKeeping c).1.Begins front ∨
      ∃ call, (t.stepKeeping c).2 = some call ∧ front <+: call.verb.toList := by
  cases t.stepCase c with
  | inside ht =>
    rw [stepKeeping_inside ht]
    cases hcall : (t.step c).2 with
    | none =>
      have hopen := open_of_step_none ht hcall
      refine .inl ⟨rfl, fun hout => absurd hout hopen.ne', fun _ => ?_⟩
      rw [step_verb ht]
      exact h.inside ht
    | some call =>
      obtain ⟨-, rfl⟩ := (step_call_inside ht).mp hcall
      refine .inr ⟨_, rfl, ?_⟩
      rw [String.toList_ofList]
      exact h.inside ht
  | space ht =>
    by_cases hprev : t.prev = '\\'
    · rw [stepKeeping_protected ht hprev]
      exact .inl ⟨rfl, h.extend ht ' '⟩
    · rw [stepKeeping_of_ne (.inr hprev), step_space ht]
      cases hcall : t.finish with
      | some call => exact .inr ⟨call, rfl, h.finish hcall⟩
      | none =>
        obtain ⟨hno, hfront⟩ := h.outside ht
        have htext : t.text = [] := by
          have htoken : t.token = none := by
            by_contra hword
            rw [finish_word ht hno hword] at hcall
            cases hcall
          rw [text, htoken, Option.getD_none]
        refine .inl ⟨rfl, fun _ => ⟨rfl, ?_⟩, fun hopen => absurd ht hopen.ne'⟩
        rw [htext] at hfront
        exact hfront.trans List.nil_prefix
  | extend ht hspace hparen =>
    rw [stepKeeping_of_ne (.inl hspace), step_extend ht hspace hparen]
    exact .inl ⟨rfl, h.extend ht c⟩
  | opens ht hprev =>
    rw [stepKeeping_of_ne (.inl (by decide)), step_open ht hprev]
    exact .inl ⟨rfl, fun hout => absurd hout Nat.one_ne_zero, fun _ => (h.outside ht).2⟩

theorem Begins.calls (h : t.Begins front) (cs : List Char) :
    ∀ call ∈ (t.callsKeeping cs).head?, front <+: call.verb.toList := by
  induction cs generalizing t with
  | nil =>
    intro call hcall
    rw [callsKeeping, Option.head?_toList] at hcall
    exact h.finish hcall
  | cons c cs ih =>
    rcases h.step c with ⟨hnone, hnext⟩ | ⟨call, hcall, hfront⟩
    · rw [callsKeeping, hnone]
      exact ih hnext
    · intro b hb
      rw [callsKeeping, hcall] at hb
      cases hb
      exact hfront

end Begins

/-- The scanners stand in one token, of which `t` has read more and has had a list; whatever list
comes next, its verb is longer for `t`. -/
structure Longer (s t : Scanner) : Prop where
  depth : t.depth = s.depth
  prev : t.prev = s.prev
  outside : s.depth = 0 → t.hasArgs = true ∧ s.hasArgs = false ∧ s.text.length < t.text.length
  inside : 0 < s.depth → s.verb.length < t.verb.length

section Longer

variable {s t : Scanner}

theorem Longer.trails (h : Longer s t) (hs : s.depth = 0) : Trails 0 s t :=
  ⟨h.depth, h.prev, fun _ => .inl (h.outside hs).1⟩

theorem Longer.step_inside (h : Longer s t) (hs : 0 < s.depth) (c : Char) :
    (s.step c).2 = none ∧ (t.step c).2 = none ∧ Longer (s.step c).1 (t.step c).1 ∧
        0 < (s.step c).1.depth ∨
      ∃ a b : Call, (s.step c).2 = some a ∧ (t.step c).2 = some b ∧ a ≠ b := by
  have ht : 0 < t.depth := h.depth ▸ hs
  have htrails : Trails 1 s t := ⟨h.depth, h.prev, fun hone => absurd hone Nat.one_ne_zero⟩
  obtain ⟨hnext, hsame⟩ := htrails.step_inside hs c
  cases hcall : (s.step c).2 with
  | none =>
    rw [hcall, Option.isSome_none, Option.isSome_eq_false_iff, Option.isNone_iff_eq_none] at hsame
    have hopen := open_of_step_none hs hcall
    refine .inl ⟨rfl, hsame, ⟨hnext.depth, hnext.prev, fun hout => absurd hout hopen.ne',
      fun _ => ?_⟩, hopen⟩
    rw [step_verb hs, step_verb ht]
    exact h.inside hs
  | some a =>
    rw [hcall, Option.isSome_some, Option.isSome_iff_exists] at hsame
    obtain ⟨b, hb⟩ := hsame
    refine .inr ⟨a, b, rfl, hb, fun heq => ?_⟩
    obtain ⟨-, ha⟩ := (step_call_inside hs).mp hcall
    obtain ⟨-, hb⟩ := (step_call_inside ht).mp hb
    have hverb : s.verb = t.verb := by
      have hverbs := congrArg Call.verb (ha.symm.trans (heq.trans hb))
      exact String.ofList_inj.mp hverbs
    have hlonger := h.inside hs
    rw [hverb] at hlonger
    exact absurd hlonger (Nat.lt_irrefl _)

theorem Longer.step_extend (h : Longer s t) (hs : s.depth = 0) {c : Char} (hspace : c ≠ ' ')
    (hparen : c = '(' → s.prev = '\\') :
    Longer (s.step c).1 (t.step c).1 ∧ (s.step c).2 = none ∧ (t.step c).2 = none := by
  have ht : t.depth = 0 := h.depth.trans hs
  obtain ⟨hlist, hno, hlength⟩ := h.outside hs
  rw [Scanner.step_extend hs hspace hparen, Scanner.step_extend ht hspace (h.prev ▸ hparen)]
  refine ⟨⟨h.depth, rfl, fun _ => ⟨hlist, hno, ?_⟩, fun hopen => absurd hs hopen.ne'⟩, rfl, rfl⟩
  simpa [extend, text] using hlength

theorem Longer.step_open (h : Longer s t) (hs : s.depth = 0) (hprev : s.prev ≠ '\\') :
    Longer (s.step '(').1 (t.step '(').1 ∧ (s.step '(').2 = none ∧ (t.step '(').2 = none := by
  have ht : t.depth = 0 := h.depth.trans hs
  obtain ⟨-, -, hlength⟩ := h.outside hs
  rw [Scanner.step_open hs hprev, Scanner.step_open ht (h.prev ▸ hprev)]
  exact ⟨⟨rfl, rfl, fun hout => absurd hout Nat.one_ne_zero, fun _ => hlength⟩, rfl, rfl⟩

/-- From different verbs on, the calls agree only if there are none. -/
theorem Longer.calls_eq_nil (h : Longer s t) (hregular : s.Regular) {cs : List Char}
    (hspace : s.depth = 0 → s.token = none → cs.head? ≠ some ' ')
    (heq : t.callsKeeping cs = s.calls cs) : s.calls cs = [] := by
  induction cs generalizing s t with
  | nil =>
    have hfinish : t.finish = none := by
      by_cases hs : 0 < s.depth
      · exact finish_of_open (h.depth ▸ hs)
      · exact if_pos (.inl (h.outside (by omega)).1)
    rw [callsKeeping, hfinish] at heq
    exact heq.symm
  | cons c cs ih =>
    have hnext := hregular.step c
    rw [callsKeeping, calls] at heq
    rw [calls]
    cases s.stepCase c with
    | inside hs =>
      rw [stepKeeping_inside (h.depth ▸ hs)] at heq
      rcases h.step_inside hs c with ⟨hnone, hnone', hlonger, hopen⟩ | ⟨a, b, ha, hb, hab⟩
      · rw [hnone, hnone'] at heq
        rw [hnone]
        exact ih hlonger hnext (fun hout => absurd hout hopen.ne') heq
      · rw [ha, hb] at heq
        exact absurd (List.cons.inj heq).1.symm hab
    | space hs =>
      -- `s` ends a bare word and `t` ends nothing; from then on `t` does not catch up.
      obtain ⟨hlist, hno, -⟩ := h.outside hs
      obtain ⟨htrails, hnone⟩ := (h.trails hs).space_of_hasArgs hs hlist
      have hle := htrails.length_le hnext cs
      have htoken : s.token ≠ none := fun hnil => hspace hs hnil rfl
      have hfinish := finish_word hs hno htoken
      have hlengths := congrArg List.length heq
      rw [hnone, (step_call_outside hs).mpr ⟨rfl, hfinish⟩] at hlengths
      simp only [Option.toList_none, Option.toList_some, List.nil_append, List.length_append,
        List.length_singleton] at hlengths
      omega
    | extend hs hc hparen =>
      obtain ⟨hlonger, hnone, hnone'⟩ := h.step_extend hs hc hparen
      rw [stepKeeping_of_ne (.inl hc), hnone, hnone'] at heq
      rw [hnone]
      refine ih hlonger hnext (fun _ hnil => ?_) heq
      rw [Scanner.step_extend hs hc hparen] at hnil
      cases hnil
    | opens hs hprev =>
      obtain ⟨hlonger, hnone, hnone'⟩ := h.step_open hs hprev
      rw [stepKeeping_of_ne (.inl (by decide)), hnone, hnone'] at heq
      rw [hnone]
      refine ih hlonger hnext (fun hout => ?_) heq
      rw [Scanner.step_open hs hprev] at hout
      exact absurd hout Nat.one_ne_zero

end Longer

/-- Every protected space to come stands behind a list of its token, and next to another space or
before a rest without calls. -/
def Harmless (s : Scanner) (cs : List Char) : Prop :=
  ∀ x y, cs = x ++ ' ' :: y → (s.run x).prev = '\\' → (s.run x).depth = 0 →
    (s.run x).hasArgs = true ∧ (y.head? = some ' ' ∨ ({} : Scanner).calls y = [])

section Harmless

variable {s : Scanner} {cs : List Char}

theorem harmless_cons {c : Char} :
    s.Harmless (c :: cs) ↔
      (c = ' ' → s.prev = '\\' → s.depth = 0 →
        s.hasArgs = true ∧ (cs.head? = some ' ' ∨ ({} : Scanner).calls cs = [])) ∧
      (s.step c).1.Harmless cs := by
  constructor
  · intro h
    constructor
    · rintro rfl
      exact h [] cs rfl
    · rintro x y rfl
      exact h (c :: x) y rfl
  · rintro ⟨hhere, hlater⟩ x y hcs
    cases x with
    | nil =>
      obtain ⟨rfl, rfl⟩ := List.cons.inj hcs
      exact hhere rfl
    | cons b x =>
      obtain ⟨rfl, rfl⟩ := List.cons.inj hcs
      exact hlater x y rfl

/-- Where no call comes, no space has ended a bare word. -/
theorem harmless_of_calls_eq_nil (hregular : s.Regular) (hsettled : s.Settled)
    (h : s.calls cs = []) : s.Harmless cs := by
  rintro x y rfl hprev hdepth
  rw [calls_append, calls_space hdepth (hsettled.run x), List.append_eq_nil_iff,
    List.append_eq_nil_iff] at h
  obtain ⟨-, hfinish, hrest⟩ := h
  refine ⟨?_, .inr hrest⟩
  have htoken := Option.isSome_iff_ne_none.mp ((hregular.run x).in_token hprev)
  by_contra hno
  rw [finish_word hdepth (Bool.eq_false_iff.mpr hno) htoken] at hfinish
  cases hfinish

/-- A bare word in front of a protected space is called without the space, or with it. -/
theorem callsKeeping_ne_of_bare (hregular : s.Regular) (hs : s.depth = 0) (hprev : s.prev = '\\')
    (hno : s.hasArgs = false) : s.callsKeeping (' ' :: cs) ≠ s.calls (' ' :: cs) := by
  intro heq
  have htoken := Option.isSome_iff_ne_none.mp (hregular.in_token hprev)
  have hcall := finish_word hs hno htoken
  have hbegins : (s.extend ' ').Begins (s.text ++ [' ']) :=
    ⟨fun _ => ⟨hno, List.prefix_refl _⟩, fun hopen => absurd hs hopen.ne'⟩
  rw [callsKeeping, stepKeeping_protected hs hprev, calls, step_space hs, hcall] at heq
  have hfirst : ((s.extend ' ').callsKeeping cs).head? = some (Call.bare s.text) :=
    congrArg List.head? heq
  have hfront := hbegins.calls cs (Call.bare s.text) hfirst
  rw [Call.bare, String.toList_ofList] at hfront
  have hlength := hfront.length_le
  rw [List.length_append, List.length_singleton] at hlength
  omega

/-- Behind a list a second space ends the token that has kept the first one. -/
theorem callsKeeping_space_space (hs : s.depth = 0) (hlist : s.hasArgs = true) :
    (s.extend ' ').callsKeeping (' ' :: cs) = (s.step ' ').1.callsKeeping (' ' :: cs) := by
  have hkept : (s.extend ' ').stepKeeping ' ' =
      ({ s with prev := ' ', token := none, hasArgs := false }, none) := by
    have hout : (s.extend ' ').depth = 0 := hs
    have hfinish : (s.extend ' ').finish = none := if_pos (.inl hlist)
    rw [stepKeeping_of_ne (.inr (by simp [extend])), step_space hout, hfinish]
    rfl
  have hended : (s.step ' ').1.stepKeeping ' ' =
      ({ s with prev := ' ', token := none, hasArgs := false }, none) := by
    have hout : (s.step ' ').1.depth = 0 := by rwa [step_space hs]
    rw [stepKeeping_of_ne (.inr (by simp [prev_step])), step_space hout, step_space hs]
    simp [finish]
  rw [callsKeeping, hkept, callsKeeping, hended]

/-- A token that has had a list keeps a protected space. Unless a second space follows, this makes
no difference only where no call is left. -/
theorem callsKeeping_extend_eq_iff (hregular : s.Regular) (hsettled : s.Settled) (hs : s.depth = 0)
    (hlist : s.hasArgs = true) (hspace : cs.head? ≠ some ' ') :
    (s.extend ' ').callsKeeping cs = (s.step ' ').1.calls cs ↔ ({} : Scanner).calls cs = [] := by
  have hnew : (s.step ' ').1.calls cs = ({} : Scanner).calls cs :=
    (alike_step_space hs hsettled).calls cs
  have hlonger : Longer (s.step ' ').1 (s.extend ' ') := by
    rw [step_space hs]
    refine ⟨rfl, rfl, fun _ => ⟨hlist, rfl, ?_⟩, fun hopen => absurd hs hopen.ne'⟩
    simp [extend, text]
  constructor
  · intro heq
    rw [← hnew]
    exact hlonger.calls_eq_nil (hregular.step ' ') (fun _ _ => hspace) heq
  · intro hnil
    have hout : (s.step ' ').1.depth = 0 := by rwa [step_space hs]
    have hlength := (hlonger.trails hout).length_le (hregular.step ' ') cs
    rw [hnew, hnil] at hlength ⊢
    exact List.eq_nil_of_length_eq_zero (Nat.le_zero.mp hlength)

/-- The two readings agree on a rule exactly when its protected spaces are harmless. -/
theorem callsKeeping_eq_iff (hregular : s.Regular) (hsettled : s.Settled) :
    s.callsKeeping cs = s.calls cs ↔ s.Harmless cs := by
  induction cs generalizing s with
  | nil => exact ⟨fun _ x y hcs => by simp at hcs, fun _ => rfl⟩
  | cons c cs ih =>
    have hnext := hregular.step c
    have hih := ih hnext (hsettled.step c)
    by_cases hprotected : s.depth = 0 ∧ c = ' ' ∧ s.prev = '\\'
    · obtain ⟨hs, rfl, hprev⟩ := hprotected
      cases hlist : s.hasArgs with
      | false =>
        refine ⟨fun heq => absurd heq (callsKeeping_ne_of_bare hregular hs hprev hlist), ?_⟩
        intro hharmless
        have hhas := (hharmless [] cs rfl hprev hs).1
        exact absurd (hlist.symm.trans hhas) (by decide)
      | true =>
        have hfinish : s.finish = none := if_pos (.inl hlist)
        have hcall : (s.step ' ').2 = none := by rw [step_space hs, hfinish]
        rw [harmless_cons, callsKeeping, stepKeeping_protected hs hprev, calls, hcall,
          Option.toList_none, List.nil_append, List.nil_append]
        by_cases hspace : cs.head? = some ' '
        · obtain ⟨more, rfl⟩ := List.head?_eq_some_iff.mp hspace
          rw [callsKeeping_space_space hs hlist, hih]
          exact ⟨fun hlater => ⟨fun _ _ _ => ⟨hlist, .inl hspace⟩, hlater⟩, And.right⟩
        · rw [callsKeeping_extend_eq_iff hregular hsettled hs hlist hspace]
          constructor
          · intro hnil
            refine ⟨fun _ _ _ => ⟨hlist, .inr hnil⟩, ?_⟩
            have hnone : (s.step ' ').1.calls cs = [] := by
              rw [(alike_step_space hs hsettled).calls, hnil]
            exact harmless_of_calls_eq_nil hnext (hsettled.step ' ') hnone
          · rintro ⟨hhere, -⟩
            exact (hhere rfl hprev hs).2.resolve_left hspace
    · rw [callsKeeping, calls, stepKeeping_unprotected hprotected, List.append_cancel_left_eq, hih,
        harmless_cons]
      refine ⟨fun hlater => ⟨fun hc hprev hs => ?_, hlater⟩, And.right⟩
      exact absurd ⟨hs, hc, hprev⟩ hprotected

end Harmless

end Scanner

/-- The calls of a rule in which protected spaces belong to their tokens. -/
def scanKeeping (rule : String) : List Call := ({} : Scanner).callsKeeping rule.toList

/-- Between `r` and `s` the rule has a backslash and a space that stands in no list. -/
structure ProtectsSpace (rule r s : String) : Prop where
  text : rule = r ++ "\\" ++ " " ++ s
  outside : openLists (r ++ "\\") = 0

theorem exists_concat_of_prev {cs : List Char} (h : (({} : Scanner).run cs).prev = '\\') :
    ∃ front, cs = front ++ ['\\'] := by
  rw [Scanner.prev_run] at h
  cases hlast : cs.getLast? with
  | none =>
    rw [hlast] at h
    exact absurd h (by decide)
  | some c =>
    obtain ⟨front, rfl⟩ := List.getLast?_eq_some_iff.mp hlast
    rw [hlast, Option.getD_some] at h
    exact ⟨front, by rw [h]⟩

theorem exists_protectsSpace {rule : String} {x y : List Char} (h : rule.toList = x ++ ' ' :: y)
    (hprev : (({} : Scanner).run x).prev = '\\') (hdepth : (({} : Scanner).run x).depth = 0) :
    ∃ r, x = (r ++ "\\").toList ∧ ProtectsSpace rule r (String.ofList y) := by
  obtain ⟨front, rfl⟩ := exists_concat_of_prev hprev
  have htext : front ++ ['\\'] = (String.ofList front ++ "\\").toList := by
    simp [String.toList_append]
  refine ⟨String.ofList front, htext, ?_, ?_⟩
  · rw [← String.toList_inj, h]
    simp [String.toList_append]
  · rwa [openLists, ← htext]

theorem harmless_iff_protectsSpace (rule : String) :
    ({} : Scanner).Harmless rule.toList ↔ ∀ r s, ProtectsSpace rule r s →
      hasList (r ++ "\\") = true ∧ ((∃ more, s = " " ++ more) ∨ scan s = []) := by
  have hhead (s : String) : s.toList.head? = some ' ' ↔ ∃ more, s = " " ++ more := by
    rw [List.head?_eq_some_iff]
    constructor
    · rintro ⟨more, hmore⟩
      refine ⟨String.ofList more, ?_⟩
      rw [← String.toList_inj, hmore]
      simp
    · rintro ⟨more, rfl⟩
      exact ⟨more.toList, by simp⟩
  constructor
  · intro h r s hspace
    have hrule : rule.toList = (r ++ "\\").toList ++ ' ' :: s.toList := by
      rw [hspace.text]
      simp
    have hprev : (({} : Scanner).run (r ++ "\\").toList).prev = '\\' := by
      rw [Scanner.prev_run]
      simp
    rw [← hhead]
    exact h _ _ hrule hprev hspace.outside
  · intro h x y hrule hprev hdepth
    obtain ⟨r, rfl, hspace⟩ := exists_protectsSpace hrule hprev hdepth
    have hharmless := h r _ hspace
    rwa [← hhead, scan, String.toList_ofList] at hharmless

/-- Outside lists a space ends its token also behind a backslash, as the end of the rule would. So
it is kept in no token; that can be told from the calls unless each such space stands behind a list
of its token, and next to another space or before a rest without calls. -/
theorem protected_spaces_end_tokens (rule : String) :
    (∀ r s, ProtectsSpace rule r s → scan rule = scan (r ++ "\\") ++ scan s) ∧
    (scan rule = scanKeeping rule ↔ ∀ r s, ProtectsSpace rule r s →
      hasList (r ++ "\\") = true ∧ ((∃ more, s = " " ++ more) ∨ scan s = [])) := by
  constructor
  · intro r s hspace
    rw [hspace.text, scan_append_space hspace.outside]
  · have hiff : ({} : Scanner).callsKeeping rule.toList = ({} : Scanner).calls rule.toList ↔
        ({} : Scanner).Harmless rule.toList :=
      Scanner.callsKeeping_eq_iff Scanner.regular_start Scanner.settled_start
    rw [← harmless_iff_protectsSpace, ← hiff, scan, scanKeeping, eq_comm]

/-- A word with a protected space falls into two. -/
theorem protected_space_parts_word :
    scan "a\\ b" = [⟨"a\\", [], false⟩, ⟨"b", [], false⟩] ∧
      scanKeeping "a\\ b" = [⟨"a\\ b", [], false⟩] := by decide

end FieldRules
