import FieldRules.Proofs.TopLevelSpace
import Mathlib.Data.List.Induction

namespace FieldRules

namespace Scanner

theorem step_none_of_open {s : Scanner} {c : Char} (h : 0 < (s.step c).1.depth) :
    (s.step c).2 = none := by
  by_cases hs : 0 < s.depth
  · rw [step_inside hs] at h ⊢
    unfold stepInside at h ⊢
    grind [extend]
  · rw [step_outside (by omega)] at h ⊢
    unfold stepOutside at h ⊢
    grind [extend]

/-- Nothing is put out while a list stays open. -/
theorem emitted_of_open {s : Scanner} {cs : List Char}
    (h : ∀ c x, c :: x <+: cs → 0 < (s.run (c :: x)).depth) : s.emitted cs = [] := by
  induction cs generalizing s with
  | nil => rfl
  | cons c cs ih =>
    have hc : 0 < (s.step c).1.depth := h c [] (by simp)
    rw [emitted, step_none_of_open hc]
    refine ih fun b x hx => ?_
    exact h c (b :: x) (List.cons_prefix_cons.mpr ⟨rfl, hx⟩)

/-- Every space of a token stands inside one of its lists. -/
def TokenFrom (s : Scanner) (token : List Char) : Prop :=
  ∀ x, x ++ [' '] <+: token → 0 < (s.run x).depth

theorem step_parenthesized {s : Scanner} {c : Char} {call : Call}
    (h : c = ' ' → 0 < s.depth) (hc : (s.step c).2 = some call) : call.parenthesized = true := by
  by_cases hs : 0 < s.depth
  · rw [step_inside hs] at hc
    unfold stepInside at hc
    grind
  · rw [step_outside (by omega)] at hc
    unfold stepOutside at hc
    grind

theorem emitted_parenthesized {s : Scanner} {token : List Char} (h : s.TokenFrom token) :
    ∀ call ∈ s.emitted token, call.parenthesized = true := by
  induction token generalizing s with
  | nil => simp [emitted]
  | cons c cs ih =>
    have hstep : c = ' ' → 0 < s.depth := fun hc => h [] (by simp [hc])
    have hrest : (s.step c).1.TokenFrom cs := fun x hx =>
      h (c :: x) (List.cons_prefix_cons.mpr ⟨rfl, hx⟩)
    intro call hcall
    rw [emitted, List.mem_append, Option.mem_toList] at hcall
    rcases hcall with hcall | hcall
    · exact step_parenthesized hstep hcall
    · exact ih hrest call hcall

theorem finish_bare {s : Scanner} {call : Call} (h : call ∈ s.finish.toList) :
    call.parenthesized = false := by
  rw [Option.mem_toList] at h
  unfold finish at h
  split at h
  · cases h
  · obtain ⟨word, -, rfl⟩ := Option.map_eq_some_iff.mp h
    rfl

/-- A token read on its own gives its lists, and else is a bare word. -/
theorem emitted_token {s : Scanner} {token : List Char} (h : s.TokenFrom token) :
    s.emitted token = (s.calls token).filter Call.parenthesized := by
  have hlists : (s.emitted token).filter Call.parenthesized = s.emitted token :=
    List.filter_eq_self.mpr (emitted_parenthesized h)
  have hbare : ((s.run token).finish.toList).filter Call.parenthesized = [] :=
    List.filter_eq_nil_iff.mpr fun call hcall => by simp [finish_bare hcall]
  rw [calls_eq_emitted, List.filter_append, hlists, hbare, List.append_nil]

/-- The text ends where a token may begin. -/
def Boundary (before : List Char) : Prop :=
  before = [] ∨ ∃ p, before = p ++ [' '] ∧ (({} : Scanner).run p).depth = 0

theorem TokenFrom.snoc {s : Scanner} {token : List Char} {c : Char} (h : s.TokenFrom token)
    (hc : c = ' ' → 0 < (s.run token).depth) : s.TokenFrom (token ++ [c]) := by
  intro x hx
  rcases List.prefix_concat_iff.mp hx with hall | hx
  · obtain ⟨rfl, hspace⟩ := List.append_inj' hall rfl
    exact hc (List.cons.inj hspace).1.symm
  · exact h x hx

/-- Whatever stands in a list that stays open belongs to the token that opened it. -/
theorem TokenFrom.open {s : Scanner} {token rest : List Char} (h : s.TokenFrom token)
    (hrest : ∀ x, x <+: rest → 0 < (s.run (token ++ '(' :: x)).depth) :
    s.TokenFrom (token ++ '(' :: rest) := by
  induction rest using List.reverseRecOn with
  | nil => exact h.snoc fun hc => absurd hc (by decide)
  | append_singleton rest c ih =>
    have hlist : s.TokenFrom (token ++ '(' :: rest) :=
      ih fun x hx => hrest x (hx.trans (List.prefix_append _ _))
    have htext : token ++ '(' :: (rest ++ [c]) = token ++ '(' :: rest ++ [c] := by simp
    rw [htext]
    exact hlist.snoc fun _ => hrest rest (List.prefix_append _ _)

/-- Only an opening parenthesis leads into a list. -/
theorem eq_paren_of_opens {s : Scanner} {c : Char} (h : s.depth = 0)
    (hc : 0 < (s.step c).1.depth) : c = '(' := by
  rw [step_outside h] at hc
  unfold stepOutside at hc
  grind [extend]

/-- What has been read is a text that ends at a boundary and one token; when a list is open, the
token opened it and has not closed it since. -/
theorem last_token (cs : List Char) :
    ∃ before token, Boundary before ∧ (({} : Scanner).run before).TokenFrom token ∧
      ((({} : Scanner).run (before ++ token)).depth = 0) ∧
      (cs = before ++ token ∨ ∃ rest, cs = before ++ token ++ '(' :: rest ∧
        ∀ x, x <+: rest → 0 < (({} : Scanner).run (before ++ token ++ '(' :: x)).depth) := by
  induction cs using List.reverseRecOn with
  | nil => exact ⟨[], [], .inl rfl, fun x hx => by simp at hx, rfl, .inl rfl⟩
  | append_singleton cs c ih =>
    obtain ⟨before, token, hbefore, htoken, hdepth, rfl | ⟨rest, rfl, hrest⟩⟩ := ih
    · -- The character comes outside lists: it parts tokens, opens a list or belongs to the token.
      by_cases hspace : c = ' '
      · subst hspace
        refine ⟨before ++ token ++ [' '], [], .inr ⟨before ++ token, rfl, hdepth⟩,
          fun x hx => by simp at hx, ?_, .inl (by simp)⟩
        rw [List.append_nil, run_concat, step_space hdepth]
        exact hdepth
      · by_cases hopen : 0 < (({} : Scanner).run (before ++ token ++ [c])).depth
        · have hc : c = '(' := eq_paren_of_opens hdepth (by rwa [run_concat] at hopen)
          subst hc
          refine ⟨before, token, hbefore, htoken, hdepth, .inr ⟨[], rfl, fun x hx => ?_⟩⟩
          rw [List.prefix_nil.mp hx]
          exact hopen
        · refine ⟨before, token ++ [c], hbefore, htoken.snoc (absurd · hspace), ?_,
            .inl (by simp)⟩
          rw [← List.append_assoc]
          omega
    · -- A list is open: the character closes it, and the token goes on, or stays in it.
      have hin : 0 < (({} : Scanner).run (before ++ token ++ '(' :: rest)).depth :=
        hrest rest (List.prefix_refl rest)
      have htext : before ++ (token ++ '(' :: rest ++ [c]) =
          before ++ token ++ '(' :: rest ++ [c] := by simp
      by_cases hopen : 0 < (({} : Scanner).run (before ++ token ++ '(' :: rest ++ [c])).depth
      · refine ⟨before, token, hbefore, htoken, hdepth, .inr ⟨rest ++ [c], by simp, ?_⟩⟩
        intro x hx
        rcases List.prefix_concat_iff.mp hx with rfl | hx
        · simpa using hopen
        · exact hrest x hx
      · refine ⟨before, token ++ '(' :: rest ++ [c], hbefore, ?_, by rw [htext]; omega,
          .inl htext.symm⟩
        refine (htoken.open fun x hx => ?_).snoc fun _ => ?_
        · rw [← run_append, ← List.append_assoc]
          exact hrest x hx
        · rw [← run_append, ← List.append_assoc]
          exact hin

theorem emitted_boundary {before : List Char} (h : Boundary before) :
    ({} : Scanner).emitted before = ({} : Scanner).calls before := by
  rw [calls_eq_emitted]
  rcases h with rfl | ⟨p, rfl, hp⟩
  · rfl
  · rw [run_concat, step_space hp]
    simp [finish]

theorem alike_boundary {before : List Char} (h : Boundary before) :
    Alike {} (({} : Scanner).run before) := by
  rcases h with rfl | ⟨p, rfl, hp⟩
  · exact .inl rfl
  · rw [run_concat]
    exact alike_step_space hp (settled_start.run p)

theorem calls_of_never_closed {before token rest : List Char} (hbefore : Boundary before)
    (htoken : (({} : Scanner).run before).TokenFrom token)
    (hrest : ∀ x, x <+: rest → 0 < (({} : Scanner).run (before ++ token ++ '(' :: x)).depth) :
    ({} : Scanner).calls (before ++ token ++ '(' :: rest) =
      ({} : Scanner).calls before ++ (({} : Scanner).calls token).filter Call.parenthesized := by
  have hfinish : (({} : Scanner).run (before ++ token ++ '(' :: rest)).finish = none :=
    finish_of_open (hrest rest (List.prefix_refl rest))
  have hlist : (({} : Scanner).run (before ++ token)).emitted ('(' :: rest) = [] := by
    refine emitted_of_open fun c x hx => ?_
    obtain ⟨rfl, hrest'⟩ := List.cons_prefix_cons.mp hx
    rw [← run_append]
    exact hrest x hrest'
  have htok : (({} : Scanner).run before).emitted token =
      (({} : Scanner).calls token).filter Call.parenthesized := by
    rw [emitted_token htoken, (alike_boundary hbefore).calls]
  rw [calls_eq_emitted, hfinish, emitted_append, emitted_append, emitted_boundary hbefore, hlist,
    htok]
  simp

end Scanner

/-- Behind `before`, where a token may begin, stands a token that opens a list behind `token`, and
`rest` never closes it. -/
structure LeavesOpen (before token rest : String) : Prop where
  boundary : before = "" ∨ ∃ p, before = p ++ " " ∧ openLists p = 0
  one_token : ∀ x y, token = x ++ " " ++ y → 0 < openLists (before ++ x)
  outside : openLists (before ++ token) = 0
  never_closed : ∀ x y, rest = x ++ y → 0 < openLists (before ++ token ++ "(" ++ x)

theorem exists_leavesOpen {r : String} (h : 0 < openLists r) :
    ∃ before token rest, r = before ++ token ++ "(" ++ rest ∧ LeavesOpen before token rest ∧
      scan r = scan before ++ (scan token).filter Call.parenthesized := by
  obtain ⟨before, token, hbefore, htoken, hdepth, hr | ⟨rest, hr, hrest⟩⟩ :=
    Scanner.last_token r.toList
  · rw [openLists, hr, hdepth] at h
    omega
  · have htext : r = String.ofList before ++ String.ofList token ++ "(" ++ String.ofList rest := by
      rw [← String.toList_inj, hr]
      simp [String.toList_append]
    have hlists : ∀ x y, rest = x ++ y →
        0 < (({} : Scanner).run (before ++ token ++ '(' :: x)).depth := fun x y hy =>
      hrest x (hy ▸ List.prefix_append x y)
    refine ⟨String.ofList before, String.ofList token, String.ofList rest, htext,
      ⟨?_, ?_, ?_, ?_⟩, ?_⟩
    · rcases hbefore with rfl | ⟨p, rfl, hp⟩
      · exact .inl rfl
      · refine .inr ⟨String.ofList p, String.ofList_append, ?_⟩
        rwa [openLists, String.toList_ofList]
    · intro x y hxy
      have htok : token = x.toList ++ ' ' :: y.toList := by
        simpa [String.toList_append] using congrArg String.toList hxy
      have hx := htoken x.toList ⟨y.toList, by simp [htok]⟩
      rwa [openLists, String.toList_append, String.toList_ofList, Scanner.run_append]
    · rwa [openLists, String.toList_append, String.toList_ofList, String.toList_ofList]
    · intro x y hxy
      have hrest' : rest = x.toList ++ y.toList := by
        simpa [String.toList_append] using congrArg String.toList hxy
      simpa [openLists, String.toList_append] using hlists _ _ hrest'
    · rw [scan, scan, scan, hr, String.toList_ofList, String.toList_ofList]
      exact Scanner.calls_of_never_closed hbefore htoken hrest

/-- Reading splits at the spaces outside argument lists. Text behind a space takes no call away, and
adds just its own when no list is open; spaces before, behind and between tokens do not matter; and
a list that is never closed costs its token, but for lists that the token has closed, and what
follows. -/
theorem scan_splits_at_spaces (r s : String) :
    scan r <+: scan (r ++ " " ++ s) ∧
    (openLists r = 0 → scan (r ++ " " ++ s) = scan r ++ scan s) ∧
    (∀ n, scan (spaces n ++ r) = scan r ∧ scan (r ++ spaces n) = scan r ∧
      (openLists r = 0 → scan (r ++ " " ++ spaces n ++ s) = scan (r ++ " " ++ s))) ∧
    (0 < openLists r →
      ∃ before token rest, r = before ++ token ++ "(" ++ rest ∧ LeavesOpen before token rest ∧
        scan r = scan before ++ (scan token).filter Call.parenthesized) := by
  refine ⟨scan_prefix_append r s, (scan_append_space · s), fun n => ?_, exists_leavesOpen⟩
  exact ⟨scan_spaces_append n r, scan_append_spaces r n, (scan_append_space_spaces · n s)⟩

/-- The list behind `c` is never closed; the one that its token has closed stays. -/
example : scan " f  in( a , b)c(d e" = [⟨"f", [], false⟩, ⟨"in", ["a", "b"], true⟩] := by decide

end FieldRules
