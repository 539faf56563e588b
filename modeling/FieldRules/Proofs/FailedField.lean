import FieldRules.Proofs.FirstFailure
import FieldRules.Proofs.ScanAppend

namespace FieldRules

theorem Value.coerce_any (now : Instant) (v : Value) : v.coerce .any now = ⟨true, v, none⟩ := rfl

theorem Field.coerce_any (now : Instant) {f : Field} (h : f.type = .any) :
    (f.coerce now).2 = none := by
  unfold coerce
  rw [h]
  split <;> simp [Value.coerce_any]

/-- A name alone accepts whatever the document has. -/
theorem Field.declare_none_failure (now : Instant) {f : Field} (h : f.type = .any)
    (hf : f.failure = none) : (f.declare now none).failure = none := by
  have hkeep := coerce_failure now f
  have hok := coerce_any now h
  unfold declare declare.coerced
  cases hc : f.coerce now with
  | mk g failed =>
    rw [hc] at hkeep hok
    cases hok
    exact hkeep.trans hf

namespace Registry

variable {now : Instant} {d : Document}

theorem outcome_eq_some {r : Registry} {rule : String} {o : Outcome}
    (h : r.outcome now d rule = some o) :
    ∃ head rest, scan rule = head :: rest ∧
      (r.runCalls now d ((Field.ofDocument head.verb d).declare now (declaredType head rest).1)
        (declaredType head rest).2).outcome = o := by
  cases hscan : scan rule with
  | nil => simp [outcome, runRule, start?, hscan] at h
  | cons head rest =>
    rw [outcome_of_start? r (start?_of_scan now d hscan)] at h
    exact ⟨head, rest, rfl, Option.some.inj h⟩

/-- A name alone never fails. -/
theorem not_name_alone_of_failed {r : Registry} {head : Call} {rest : List Call} {e : Failure}
    (h : (r.runCalls now d ((Field.ofDocument head.verb d).declare now (declaredType head rest).1)
      (declaredType head rest).2).outcome = .error e) :
    head.parenthesized ∨ rest ≠ [] := by
  by_contra hnot
  simp only [not_or, Bool.not_eq_true, not_not] at hnot
  obtain ⟨hp, rfl⟩ := hnot
  rw [declaredType_bare_nil hp] at h
  have hpass : ((Field.ofDocument head.verb d).declare now none).failure = none :=
    Field.declare_none_failure now rfl rfl
  rw [Field.outcome_eq_error] at h
  cases hpass.symm.trans h.2

theorem start?_append (now : Instant) (d : Document) {rule : String} (s : String) {head : Call}
    {rest : List Call} (hscan : scan rule = head :: rest) (h : head.parenthesized ∨ rest ≠ []) :
    ∃ more, start? now d (rule ++ " " ++ s) =
      some ((Field.ofDocument head.verb d).declare now (declaredType head rest).1,
        (declaredType head rest).2 ++ more) := by
  obtain ⟨more, hmore⟩ := scan_prefix_append rule s
  rw [hscan, List.cons_append] at hmore
  refine ⟨more, ?_⟩
  rw [start?_of_scan now d hmore.symm, declaredType_append more (h.imp_right .inl)]

/-- A failed rule fails with more text behind it too; when its coercion succeeded it fails with the
same failure. -/
theorem failed_stays_failed (now : Instant) (d : Document) (rule s : String) {e : Failure}
    (h : standard.outcome now d rule = some (.error e)) :
    (∃ e', standard.outcome now d (rule ++ " " ++ s) = some (.error e')) ∧
    (Coerces now d rule →
      standard.outcome now d (rule ++ " " ++ s) = some (.error e)) := by
  obtain ⟨head, rest, hscan, hrun⟩ := outcome_eq_some h
  obtain ⟨more, hstart⟩ := start?_append now d s hscan (not_name_alone_of_failed hrun)
  rw [outcome_of_start? standard hstart]
  have hends := start?_endless hstart
  cases hf : ((Field.ofDocument head.verb d).declare now (declaredType head rest).1).failure with
  | none =>
    rcases trail_of_passing standard_keeps_failure standard_keeps_type
      (declaredType head rest).2 hf hends with ⟨g, -, hgf, hge, ht⟩ | ⟨e', g, -, -, -, ht⟩
    · rw [runCalls_eq_trail, ht, Step.field, Field.outcome_of_passed hge hgf] at hrun
      cases hrun
    · rw [runCalls_eq_trail, ht, Step.field] at hrun
      rw [runCalls_append_of_stop _ _ _ _ ht, hrun]
      exact ⟨⟨e, rfl⟩, fun _ => rfl⟩
  | some e₀ =>
    constructor
    · obtain ⟨e', he'⟩ := (runCalls_of_failed (d := d) standard_keeps_failure
        standard_sharedEnd ((declaredType head rest).2 ++ more) hf hends).failed
      exact ⟨e', congrArg some he'⟩
    · intro hco
      obtain ⟨f, calls, hstart', hpass⟩ := hco.start?
      rw [start?_of_scan now d hscan] at hstart'
      cases hstart'
      rw [hf] at hpass
      cases hpass

/-- The text behind allows null and opens a list that it never closes. -/
theorem failed_before_open_list :
    standard.outcome ⟨0, 0⟩ [("a", .text "")] "a string filled" =
      some (.error (Failure.ofField "string.filled" "a")) ∧
    Coerces ⟨0, 0⟩ [("a", .text "")] "a string filled" ∧
    standard.outcome ⟨0, 0⟩ [("a", .text "")] ("a string filled" ++ " " ++ "nullable in(x") =
      some (.error (Failure.ofField "string.filled" "a")) := by
  have hfails : standard.outcome ⟨0, 0⟩ [("a", .text "")] "a string filled" =
      some (.error (Failure.ofField "string.filled" "a")) := rfl
  have hscan : scan "a string filled" =
      [⟨"a", [], false⟩, ⟨"string", [], false⟩, ⟨"filled", [], false⟩] := by decide
  have hco : Coerces ⟨0, 0⟩ [("a", .text "")] "a string filled" :=
    ⟨_, _, .string, hscan, by decide, rfl⟩
  exact ⟨hfails, hco, (failed_stays_failed ⟨0, 0⟩ [("a", .text "")] _ _ hfails).2 hco⟩

end Registry
end FieldRules
