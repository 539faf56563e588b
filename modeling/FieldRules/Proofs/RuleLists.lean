import FieldRules.Proofs.Declaration
import FieldRules.Proofs.Run
import Mathlib.Data.List.Basic

namespace FieldRules.Validator

variable (v : Validator) (now : Instant) (d : Document)

/-- Name of the field of a rule as it is reported. -/
def fieldName? (rule : String) : Option String := (v.registry.runRule now d rule).map Field.name

/-- Names and messages of the fields that failed, in the order of their rules. -/
def messages (fs : List Field) : List (String × String) :=
  fs.filterMap fun f => f.failure.map fun e => (f.name, e.render v.catalog)

/-- Names and values of the fields that passed, in the order of their rules. -/
def passed (fs : List Field) : List (String × Value) :=
  (fs.filter fun f => f.failure.isNone).map fun f => (f.name, f.value.getD .null)

theorem validateDocument_eq (rules : List String) :
    v.validateDocument now d rules =
      if v.messages (v.fields now d rules) = [] then
        .ok (Entries.ofList (passed (v.fields now d rules)))
      else .error (Entries.ofList (v.messages (v.fields now d rules))) := by
  have hreport : v.report (v.fields now d rules) =
      Entries.ofList (v.messages (v.fields now d rules)) := rfl
  rw [validateDocument]
  split
  · rename_i hnil
    rw [hreport, Entries.ofList_eq_nil_iff] at hnil
    rw [if_pos hnil]
    rfl
  · rename_i hne
    rw [hreport, Entries.ofList_eq_nil_iff] at hne
    rw [if_neg hne]
    rfl

theorem fields_append (A B : List String) :
    v.fields now d (A ++ B) = v.fields now d A ++ v.fields now d B := List.filterMap_append

theorem messages_append (fs gs : List Field) :
    v.messages (fs ++ gs) = v.messages fs ++ v.messages gs := List.filterMap_append

theorem passed_append (fs gs : List Field) : passed (fs ++ gs) = passed fs ++ passed gs := by
  simp [passed]

theorem messages_cons_of_passed {f : Field} (fs : List Field) (h : f.failure = none) :
    v.messages (f :: fs) = v.messages fs := by
  simp [messages, h]

theorem messages_cons_of_failed {f : Field} {e : Failure} (fs : List Field)
    (h : f.failure = some e) :
    v.messages (f :: fs) = (f.name, e.render v.catalog) :: v.messages fs := by
  simp [messages, h]

theorem mem_messages {fs : List Field} {k : String} :
    k ∈ (v.messages fs).map Prod.fst ↔ ∃ f ∈ fs, f.failure.isSome ∧ f.name = k := by
  induction fs with
  | nil => simp [messages]
  | cons f fs ih =>
    simp only [List.mem_cons, exists_eq_or_imp]
    cases hf : f.failure with
    | none =>
      rw [messages_cons_of_passed v fs hf, ih]
      simp
    | some e =>
      rw [messages_cons_of_failed v fs hf, List.map_cons, List.mem_cons, ih, eq_comm]
      simp

theorem messages_sublist (fs : List Field) :
    ((v.messages fs).map Prod.fst).Sublist (fs.map Field.name) := by
  induction fs with
  | nil => exact List.Sublist.slnil
  | cons f fs ih =>
    cases hf : f.failure with
    | none =>
      rw [messages_cons_of_passed v fs hf]
      exact ih.cons _
    | some e =>
      rw [messages_cons_of_failed v fs hf]
      exact ih.cons_cons _

theorem passed_sublist (fs : List Field) :
    ((passed fs).map Prod.fst).Sublist (fs.map Field.name) := by
  have hnames :
      (passed fs).map Prod.fst = (fs.filter fun f => f.failure.isNone).map Field.name := by
    simp [passed]
  rw [hnames]
  exact List.filter_sublist.map _

/-- What two runs come to in one: all values when both passed, else the messages of those that
failed. Of two under one name the later one stays. -/
def Joins : (first second both : Except Report Document) → Prop
  | .ok a, .ok b, o => ∃ u, o = .ok u ∧ Entries.IsUnion a b u
  | .ok _, .error r, o => o = .error r
  | .error r, .ok _, o => o = .error r
  | .error q, .error r, o => ∃ u, o = .error u ∧ Entries.IsUnion q r u

theorem validateDocument_append (A B : List String) :
    Joins (v.validateDocument now d A) (v.validateDocument now d B)
      (v.validateDocument now d (A ++ B)) := by
  simp only [validateDocument_eq, fields_append, messages_append, passed_append]
  by_cases hA : v.messages (v.fields now d A) = [] <;>
    by_cases hB : v.messages (v.fields now d B) = []
  · simp only [hA, hB, List.append_nil, if_true]
    exact ⟨_, rfl, Entries.isUnion_ofList_append _ _⟩
  · simp [hA, hB, Joins]
  · simp [hA, hB, Joins]
  · have hAB : v.messages (v.fields now d A) ++ v.messages (v.fields now d B) ≠ [] := by simp [hA]
    simp only [hA, hB, hAB, if_false]
    exact ⟨_, rfl, Entries.isUnion_ofList_append _ _⟩

theorem runRule_of_scan_nil {rule : String} (h : scan rule = []) :
    v.registry.runRule now d rule = none := by
  simp [Registry.runRule, Registry.start?, h]

theorem mem_fields {rules : List String} {f : Field} :
    f ∈ v.fields now d rules ↔ ∃ rule ∈ rules, v.registry.runRule now d rule = some f := by
  simp [fields]

theorem map_name_fields (rules : List String) :
    (v.fields now d rules).map Field.name = rules.filterMap (v.fieldName? now d) := by
  rw [fields, List.map_filterMap]
  rfl

theorem validateDocument_perm {rules rules' : List String} (hp : rules.Perm rules')
    (hn : (rules.filterMap (v.fieldName? now d)).Nodup) :
    v.validateDocument now d rules = v.validateDocument now d rules' := by
  have hfields : (v.fields now d rules).Perm (v.fields now d rules') := hp.filterMap _
  have hmessages : (v.messages (v.fields now d rules)).Perm (v.messages (v.fields now d rules')) :=
    hfields.filterMap _
  have hpassed : (passed (v.fields now d rules)).Perm (passed (v.fields now d rules')) :=
    (hfields.filter _).map _
  rw [← map_name_fields] at hn
  have hnil : v.messages (v.fields now d rules) = [] ↔ v.messages (v.fields now d rules') = [] :=
    ⟨fun h => (h ▸ hmessages).nil_eq.symm, fun h => (h ▸ hmessages).eq_nil⟩
  simp only [validateDocument_eq, hnil,
    Entries.ofList_perm hmessages ((v.messages_sublist _).nodup hn),
    Entries.ofList_perm hpassed ((passed_sublist _).nodup hn)]

/-- The name is the one the rule is written with, unless a verb of the registry changes it. -/
theorem fieldName?_of_keeps (hname : v.registry.Keeps Field.name) (rule : String) :
    v.fieldName? now d rule = (scan rule).head?.map Call.verb := by
  cases hscan : scan rule with
  | nil => simp [fieldName?, v.runRule_of_scan_nil now d hscan]
  | cons head rest =>
    have hdeclared : ((Field.ofDocument head.verb d).declare now (declaredType head rest).1).name =
        head.verb := Field.declare_name rfl
    have hrun : (v.registry.trail now d _ (declaredType head rest).2).field.name = _ :=
      Registry.trail_keeps hname (fun _ _ _ => rfl) (fun _ _ => rfl)
        ((Field.ofDocument head.verb d).declare now (declaredType head rest).1) _
    simp only [fieldName?, Registry.runRule, Registry.start?_of_scan now d hscan, Option.map_some,
      Registry.runCalls_eq_trail, hrun, hdeclared, List.head?_cons]

/-- A run over one rule reports its field, or nothing when the rule names none. -/
theorem validateDocument_single (rule : String) :
    v.validateDocument now d [rule] =
      match v.registry.runRule now d rule with
      | none => .ok []
      | some f => match f.failure with
        | none => .ok [(f.name, f.value.getD .null)]
        | some e => .error [(f.name, e.render v.catalog)] := by
  rw [validateDocument_eq]
  cases hrun : v.registry.runRule now d rule with
  | none =>
    have hfields : v.fields now d [rule] = [] := by simp [fields, hrun]
    rw [hfields]
    rfl
  | some f =>
    have hfields : v.fields now d [rule] = [f] := by simp [fields, hrun]
    rw [hfields]
    cases hf : f.failure with
    | none =>
      rw [messages_cons_of_passed v [] hf]
      simp [messages, passed, hf, Entries.ofList, Entries.merge, Entries.insert]
    | some e =>
      rw [messages_cons_of_failed v [] hf]
      simp [messages, hf, Entries.ofList, Entries.merge, Entries.insert]

/-- One rule that never ends is enough for a run that never ends. -/
theorem ends_iff (rules : List String) :
    v.ends now d rules = true ↔
      ∀ rule ∈ rules, v.registry.outcome now d rule ≠ some .endless := by
  simp only [ends, List.all_eq_true, mem_fields, Registry.outcome, ne_eq, Option.map_eq_some_iff,
    Field.outcome_eq_endless]
  grind

/-- A run over rules is made of the runs over its parts, down to single rules. -/
theorem validateDocument_gathers (v : Validator) (now : Instant) (d : Document) :
    (∀ rule, v.validateDocument now d [rule] =
      match v.registry.runRule now d rule with
      | none => .ok []
      | some f => match f.failure with
        | none => .ok [(f.name, f.value.getD .null)]
        | some e => .error [(f.name, e.render v.catalog)]) ∧
    (∀ rules, v.ends now d rules = true ↔
      ∀ rule ∈ rules, v.registry.outcome now d rule ≠ some .endless) ∧
    (∀ A B, Joins (v.validateDocument now d A) (v.validateDocument now d B)
      (v.validateDocument now d (A ++ B))) ∧
    (∀ A B rule, scan rule = [] →
      v.validateDocument now d (A ++ rule :: B) = v.validateDocument now d (A ++ B)) ∧
    (∀ rules r, v.validateDocument now d rules = .error r → ∀ k, k ∈ r.keys ↔
      ∃ rule ∈ rules, ∃ f, v.registry.runRule now d rule = some f ∧ f.failure.isSome ∧
        f.name = k) ∧
    (∀ rules rules', rules.Perm rules' → (rules.filterMap (v.fieldName? now d)).Nodup →
      v.validateDocument now d rules = v.validateDocument now d rules') ∧
    (v.registry.Keeps Field.name →
      ∀ rule, v.fieldName? now d rule = (scan rule).head?.map Call.verb) := by
  refine ⟨v.validateDocument_single now d, v.ends_iff now d, v.validateDocument_append now d, ?_,
    ?_, fun _ _ => v.validateDocument_perm now d, v.fieldName?_of_keeps now d⟩
  · intro A B rule hscan
    have hfields : v.fields now d (A ++ rule :: B) = v.fields now d (A ++ B) := by
      simp [fields, v.runRule_of_scan_nil now d hscan]
    simp only [validateDocument, hfields]
  · intro rules r h k
    rw [validateDocument_eq] at h
    split at h
    · cases h
    · cases h
      rw [Entries.mem_keys_ofList, mem_messages]
      simp only [mem_fields]
      constructor
      · rintro ⟨f, ⟨rule, hrule, hf⟩, hfailed, hk⟩
        exact ⟨rule, hrule, f, hf, hfailed, hk⟩
      · rintro ⟨rule, hrule, f, hf, hfailed, hk⟩
        exact ⟨f, ⟨rule, hrule, hf⟩, hfailed, hk⟩

end FieldRules.Validator
