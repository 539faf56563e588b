import FieldRules.Proofs.RuleLists
import FieldRules.Proofs.Shape

namespace FieldRules

theorem Field.outcome_eq_ok {f : Field} {x : Value} :
    f.outcome = .ok x ↔ f.endless = false ∧ f.failure = none ∧ f.value.getD .null = x := by
  cases hends : f.endless with
  | true => simp [outcome_of_endless hends]
  | false =>
    cases hf : f.failure with
    | none => simp [outcome_of_passed hends hf]
    | some e => simp [outcome_of_failed hends hf]

namespace Registry

theorem outcome_of_scan_nil (r : Registry) (now : Instant) (d : Document) {rule : String}
    (h : scan rule = []) : r.outcome now d rule = none := by
  simp [outcome, runRule, start?, h]

section Rule

variable {now : Instant} {d : Document} {f g : Field}

theorem runCalls_ne_ok_of_failed {e : Failure} {v : Value} (calls : List Call)
    (hf : f.failure = some e) (hends : f.endless = false) :
    (standard.runCalls now d f calls).outcome ≠ .ok v := by
  obtain ⟨e', he⟩ :=
    (runCalls_of_failed (d := d) standard_keeps_failure standard_sharedEnd calls hf hends).failed
  rw [he]
  simp

theorem runCalls_eq_ok_iff {v : Value} (calls : List Call) (hf : f.failure = none)
    (hends : f.endless = false) :
    (standard.runCalls now d f calls).outcome = .ok v ↔
      ∃ g, calls.foldlM (standard.perform now d f.type) f = .ok g ∧ g.value.getD .null = v := by
  rw [runCalls_eq_trail]
  rcases trail_of_passing standard_keeps_failure standard_keeps_type calls hf hends with
    ⟨g, hg, hgf, hge, ht⟩ | ⟨h, g, hh, hgo, -, ht⟩
  · rw [ht, hg, Step.field, Field.outcome_of_passed hge hgf]
    simp
  · rw [ht, firstFailure_iff.mp hh, Step.field, hgo]
    cases h <;> simp [Halt.outcome]

/-- A rule passes when its type is known, coercion accepts the value and no call fails. -/
theorem outcome_eq_ok_iff {rule : String} {head : Call} {rest : List Call} {v : Value}
    (hscan : scan rule = head :: rest) :
    standard.outcome now d rule = some (.ok v) ↔
      ∃ type f g, declared? (declaredType head rest).1 = some type ∧
        ((Field.ofDocument head.verb d).withType type).coerce now = (f, none) ∧
        (declaredType head rest).2.foldlM (standard.perform now d type) f = .ok g ∧
        g.value.getD .null = v := by
  have hfailed {f : Field} (e : Failure) (hends : f.endless = false) :
      (standard.runCalls now d (f.record e) (declaredType head rest).2).outcome ≠ .ok v :=
    runCalls_ne_ok_of_failed _ rfl hends
  rw [outcome_of_start? standard (start?_of_scan now d hscan), Option.some_inj]
  cases htag : declared? (declaredType head rest).1 with
  | none =>
    rw [Field.declare_of_unknown _ htag]
    simp [hfailed (f := Field.ofDocument head.verb d) _ rfl]
  | some type =>
    rw [Field.declare_of_known rfl htag]
    cases hc : ((Field.ofDocument head.verb d).withType type).coerce now with
    | mk f failed =>
      have hfailure := Field.coerce_failure now ((Field.ofDocument head.verb d).withType type)
      have htype := Field.coerce_type now ((Field.ofDocument head.verb d).withType type)
      have hends := Field.coerce_endless now ((Field.ofDocument head.verb d).withType type)
      rw [hc] at hfailure htype hends
      cases failed with
      | some e => simp [hfailed e hends, hc]
      | none =>
        have hf : f.type = type := htype
        simp only [runCalls_eq_ok_iff _ hfailure hends, hf]
        simp [hc]

theorem keepsShape_of_coerce {rule : String} {head : Call} {rest : List Call} {type : TypeTag}
    {f : Field} (hscan : scan rule = head :: rest)
    (htag : declared? (declaredType head rest).1 = some type)
    (h : ((Field.ofDocument head.verb d).withType type).coerce now = (f, none)) :
    f.KeepsShape f ∧ f.type = type ∧ f.name = head.verb := by
  have htype := Field.coerce_type now ((Field.ofDocument head.verb d).withType type)
  have hname := Field.coerce_name now ((Field.ofDocument head.verb d).withType type)
  have hpass := Field.coerce_failure now ((Field.ofDocument head.verb d).withType type)
  have hstart : start? now d rule = some (f, (declaredType head rest).2) := by
    rw [start?_of_scan now d hscan, Field.declare_of_known rfl htag, h]
  rw [h] at htype hname hpass
  exact ⟨start?_keepsShape hstart hpass, htype, hname⟩

/-- Calls of a field that is no number leave its value as it is. -/
theorem foldlM_value {calls : List Call} {f₀ : Field} (htype : f₀.type ≠ .number)
    (hf : f₀.KeepsShape f) (h : calls.foldlM (standard.perform now d f₀.type) f = .ok g) :
    g.value = f.value := by
  induction calls generalizing f with
  | nil =>
    cases h
    rfl
  | cons c cs ih =>
    obtain ⟨b, hb, hg⟩ := bind_ok.mp h
    obtain ⟨m, hm, -, hbm, -⟩ := perform_ok.mp hb
    have hbshape : f₀.KeepsShape b := perform_keepsShape hf hb
    have hmtype : m.type = f₀.type :=
      (performShared_keeps standard_keeps_type (fun _ _ _ => rfl) hm).trans hf.type
    rw [← hmtype] at hbm
    rcases performTyped_value hbm with hbvalue | ⟨hnumber, -⟩
    · rw [ih hbshape hg, hbvalue, performShared_value hm]
    · exact absurd (hmtype.symm.trans hnumber) htype

/-- Only a rule about a number can have a verb that never ends. -/
theorem declared_of_outcome_endless {rule : String} {head : Call} {rest : List Call}
    (hscan : scan rule = head :: rest) (h : standard.outcome now d rule = some .endless) :
    declared? (declaredType head rest).1 = some .number := by
  have hstart := start?_of_scan now d hscan
  have htype : ((Field.ofDocument head.verb d).declare now (declaredType head rest).1).type =
      (declared? (declaredType head rest).1).getD .any := Field.declare_type rfl
  rw [outcome_of_start? standard hstart, Option.some_inj] at h
  generalize (Field.ofDocument head.verb d).declare now (declaredType head rest).1 = f
    at hstart htype h
  have hends := start?_endless hstart
  cases hf : f.failure with
  | some e =>
    obtain ⟨e', he⟩ := (runCalls_of_failed (d := d) standard_keeps_failure standard_sharedEnd
      (declaredType head rest).2 hf hends).failed
    rw [he] at h
    cases h
  | none =>
    rcases runCalls_of_passing (d := d) (declaredType head rest).2 hf hends with
      ⟨g, -, ho⟩ | ⟨xs, c, ys, -, -, ⟨e, -, ho⟩ | ⟨g, hg, hc, -⟩⟩
    · cases ho.symm.trans h
    · cases ho.symm.trans h
    · have hgt := (foldlM_perform_keeps standard_keeps_type hends hg).1
      rw [hc.type, htype] at hgt
      cases htag : declared? (declaredType head rest).1 with
      | none => simp [htag] at hgt
      | some type =>
        rw [htag, Option.getD_some] at hgt
        rw [hgt]

end Rule

end Registry

namespace Validator

theorem mem_passed {fs : List Field} {k : String} {x : Value}
    (hends : ∀ f ∈ fs, f.endless = false) :
    (k, x) ∈ passed fs ↔ ∃ f ∈ fs, f.name = k ∧ f.outcome = .ok x := by
  simp only [passed, List.mem_map, List.mem_filter, Option.isNone_iff_eq_none, Prod.mk.injEq,
    Field.outcome_eq_ok]
  constructor
  · rintro ⟨f, ⟨hf, hpass⟩, hname, hvalue⟩
    exact ⟨f, hf, hname, hends f hf, hpass, hvalue⟩
  · rintro ⟨f, hf, hname, -, hpass, hvalue⟩
    exact ⟨f, ⟨hf, hpass⟩, hname, hvalue⟩

theorem messages_eq_nil_iff (v : Validator) {fs : List Field} :
    v.messages fs = [] ↔ ∀ f ∈ fs, f.failure = none := by
  simp [messages, List.filterMap_eq_nil_iff]

section Named

variable {v : Validator} {now : Instant} {d d' : Document} {rules : List String} {values : Document}
  (hname : v.registry.Keeps Field.name)
  (hn : (rules.filterMap fun rule => (scan rule).head?.map Call.verb).Nodup)
include hname

theorem runRule_name {rule : String} {f : Field} (h : v.registry.runRule now d rule = some f) :
    (scan rule).head?.map Call.verb = some f.name := by
  rw [← v.fieldName?_of_keeps now d hname, fieldName?, h]
  rfl

include hn

section Ending

variable (hends : v.ends now d rules = true)
include hends

theorem get?_passed {name : String} {x : Value} :
    Entries.get? name (Entries.ofList (passed (v.fields now d rules))) = some x ↔
      ∃ rule ∈ rules, (scan rule).head?.map Call.verb = some name ∧
        v.registry.outcome now d rule = some (.ok x) := by
  have hnames : ((v.fields now d rules).map Field.name).Nodup := by
    rw [map_name_fields, List.filterMap_congr fun rule _ => v.fieldName?_of_keeps now d hname rule]
    exact hn
  have hfields : ∀ f ∈ v.fields now d rules, f.endless = false := by simpa [ends] using hends
  rw [Entries.get?_ofList_eq_some ((passed_sublist _).nodup hnames), mem_passed hfields]
  simp only [mem_fields, Registry.outcome, Option.map_eq_some_iff]
  constructor
  · rintro ⟨f, ⟨rule, hrule, hf⟩, rfl, hx⟩
    have hscan := runRule_name hname hf
    exact ⟨rule, hrule, Option.map_eq_some_iff.mp hscan, f, hf, hx⟩
  · rintro ⟨rule, hrule, hscan, f, hf, hx⟩
    have hf' := runRule_name hname hf
    have hsame := hf'.symm.trans (Option.map_eq_some_iff.mpr hscan)
    exact ⟨f, ⟨rule, hrule, hf⟩, Option.some.inj hsame, hx⟩

/-- A run that ends passes when no rule fails, and then holds the value of each rule under its
name. -/
theorem validateDocument_eq_ok_iff :
    v.validateDocument now d rules = .ok values ↔
      (∀ rule ∈ rules, ∀ e, v.registry.outcome now d rule ≠ some (.error e)) ∧ values.Sorted ∧
      ∀ name x, values.get? name = some x ↔
        ∃ rule ∈ rules, (scan rule).head?.map Call.verb = some name ∧
          v.registry.outcome now d rule = some (.ok x) := by
  have hfails : v.messages (v.fields now d rules) = [] ↔
      ∀ rule ∈ rules, ∀ e, v.registry.outcome now d rule ≠ some (.error e) := by
    rw [messages_eq_nil_iff]
    simp only [mem_fields, Registry.outcome, ne_eq, Option.map_eq_some_iff, Field.outcome_eq_error]
    constructor
    · rintro h rule hrule e ⟨f, hf, he⟩
      cases (h f ⟨rule, hrule, hf⟩).symm.trans he.2
    · rintro h f ⟨rule, hrule, hf⟩
      by_contra hfailed
      obtain ⟨e, he⟩ := Option.ne_none_iff_exists'.mp hfailed
      have hfield := List.all_eq_true.mp hends f (v.mem_fields now d |>.mpr ⟨rule, hrule, hf⟩)
      exact h rule hrule e ⟨f, hf, by simpa using hfield, he⟩
  rw [validateDocument_eq]
  constructor
  · intro h
    split at h
    · rename_i hnil
      cases h
      exact ⟨hfails.mp hnil, Entries.sorted_ofList _, fun name x => get?_passed hname hn hends⟩
    · cases h
  · rintro ⟨hpass, hsorted, hvalues⟩
    rw [if_pos (hfails.mpr hpass)]
    congr 1
    apply Entries.ext_of_sorted (Entries.sorted_ofList _) hsorted
    intro name
    apply Option.ext
    intro x
    exact (get?_passed hname hn hends).trans (hvalues name x).symm

omit hname hn in
/-- A rule that names a field, ends and does not fail has a value. -/
theorem exists_value_of_passed {rule : String} {head : Call} {rest : List Call}
    (hrule : rule ∈ rules) (hscan : scan rule = head :: rest)
    (h : ∀ e, v.registry.outcome now d rule ≠ some (.error e)) :
    ∃ x, v.registry.outcome now d rule = some (.ok x) := by
  have houtcome := v.registry.outcome_of_start? (Registry.start?_of_scan now d hscan)
  have hend := (v.ends_iff now d rules).mp hends rule hrule
  rw [houtcome] at h hend ⊢
  cases ho : (v.registry.runCalls now d _ (declaredType head rest).2).outcome with
  | error e => exact absurd (congrArg some ho) (h e)
  | endless => exact absurd (congrArg some ho) hend
  | ok x => exact ⟨x, rfl⟩

end Ending

/-- A run over the same rules gives the same values exactly when each rule comes to what it came
to. -/
theorem validateDocument_again_iff (hends : v.ends now d rules = true)
    (hends' : v.ends now d' rules = true) (h : v.validateDocument now d rules = .ok values) :
    v.validateDocument now d' rules = .ok values ↔
      ∀ rule ∈ rules, v.registry.outcome now d' rule = v.registry.outcome now d rule := by
  obtain ⟨hpass, hsorted, hvalues⟩ := (validateDocument_eq_ok_iff hname hn hends).mp h
  rw [validateDocument_eq_ok_iff hname hn hends']
  constructor
  · rintro ⟨hpass', -, hvalues'⟩ rule hrule
    cases hscan : scan rule with
    | nil => rw [Registry.outcome_of_scan_nil _ _ _ hscan, Registry.outcome_of_scan_nil _ _ _ hscan]
    | cons head rest =>
      have hverb : (scan rule).head?.map Call.verb = some head.verb := by simp [hscan]
      obtain ⟨x, hx⟩ := exists_value_of_passed hends hrule hscan (hpass rule hrule)
      obtain ⟨x', hx'⟩ := exists_value_of_passed hends' hrule hscan (hpass' rule hrule)
      have hget := (hvalues head.verb x).mpr ⟨rule, hrule, hverb, hx⟩
      have hget' := (hvalues' head.verb x').mpr ⟨rule, hrule, hverb, hx'⟩
      rw [hx, hx', Option.some.inj (hget.symm.trans hget')]
  · intro hsame
    refine ⟨fun rule hrule e => hsame rule hrule ▸ hpass rule hrule e, hsorted, fun name x => ?_⟩
    rw [hvalues name x]
    exact exists_congr fun rule => and_congr_right fun hrule => by rw [hsame rule hrule]

end Named

end Validator
end FieldRules
