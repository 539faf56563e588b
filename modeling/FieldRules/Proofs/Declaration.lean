import FieldRules.Validator

namespace FieldRules

/-- A bare word that names a type; directly after a bare field name it declares that type. -/
def Call.isTag (c : Call) : Bool := !c.parenthesized && (TypeTag.ofName? c.verb).isSome

theorem declaredType_bare_nil {head : Call} (h : head.parenthesized = false) :
    declaredType head [] = (none, []) := by
  simp [declaredType, h]

theorem declaredType_bare_of_not_tag {head c : Call} (cs : List Call)
    (h : head.parenthesized = false) (hc : c.isTag = false) :
    declaredType head (c :: cs) = (none, c :: cs) := by
  have htag : (!c.parenthesized && (TypeTag.ofName? c.verb).isSome) = false := hc
  simp [declaredType, h, htag]

/-- Calls behind the declared type have no part in it. -/
theorem declaredType_append {head : Call} {xs : List Call} (ys : List Call)
    (h : head.parenthesized ∨ xs ≠ [] ∨ ∀ c ∈ ys.head?, c.isTag = false) :
    declaredType head (xs ++ ys) =
      ((declaredType head xs).1, (declaredType head xs).2 ++ ys) := by
  cases hp : head.parenthesized with
  | true => simp [declaredType, hp]
  | false =>
    cases xs with
    | cons c xs =>
      simp only [declaredType, hp, List.cons_append, Bool.false_eq_true, if_false]
      split <;> rfl
    | nil =>
      rw [List.nil_append, declaredType_bare_nil hp, List.nil_append]
      cases ys with
      | nil => exact declaredType_bare_nil hp
      | cons c ys =>
        have hc : c.isTag = false := by simpa [hp] using h
        exact declaredType_bare_of_not_tag ys hp hc

/-- The type that a rule declares, any type when it declares none; `none` when no type has the
name. -/
def declared? (tag : Option String) : Option TypeTag := tag.elim (some .any) TypeTag.ofName?

namespace Field

def withType (f : Field) (type : TypeTag) : Field := { f with type }

theorem coerce_type (now : Instant) (f : Field) : (f.coerce now).1.type = f.type := by
  unfold coerce
  split <;> rfl

theorem coerce_name (now : Instant) (f : Field) : (f.coerce now).1.name = f.name := by
  unfold coerce
  split <;> rfl

theorem coerce_failure (now : Instant) (f : Field) : (f.coerce now).1.failure = f.failure := by
  unfold coerce
  split <;> rfl

theorem coerce_endless (now : Instant) (f : Field) : (f.coerce now).1.endless = f.endless := by
  unfold coerce
  split <;> rfl

/-- A failed coercion says that the value is not of the type, and no more. -/
theorem eq_mismatch_of_coerce {now : Instant} {f : Field} {e : Failure}
    (h : (f.coerce now).2 = some e) : e = f.mismatch := by
  unfold coerce at h
  grind

theorem declare_of_unknown {now : Instant} {tag : Option String} (f : Field)
    (h : declared? tag = none) :
    f.declare now tag = f.record (f.fail TypeTag.any.mismatchKind) := by
  cases tag with
  | none => cases h
  | some name =>
    have hname : TypeTag.ofName? name = none := h
    simp [declare, hname]

theorem declare_of_known {now : Instant} {tag : Option String} {type : TypeTag} {f : Field}
    (hf : f.type = .any) (h : declared? tag = some type) :
    f.declare now tag = match (f.withType type).coerce now with
      | (g, some e) => g.record e
      | (g, none) => g := by
  cases tag with
  | none =>
    have htype : f.withType type = f := by
      rw [← Option.some.inj h, ← hf]
      rfl
    rw [htype]
    rfl
  | some name =>
    have hname : TypeTag.ofName? name = some type := h
    simp only [declare, Option.map_some, hname]
    rfl

theorem declare_type {now : Instant} {tag : Option String} {f : Field} (hf : f.type = .any) :
    (f.declare now tag).type = (declared? tag).getD .any := by
  cases htype : declared? tag with
  | none =>
    rw [declare_of_unknown f htype]
    exact hf
  | some type =>
    rw [declare_of_known hf htype]
    split
    · rename_i g e hg
      exact (congrArg (fun p => p.1.type) hg).symm.trans (coerce_type now _)
    · rename_i g hg
      exact (congrArg (fun p => p.1.type) hg).symm.trans (coerce_type now _)

theorem declare_name {now : Instant} {tag : Option String} {f : Field} (hf : f.type = .any) :
    (f.declare now tag).name = f.name := by
  cases htype : declared? tag with
  | none =>
    rw [declare_of_unknown f htype]
    rfl
  | some type =>
    rw [declare_of_known hf htype]
    split
    · rename_i g e hg
      exact (congrArg (fun p => p.1.name) hg).symm.trans (coerce_name now _)
    · rename_i g hg
      exact (congrArg (fun p => p.1.name) hg).symm.trans (coerce_name now _)

theorem declare_endless {now : Instant} {tag : Option String} {f : Field} (hf : f.type = .any) :
    (f.declare now tag).endless = f.endless := by
  cases htype : declared? tag with
  | none =>
    rw [declare_of_unknown f htype]
    rfl
  | some type =>
    rw [declare_of_known hf htype]
    split
    · rename_i g e hg
      exact (congrArg (fun p => p.1.endless) hg).symm.trans (coerce_endless now _)
    · rename_i g hg
      exact (congrArg (fun p => p.1.endless) hg).symm.trans (coerce_endless now _)

/-- A field that fails before its verbs run fails for its type. -/
theorem declare_failure {now : Instant} {tag : Option String} {f : Field} {e : Failure}
    (htype : f.type = .any) (hf : f.failure = none) (h : (f.declare now tag).failure = some e) :
    ∃ type, e = (f.withType type).mismatch := by
  cases htag : declared? tag with
  | none =>
    rw [declare_of_unknown f htag] at h
    cases h
    exact ⟨.any, rfl⟩
  | some type =>
    rw [declare_of_known htype htag] at h
    have hkeep := coerce_failure now (f.withType type)
    cases hc : (f.withType type).coerce now with
    | mk g failed =>
      rw [hc] at h hkeep
      cases failed with
      | none =>
        have hg : g.failure = none := hkeep.trans hf
        rw [hg] at h
        cases h
      | some e' =>
        cases h
        exact ⟨type, eq_mismatch_of_coerce (by rw [hc])⟩

theorem declare_failure_kind {now : Instant} {tag : Option String} {f : Field} {e : Failure}
    (htype : f.type = .any) (hf : f.failure = none) (h : (f.declare now tag).failure = some e) :
    ∃ type : TypeTag, e.kind = type.mismatchKind := by
  obtain ⟨type, rfl⟩ := declare_failure htype hf h
  exact ⟨type, rfl⟩

end Field

namespace Registry

theorem start?_of_scan (now : Instant) (d : Document) {rule : String} {head : Call}
    {rest : List Call} (h : scan rule = head :: rest) :
    start? now d rule = some ((Field.ofDocument head.verb d).declare now (declaredType head rest).1,
      (declaredType head rest).2) := by
  simp only [start?, h]

theorem start?_endless {now : Instant} {d : Document} {rule : String} {f : Field}
    {calls : List Call} (hstart : start? now d rule = some (f, calls)) : f.endless = false := by
  cases hscan : scan rule with
  | nil => simp [start?, hscan] at hstart
  | cons head rest =>
    rw [start?_of_scan now d hscan] at hstart
    cases hstart
    exact Field.declare_endless rfl

/-- The rule names a field, of a type that there is, and the value of the field is of that type. -/
def Coerces (now : Instant) (d : Document) (rule : String) : Prop :=
  ∃ head rest type, scan rule = head :: rest ∧
    declared? (declaredType head rest).1 = some type ∧
    (((Field.ofDocument head.verb d).withType type).coerce now).2 = none

theorem Coerces.start? {now : Instant} {d : Document} {rule : String}
    (h : Coerces now d rule) :
    ∃ f calls, start? now d rule = some (f, calls) ∧ f.failure = none := by
  obtain ⟨head, rest, type, hscan, htype, hc⟩ := h
  refine ⟨_, _, start?_of_scan now d hscan, ?_⟩
  rw [Field.declare_of_known rfl htype]
  have hkeep := Field.coerce_failure now ((Field.ofDocument head.verb d).withType type)
  cases hp : ((Field.ofDocument head.verb d).withType type).coerce now with
  | mk g failed =>
    rw [hp] at hc hkeep
    cases hc
    exact hkeep

end Registry
end FieldRules
