import FieldRules.Proofs.Declaration

namespace FieldRules

namespace Value

/-- The variants that a coerced field of the type can hold; only verbs make integers. -/
def hasType : TypeTag → Value → Bool
  | .any, _ => true
  | .string, .text _ => true
  | .bool, .bool _ => true
  | .date, .timestamp _ => true
  | .file, .bytes _ _ => true
  | .image, .bytes _ _ => true
  | .array, .sequence _ => true
  | .object, .mapping _ => true
  | .object, .sequence _ => true
  | .number, .number _ => true
  | .number, .integer _ => true
  | _, _ => false

theorem coerce_hasType {type : TypeTag} {now : Instant} {v : Value}
    (h : (v.coerce type now).ok = true) : (v.coerce type now).value.hasType type = true := by
  unfold coerce at h ⊢
  grind [hasType]

/-- Coercion makes no null of another value. -/
theorem coerce_isNull {type : TypeTag} {now : Instant} {v : Value} (hv : v.isNull = false) :
    (v.coerce type now).value.isNull = false := by
  unfold coerce
  grind [isNull]

end Value

namespace Field

/-- The field has a value of its declared type, and it is not null. -/
def HoldsTyped (f : Field) : Prop :=
  ∃ v, f.value = some v ∧ v.isNull = false ∧ v.hasType f.type = true

theorem hasValue_iff {f : Field} :
    f.hasValue = true ↔ ∃ v, f.value = some v ∧ v.isNull = false := by
  simp [hasValue, Option.any_eq_true]

theorem hasValue_congr {f g : Field} (h : g.value = f.value) : g.hasValue = f.hasValue := by
  rw [hasValue, hasValue, h]

theorem hasValue_of_number {f : Field} {x : Float} (h : f.number = .ok x) : f.hasValue = true := by
  cases hv : f.value with
  | none =>
    rw [number, hv] at h
    cases h
  | some v =>
    cases v with
    | null =>
      rw [number, hv] at h
      cases h
    | _ => exact hasValue_iff.mpr ⟨_, hv, rfl⟩

theorem HoldsTyped.congr {f g : Field} (h : f.HoldsTyped) (hvalue : g.value = f.value)
    (htype : g.type = f.type) : g.HoldsTyped := by
  rw [HoldsTyped, hvalue, htype]
  exact h

theorem coerce_of_value {now : Instant} {f : Field} {v : Value} (hv : f.value = some v)
    (hnull : v.isNull = false) :
    f.coerce now = ({ f with
        value := some (v.coerce f.type now).value, mime := (v.coerce f.type now).mime.getD f.mime },
      if (v.coerce f.type now).ok then none else some f.mismatch) := by
  unfold coerce
  rw [hv]
  cases v with
  | null => cases hnull
  | _ => rfl

theorem coerce_of_hasValue_eq_false {now : Instant} {f : Field} (h : f.hasValue = false) :
    f.coerce now = (f, if f.type = .object then some f.mismatch else none) := by
  unfold coerce
  split
  · rfl
  · rfl
  · rename_i v hnull hv
    cases v with
    | null => exact absurd rfl hnull
    | _ => simp [hasValue, hv, Value.isNull] at h

theorem coerce_of_no_value {now : Instant} {f : Field} (h : f.hasValue = false) :
    (f.coerce now).1 = f := by
  rw [coerce_of_hasValue_eq_false h]

/-- A field that coercion has accepted has no value or one of its type. -/
theorem holdsTyped_of_coerce {now : Instant} {f : Field} (h : (f.coerce now).2 = none)
    (hvalue : (f.coerce now).1.hasValue = true) : (f.coerce now).1.HoldsTyped := by
  cases hf : f.hasValue with
  | false =>
    rw [coerce_of_no_value hf, hf] at hvalue
    cases hvalue
  | true =>
    obtain ⟨v, hv, hnull⟩ := hasValue_iff.mp hf
    rw [coerce_of_value hv hnull] at h ⊢
    have hok : (v.coerce f.type now).ok = true := by simpa using h
    exact ⟨_, rfl, Value.coerce_isNull hnull, Value.coerce_hasType hok⟩

theorem HoldsTyped.text {f : Field} (h : f.HoldsTyped) (htype : f.type = .string) :
    ∃ s, f.text = .ok s := by
  obtain ⟨v, hv, -, hvtype⟩ := h
  rw [htype] at hvtype
  cases v with
  | text s => exact ⟨s, by simp [Field.text, hv, Value.text?, require]⟩
  | _ => cases hvtype

theorem HoldsTyped.number {f : Field} (h : f.HoldsTyped) (htype : f.type = .number) :
    ∃ x, f.number = .ok x := by
  obtain ⟨v, hv, -, hvtype⟩ := h
  rw [htype] at hvtype
  cases v with
  | number x => exact ⟨x, by simp [Field.number, hv, Value.number?, require]⟩
  | integer n => exact ⟨Float.ofInt n.toInt, by simp [Field.number, hv, Value.number?, require]⟩
  | _ => cases hvtype

theorem HoldsTyped.instant {f : Field} (h : f.HoldsTyped) (htype : f.type = .date) :
    ∃ t, f.instant = .ok t := by
  obtain ⟨v, hv, -, hvtype⟩ := h
  rw [htype] at hvtype
  cases v with
  | timestamp t => exact ⟨t, by simp [Field.instant, hv, Value.timestamp?, require]⟩
  | _ => cases hvtype

/-- The accessor that the verbs of the declared type read the value with succeeds. -/
def Readable (f : Field) : Prop :=
  match f.type with
  | .string => ∃ s, f.text = .ok s
  | .number => ∃ x, f.number = .ok x
  | .date => ∃ t, f.instant = .ok t
  | _ => True

theorem HoldsTyped.readable {f : Field} (h : f.HoldsTyped) : f.Readable := by
  unfold Readable
  split
  · rename_i htype
    exact h.text htype
  · rename_i htype
    exact h.number htype
  · rename_i htype
    exact h.instant htype
  · trivial

/-- A declared field that has not failed has no value or one of its type. -/
theorem holdsTyped_of_declare {now : Instant} {tag : Option String} {f : Field}
    (htype : f.type = .any) (hpass : (f.declare now tag).failure = none)
    (hvalue : (f.declare now tag).hasValue = true) : (f.declare now tag).HoldsTyped := by
  cases htag : declared? tag with
  | none =>
    rw [declare_of_unknown f htag] at hpass
    cases hpass
  | some type =>
    rw [declare_of_known htype htag] at hpass hvalue ⊢
    cases hc : (f.withType type).coerce now with
    | mk g failed =>
      rw [hc] at hpass hvalue
      cases failed with
      | some e => cases hpass
      | none =>
        have hfailed : ((f.withType type).coerce now).2 = none := by rw [hc]
        have hg : ((f.withType type).coerce now).1 = g := by rw [hc]
        rw [← hg] at hvalue ⊢
        exact holdsTyped_of_coerce hfailed hvalue

end Field
end FieldRules
