import FieldRules.Proofs.CanonicalValue

namespace FieldRules

namespace Value

variable {type : TypeTag} {now : Instant} {v : Value}

/-- A value of the type as coercion leaves it: of numbers no integer. -/
structure IsCanonical (type : TypeTag) (v : Value) : Prop where
  hasType : v.hasType type = true
  number : type = .number → ∃ x, v = .number x

/-- What is left of a value that is refused: the number read so far of a text that is no number. -/
def leftover : TypeTag → Value → Value
  | .number, .text s => .number (Lenient.number s).1
  | _, v => v

theorem isCanonical_of_coerce (h : (v.coerce type now).ok = true) :
    (v.coerce type now).value.IsCanonical type := by
  refine ⟨coerce_hasType h, ?_⟩
  rintro rfl
  cases v with
  | number x => exact ⟨x, rfl⟩
  | integer n => exact ⟨Float.ofInt n.toInt, rfl⟩
  | text s => exact ⟨(Lenient.number s).1, rfl⟩
  | _ => cases h

theorem IsCanonical.coerce (h : v.IsCanonical type) : v.coerce type now = ⟨true, v, none⟩ := by
  have hv := h.hasType
  cases type with
  | any => cases v <;> rfl
  | number =>
    obtain ⟨x, rfl⟩ := h.number rfl
    rfl
  | string =>
    cases v with
    | text s => rfl
    | _ => cases hv
  | bool =>
    cases v with
    | bool b => rfl
    | _ => cases hv
  | date =>
    cases v with
    | timestamp t => rfl
    | _ => cases hv
  | image =>
    cases v with
    | bytes data mime => rfl
    | _ => cases hv
  | file =>
    cases v with
    | bytes data mime => rfl
    | _ => cases hv
  | array =>
    cases v with
    | sequence items => rfl
    | _ => cases hv
  | object =>
    cases v with
    | mapping entries => rfl
    | sequence items => rfl
    | _ => cases hv

/-- Only an image that is decoded brings a mime type, or the absence of one. -/
theorem coerce_mime {mime : Option String} (h : (v.coerce type now).mime = some mime) :
    type = .image ∧ ∃ s data, v = .text s ∧ decodeImage? s.toList = some (data, mime) := by
  unfold Value.coerce at h
  grind

theorem coerce_leftover (h : (v.coerce type now).ok = false) :
    (v.coerce type now).value = v.leftover type := by
  unfold Value.coerce at h ⊢
  grind [leftover]

end Value

namespace Field

variable {now : Instant} {f : Field}

/-- What coercion leaves as `g` of a field `f` that it accepts. -/
structure Accepted (now : Instant) (f g : Field) : Prop where
  /-- Nothing changes without a value, which all but objects may be. -/
  absent : f.hasValue = false → g = f ∧ f.type ≠ .object
  canonical : f.hasValue = true → ∃ v, g.value = some v ∧ v.isNull = false ∧ v.IsCanonical f.type
  again : g.coerce now = (g, none)

/-- What coercion leaves as `g` of a field `f` that it refuses. -/
structure Refused (f g : Field) (e : Failure) : Prop where
  failure : e = f.mismatch
  value : g.value = f.value.map (Value.leftover f.type)
  /-- No value as coercion leaves it is refused, -/
  foreign : ∀ v ∈ f.value, ¬v.IsCanonical f.type
  /-- nor is a text that is strictly a number. -/
  loose : ∀ s, f.type = .number → f.value = some (.text s) → (Lenient.number s).2 = false

theorem Accepted.of_no_value (h : f.hasValue = false) (htype : f.type ≠ .object) :
    Accepted now f f := by
  refine ⟨fun _ => ⟨rfl, htype⟩, fun hvalue => ?_, ?_⟩
  · rw [h] at hvalue
    cases hvalue
  · rw [coerce_of_hasValue_eq_false h, if_neg htype]

theorem Accepted.of_value {v : Value} (hv : f.value = some v) (hnull : v.isNull = false)
    (h : (v.coerce f.type now).ok = true) : Accepted now f (f.coerce now).1 := by
  have hcanonical := Value.isCanonical_of_coerce h
  have hkept : (v.coerce f.type now).value.isNull = false := Value.coerce_isNull hnull
  rw [coerce_of_value hv hnull]
  refine ⟨fun hnone => ?_, fun _ => ⟨_, rfl, hkept, hcanonical⟩, ?_⟩
  · have hvalue : f.hasValue = true := hasValue_iff.mpr ⟨v, hv, hnull⟩
    rw [hvalue] at hnone
    cases hnone
  · rw [coerce_of_value rfl hkept]
    simp only [hcanonical.coerce]
    rfl

theorem eq_null_of_no_value {v : Value} (h : f.hasValue = false) (hv : f.value = some v) :
    v = .null := by
  have hnull : v.isNull = true := by simpa [hasValue, hv] using h
  exact v.isNull_iff.mp hnull

theorem Refused.of_no_value (h : f.hasValue = false) (htype : f.type = .object) :
    Refused f f f.mismatch := by
  refine ⟨rfl, ?_, fun v hv hcanonical => ?_, fun s hnumber => ?_⟩
  · cases hv : f.value with
    | none => rfl
    | some v =>
      rw [eq_null_of_no_value h hv, htype]
      rfl
  · have hobject := hcanonical.hasType
    rw [eq_null_of_no_value h hv, htype] at hobject
    cases hobject
  · rw [htype] at hnumber
    cases hnumber

theorem Refused.of_value {v : Value} (hv : f.value = some v) (hnull : v.isNull = false)
    (h : (v.coerce f.type now).ok = false) : Refused f (f.coerce now).1 f.mismatch := by
  refine ⟨rfl, ?_, fun w hw hcanonical => ?_, fun s htype hs => ?_⟩
  · rw [coerce_of_value hv hnull, hv, Value.coerce_leftover h]
    rfl
  · have hvw : v = w := Option.some.inj (hv.symm.trans hw)
    rw [hvw, hcanonical.coerce] at h
    cases h
  · have hvs : v = .text s := Option.some.inj (hv.symm.trans hs)
    rw [hvs, htype] at h
    exact h

theorem coerce_frame (now : Instant) (f : Field) : (f.coerce now).1 =
    { f with value := (f.coerce now).1.value, mime := (f.coerce now).1.mime } := by
  unfold coerce
  split <;> rfl

theorem coerce_mime (now : Instant) (f : Field) : (f.coerce now).1.mime = f.mime ∨
    ∃ s data, f.type = .image ∧ f.value = some (.text s) ∧
      decodeImage? s.toList = some (data, (f.coerce now).1.mime) := by
  cases hvalue : f.hasValue with
  | false => exact .inl (by rw [coerce_of_no_value hvalue])
  | true =>
    obtain ⟨v, hv, hnull⟩ := hasValue_iff.mp hvalue
    rw [coerce_of_value hv hnull]
    cases hmime : (v.coerce f.type now).mime with
    | none => exact .inl rfl
    | some mime =>
      obtain ⟨htype, s, data, rfl, hdecode⟩ := Value.coerce_mime hmime
      exact .inr ⟨s, data, htype, hv, hdecode⟩

/-- Coercion settles a field: what it accepts is left alone when it is coerced again, and what it
refuses fails for its type and keeps its value, but for the text of a number. Nothing else of the
field changes, except that a decoded image brings its mime type. -/
theorem coerce_settles (now : Instant) (f : Field) :
    (f.coerce now).1 =
      { f with value := (f.coerce now).1.value, mime := (f.coerce now).1.mime } ∧
    ((f.coerce now).1.mime = f.mime ∨ ∃ s data, f.type = .image ∧ f.value = some (.text s) ∧
      decodeImage? s.toList = some (data, (f.coerce now).1.mime)) ∧
    match (f.coerce now).2 with
    | none => Accepted now f (f.coerce now).1
    | some e => Refused f (f.coerce now).1 e := by
  refine ⟨coerce_frame now f, coerce_mime now f, ?_⟩
  cases hvalue : f.hasValue with
  | false =>
    rw [coerce_of_hasValue_eq_false hvalue]
    by_cases htype : f.type = .object
    · rw [if_pos htype]
      exact .of_no_value hvalue htype
    · rw [if_neg htype]
      exact .of_no_value hvalue htype
  | true =>
    obtain ⟨v, hv, hnull⟩ := hasValue_iff.mp hvalue
    have hfailed : (f.coerce now).2 =
        if (v.coerce f.type now).ok then none else some f.mismatch := by
      rw [coerce_of_value hv hnull]
    cases hok : (v.coerce f.type now).ok with
    | true =>
      rw [hok, if_pos rfl] at hfailed
      rw [hfailed]
      exact .of_value hv hnull hok
    | false =>
      rw [hok, if_neg Bool.false_ne_true] at hfailed
      rw [hfailed]
      exact .of_value hv hnull hok

end Field
end FieldRules
