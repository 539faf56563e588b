import FieldRules.Proofs.CanonicalValue
import FieldRules.Proofs.LenientNumber

namespace FieldRules

namespace Lenient

/-- The text has a digit of one of the three scripts. -/
def HasDigit (text : String) : Prop := ∃ c ∈ text.toList, (value? c).isSome

/-- The text is not empty and has points and minus signs only. -/
structure IsDigitless (text : String) : Prop where
  ne_empty : text ≠ ""
  all : ∀ c ∈ text.toList, c = '.' ∨ c = '-'

theorem value?_point : value? '.' = none := by decide

theorem IsDigitless.not_hasDigit {text : String} (h : IsDigitless text) : ¬HasDigit text := by
  rintro ⟨c, hc, hdigit⟩
  rcases h.all c hc with rfl | rfl
  · simp [value?_point] at hdigit
  · simp [value?_minus] at hdigit

/-- Of the texts without a digit these alone are strict. -/
theorem strict_without_digit_iff (text : String) :
    (number text).2 = true ∧ ¬HasDigit text ↔ IsDigitless text := by
  rw [number_strict_iff]
  constructor
  · rintro ⟨⟨hne, hall⟩, hdigit⟩
    refine ⟨hne, fun c hc => ?_⟩
    rcases hall c hc with hpoint | hminus | hvalue
    · exact .inl hpoint
    · exact .inr hminus
    · exact absurd ⟨c, hc, hvalue⟩ hdigit
  · intro h
    refine ⟨⟨h.ne_empty, fun c hc => ?_⟩, h.not_hasDigit⟩
    exact (h.all c hc).imp_right Or.inl

/-- Points alone move the place of the next digit and leave the number as it is. -/
theorem foldl_points {ms : List Mark} (h : ∀ m ∈ ms, m = .point) (r : Float × Option Float) :
    (ms.foldl Mark.add r).1 = r.1 := by
  induction ms generalizing r with
  | nil => rfl
  | cons m ms ih =>
    have hm : m = .point := h m (by simp)
    have hadd : (Mark.add r m).1 = r.1 := by
      subst hm
      rfl
    rw [List.foldl_cons, ih (fun k hk => h k (by simp [hk])), hadd]

theorem IsDigitless.marks_eq_point {text : String} (h : IsDigitless text) :
    ∀ m ∈ marks text.toList, m = .point := by
  intro m hm
  obtain ⟨c, hc, hmark⟩ := List.mem_filterMap.mp hm
  rcases h.all c hc with rfl | rfl
  · exact (Option.some.inj hmark).symm
  · simp [mark?, value?_minus] at hmark

/-- Such a text is read as zero, of the sign that it has. -/
theorem IsDigitless.number {text : String} (h : IsDigitless text) :
    (number text).1 = if '-' ∈ text.toList then -0.0 else 0.0 := by
  have hzero : magnitude (marks text.toList) = 0.0 := foldl_points h.marks_eq_point (0.0, none)
  rw [number_eq, hzero]

end Lenient

namespace Field

theorem coerce_number_text {now : Instant} {f : Field} {s : String} (htype : f.type = .number)
    (hvalue : f.value = some (.text s)) :
    f.coerce now = ({ f with value := some (.number (Lenient.number s).1) },
      if (Lenient.number s).2 then none else some f.mismatch) := by
  rw [coerce_of_value hvalue rfl, htype]
  rfl

/-- A number field accepts a text that has no digit exactly when it is not empty and has points and
minus signs only, and takes it for zero. -/
theorem digitless_accepted_iff (now : Instant) {f : Field} {s : String} (htype : f.type = .number)
    (hvalue : f.value = some (.text s)) :
    ((f.coerce now).2 = none ∧ ¬Lenient.HasDigit s ↔ Lenient.IsDigitless s) ∧
    (Lenient.IsDigitless s → (f.coerce now).1.value =
      some (.number (if '-' ∈ s.toList then -0.0 else 0.0))) := by
  have hstrict : (f.coerce now).2 = none ↔ (Lenient.number s).2 = true := by
    rw [coerce_number_text htype hvalue]
    cases (Lenient.number s).2 <;> simp
  rw [hstrict]
  refine ⟨Lenient.strict_without_digit_iff s, fun hdigitless => ?_⟩
  rw [coerce_number_text htype hvalue, hdigitless.number]

/-- Two minus signs around a point, which read as the negative zero. -/
theorem digitless_accepted_iff_of_signs :
    let f : Field := { name := "a", type := .number, value := some (.text "-.-") }
    (f.coerce ⟨0, 0⟩).2 = none ∧ ¬Lenient.HasDigit "-.-" ∧
      (f.coerce ⟨0, 0⟩).1.value = some (.number (-0.0)) := by
  intro f
  have hdigitless : Lenient.IsDigitless "-.-" := ⟨by decide, by simp⟩
  obtain ⟨hiff, hzero⟩ := digitless_accepted_iff ⟨0, 0⟩ (f := f) (s := "-.-") rfl rfl
  obtain ⟨hok, hdigit⟩ := hiff.mpr hdigitless
  exact ⟨hok, hdigit, hzero hdigitless⟩

/-- A point alone is a number. -/
theorem lone_point_accepted :
    let f : Field := { name := "a", type := .number, value := some (.text ".") }
    f.coerce ⟨0, 0⟩ = ({ f with value := some (.number 0.0) }, none) ∧ ¬Lenient.HasDigit "." := by
  refine ⟨rfl, ?_⟩
  rintro ⟨c, hc, hdigit⟩
  have hpoint : c = '.' := by simpa using hc
  rw [hpoint, Lenient.value?_point] at hdigit
  cases hdigit

end Field
end FieldRules
