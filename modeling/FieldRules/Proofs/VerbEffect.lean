import FieldRules.Verb.Table
import FieldRules.Proofs.Bind

namespace FieldRules

theorem Field.verify_ok {f g : Field} {ok : Bool} {e : Failure} (h : f.verify ok e = .ok g) :
    g = f := by
  cases ok with
  | true => exact (Except.ok.inj h).symm
  | false => cases h

theorem Field.exists_verify_ok_iff {f : Field} {ok : Bool} {e : Failure} :
    (∃ g, f.verify ok e = .ok g) ↔ ok = true := by
  cases ok <;> simp [verify]

theorem Field.verify_error {f : Field} {ok : Bool} {e e' : Failure}
    (h : f.verify ok e = .error e') : e' = e := by
  cases ok with
  | true => cases h
  | false => exact (Except.error.inj h).symm

theorem SharedVerb.run_ok {v : SharedVerb} {now : Instant} {d : Document} {f g : Field}
    (h : v.run now d f = .ok g) : g = f ∨ g = { f with nullable := true } := by
  cases v with
  | nullable => exact .inr (Except.ok.inj h).symm
  | present => exact .inl (Field.verify_ok h)
  | required => exact .inl (Field.verify_ok h)
  | requiredWith =>
    simp only [run] at h
    split at h
    · cases h
    · exact .inl (Field.verify_ok h)
  | requiredWithout =>
    simp only [run] at h
    split at h
    · cases h
    · exact .inl (Field.verify_ok h)
  | confirmed =>
    simp only [run] at h
    split at h
    · exact .inl (Field.verify_ok h)
    · cases h

/-- Kinds of the failures of verbs of every type. -/
def SharedVerb.failureKinds : List String :=
  ["present", "required", "requiredWith", "requiredWithAll", "requiredWithout",
    "requiredWithoutAll", "confirmed", Failure.genericKind]

theorem SharedVerb.requiredBecause_kind (kind : String) (f : Field) :
    (requiredBecause kind f).kind = if 1 < f.args.length then kind ++ "All" else kind := rfl

theorem SharedVerb.run_error_kind {v : SharedVerb} {now : Instant} {d : Document} {f : Field}
    {e : Failure} (h : v.run now d f = .error e) : e.kind ∈ failureKinds := by
  cases v with
  | nullable => cases h
  | present =>
    rw [Field.verify_error h]
    simp [failureKinds, Field.fail, Failure.ofField]
  | required =>
    rw [Field.verify_error h]
    simp [failureKinds, Field.fail, Failure.ofField]
  | requiredWith =>
    simp only [run] at h
    split at h
    · cases h
      simp [failureKinds, Field.invalid, Failure.invalid, Failure.ofField]
    · rw [Field.verify_error h, requiredBecause_kind]
      split <;> simp [failureKinds]
  | requiredWithout =>
    simp only [run] at h
    split at h
    · cases h
      simp [failureKinds, Field.invalid, Failure.invalid, Failure.ofField]
    · rw [Field.verify_error h, requiredBecause_kind]
      split <;> simp [failureKinds]
  | confirmed =>
    simp only [run] at h
    split at h
    · rw [Field.verify_error h]
      simp [failureKinds, Field.fail, Failure.ofField]
    · cases h
      simp [failureKinds, Field.fail, Failure.ofField]

theorem TypeTag.mismatchKind_not_mem (type : TypeTag) :
    type.mismatchKind ∉ SharedVerb.failureKinds := by
  cases type <;> decide

namespace TextVerb

theorem check_ok {kind : String} {p : List Char → Bool} {f g : Field}
    (h : check kind p f = .ok g) : g = f := by
  obtain ⟨_, _, h⟩ := bind_ok.mp h
  exact Field.verify_ok h

theorem affix_ok {kind : String} {goes : List Char → List Char → Bool} {f g : Field}
    (h : affix kind goes f = .ok g) : g = f := by
  unfold affix at h
  split at h
  · cases h
  · obtain ⟨_, _, h⟩ := bind_ok.mp h
    exact Field.verify_ok h

theorem bound_ok {kind : String} {holds : Nat → Nat → Bool} {f g : Field}
    (h : bound kind holds f = .ok g) : g = f := by
  obtain ⟨_, _, h⟩ := bind_ok.mp h
  obtain ⟨_, _, h⟩ := bind_ok.mp h
  exact Field.verify_ok h

theorem run_ok {v : TextVerb} {now : Instant} {d : Document} {f g : Field}
    (h : v.run now d f = .ok g) : g = f := by
  cases v with
  | oneOf =>
    obtain ⟨_, _, h⟩ := bind_ok.mp h
    exact Field.verify_ok h
  | noneOf =>
    obtain ⟨_, _, h⟩ := bind_ok.mp h
    exact Field.verify_ok h
  | inArray =>
    obtain ⟨_, _, h⟩ := bind_ok.mp h
    obtain ⟨_, _, h⟩ := bind_ok.mp h
    exact Field.verify_ok h
  | between =>
    obtain ⟨_, _, h⟩ := bind_ok.mp h
    obtain ⟨_, _, h⟩ := bind_ok.mp h
    obtain ⟨_, _, h⟩ := bind_ok.mp h
    exact Field.verify_ok h
  | regex =>
    obtain ⟨_, _, h⟩ := bind_ok.mp h
    exact check_ok h
  | notRegex =>
    obtain ⟨_, _, h⟩ := bind_ok.mp h
    exact check_ok h
  | same =>
    obtain ⟨_, _, h⟩ := bind_ok.mp h
    exact Field.verify_ok h
  | different =>
    obtain ⟨_, _, h⟩ := bind_ok.mp h
    exact Field.verify_ok h
  | size => exact bound_ok h
  | min => exact bound_ok h
  | max => exact bound_ok h
  | contains => exact affix_ok h
  | startsWith => exact affix_ok h
  | endsWith => exact affix_ok h
  | _ =>
    simp only [run] at h
    exact check_ok h

end TextVerb

namespace NumberVerb

theorem bound_ok {kind : String} {holds : Float → Float → Bool} {f g : Field}
    (h : bound kind holds f = .ok g) : g = f := by
  obtain ⟨_, _, h⟩ := bind_ok.mp h
  obtain ⟨_, _, h⟩ := bind_ok.mp h
  exact Field.verify_ok h

theorem search_ok {f g : Field} {x : Float} {i left : Nat} (h : search f x i left = .ok g) :
    g = f := by
  induction left generalizing i with
  | zero => cases h
  | succ left ih =>
    obtain ⟨_, _, h⟩ := bind_ok.mp h
    split at h
    · exact (Except.ok.inj h).symm
    · exact ih h

/-- Digits of the value of the field cannot be counted to an end. -/
def EndlessCount (f : Field) : Prop := ∃ x, f.number = .ok x ∧ digitCount? x = none

theorem counted_of_endless {f : Field} (check : Nat → Except Failure Field)
    (h : EndlessCount f) : counted f check = .ok { f with endless := true } := by
  obtain ⟨x, hx, hcount⟩ := h
  refine bind_ok.mpr ⟨x, hx, ?_⟩
  rw [hcount]
  rfl

theorem counted_ok {f g : Field} {check : Nat → Except Failure Field}
    (h : counted f check = .ok g) :
    (∃ count, check count = .ok g) ∨ EndlessCount f ∧ g = { f with endless := true } := by
  obtain ⟨x, hx, h⟩ := bind_ok.mp h
  cases hcount : digitCount? x with
  | none =>
    rw [hcount] at h
    exact .inr ⟨⟨x, hx, hcount⟩, (Except.ok.inj h).symm⟩
  | some count =>
    rw [hcount] at h
    exact .inl ⟨count, h⟩

/-- Of the verbs that pass, `integer` changes the value, and one that counts digits may never
end. -/
theorem run_ok {v : NumberVerb} {now : Instant} {d : Document} {f g : Field}
    (h : v.run now d f = .ok g) :
    g = f ∨ (v = integer ∧ ∃ n, g = { f with value := some (.integer n) }) ∨
      (v = digits ∨ v = digitsBetween) ∧ EndlessCount f ∧ g = { f with endless := true } := by
  cases v with
  | digits =>
    obtain ⟨_, _, h⟩ := bind_ok.mp h
    rcases counted_ok h with ⟨_, h⟩ | hends
    · exact .inl (Field.verify_ok h)
    · exact .inr (.inr ⟨.inl rfl, hends⟩)
  | digitsBetween =>
    obtain ⟨_, _, h⟩ := bind_ok.mp h
    obtain ⟨_, _, h⟩ := bind_ok.mp h
    rcases counted_ok h with ⟨_, h⟩ | hends
    · exact .inl (Field.verify_ok h)
    · exact .inr (.inr ⟨.inr rfl, hends⟩)
  | integer =>
    obtain ⟨_, _, h⟩ := bind_ok.mp h
    exact .inr (.inl ⟨rfl, _, (Except.ok.inj h).symm⟩)
  | between =>
    obtain ⟨_, _, h⟩ := bind_ok.mp h
    obtain ⟨_, _, h⟩ := bind_ok.mp h
    obtain ⟨_, _, h⟩ := bind_ok.mp h
    exact .inl (Field.verify_ok h)
  | oneOf =>
    obtain ⟨_, _, h⟩ := bind_ok.mp h
    exact .inl (search_ok h)
  | _ => exact .inl (bound_ok h)

end NumberVerb

theorem DateVerb.run_ok {v : DateVerb} {now : Instant} {d : Document} {f g : Field}
    (h : v.run now d f = .ok g) : g = f := by
  cases v with
  | between =>
    obtain ⟨_, _, h⟩ := bind_ok.mp h
    obtain ⟨_, _, h⟩ := bind_ok.mp h
    obtain ⟨_, _, h⟩ := bind_ok.mp h
    exact Field.verify_ok h
  | _ =>
    obtain ⟨_, _, h⟩ := bind_ok.mp h
    obtain ⟨_, _, h⟩ := bind_ok.mp h
    exact Field.verify_ok h

end FieldRules
