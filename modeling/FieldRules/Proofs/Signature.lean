import FieldRules.Proofs.BuiltInVerb
import FieldRules.Proofs.FailedField

namespace FieldRules

namespace Failure

/-- The kind of a failure and the number of its parameters. -/
def signature (e : Failure) : String × Nat := (e.kind, e.params.length)

/-- Signatures of all failures that the library reports, in the order of its bundles. -/
def signatures : List (String × Nat) := [
  ("present", 1),
  ("required", 1),
  ("requiredWith", 2),
  ("requiredWithAll", 2),
  ("requiredWithout", 2),
  ("requiredWithoutAll", 2),
  ("confirmed", 1),
  ("none", 1),
  ("same", 2),
  ("different", 2),
  ("string.national", 1),
  ("string.filled", 1),
  ("string.in", 1),
  ("string.inArray", 2),
  ("string.notIn", 1),
  ("string.url", 1),
  ("string.uuid", 1),
  ("string.email", 1),
  ("string.mobile", 1),
  ("string.phone", 1),
  ("string.ip", 1),
  ("string.ipv4", 1),
  ("string.ipv6", 1),
  ("string.json", 1),
  ("string.size", 2),
  ("string.min", 2),
  ("string.max", 2),
  ("string.between", 3),
  ("string.regex", 1),
  ("string.username", 1),
  ("string.alphaNum", 1),
  ("string.persian", 1),
  ("string.alpha", 1),
  ("string.startsWith", 2),
  ("string.endsWith", 2),
  ("string.contains", 2),
  ("number.digits", 2),
  ("number.digitsBetween", 3),
  ("number.greaterThan", 2),
  ("number.greaterThanOrEqual", 2),
  ("number.lessThan", 2),
  ("number.lessThanOrEqual", 2),
  ("number.between", 3),
  ("number.in", 1),
  ("date.after", 3),
  ("date.before", 3),
  ("date.between", 4),
  ("type.string", 1),
  ("type.array", 1),
  ("type.object", 1),
  ("type.number", 1),
  ("type.bool", 1),
  ("type.file", 1),
  ("type.image", 1),
  ("type.date", 1),
  ("type.none", 1)]

/-- The failure is one that the library reports. -/
def Listed (e : Failure) : Prop := e.signature ∈ signatures

@[simp] theorem listed_iff {e : Failure} : e.Listed ↔ e.signature ∈ signatures := Iff.rfl

theorem withParam_signature (e : Failure) (p : Param) :
    (e.withParam p).signature = (e.signature.1, e.signature.2 + 1) := by
  simp [signature, withParam]

@[simp] theorem withText_signature (e : Failure) (s : String) :
    (e.withText s).signature = (e.signature.1, e.signature.2 + 1) := e.withParam_signature _

@[simp] theorem withField_signature (e : Failure) (name : String) :
    (e.withField name).signature = (e.signature.1, e.signature.2 + 1) := e.withParam_signature _

end Failure

@[simp] theorem Field.fail_signature (f : Field) (kind : String) :
    (f.fail kind).signature = (kind, 1) := rfl

@[simp] theorem Field.invalid_signature (f : Field) : f.invalid.signature = ("none", 1) := rfl

/-- The computation fails with listed failures only. -/
def FailsListed {α : Type} (x : Except Failure α) : Prop := ∀ e, x = .error e → e.Listed

section Parts

variable {α β : Type} {f : Field} {e : Failure}

theorem failsListed_ok (a : α) : FailsListed (.ok a : Except Failure α) := fun _ h => nomatch h

theorem failsListed_error (h : e.Listed) : FailsListed (.error e : Except Failure α) := by
  intro e' he
  cases he
  exact h

theorem FailsListed.bind {x : Except Failure α} {k : α → Except Failure β} (hx : FailsListed x)
    (hk : ∀ a, FailsListed (k a)) : FailsListed (x >>= k) := by
  intro e h
  rcases bind_error.mp h with h | ⟨a, -, h⟩
  · exact hx e h
  · exact hk a e h

namespace Field

theorem verify_listed {ok : Bool} (h : e.Listed) : FailsListed (f.verify ok e) := by
  intro e' he
  rw [verify_error he]
  exact h

theorem invalid_listed (f : Field) : f.invalid.Listed := by simp [Failure.signatures]

theorem require_listed (f : Field) (o : Option α) : FailsListed (f.require o) := by
  cases o with
  | none => exact failsListed_error f.invalid_listed
  | some a => exact failsListed_ok a

theorem arg_listed (f : Field) (i : Nat) : FailsListed (f.arg i) := f.require_listed _

theorem argNumber_listed (f : Field) (i : Nat) : FailsListed (f.argNumber i) :=
  (f.arg_listed i).bind fun _ => f.require_listed _

theorem argCount_listed (f : Field) (i : Nat) : FailsListed (f.argCount i) :=
  (f.arg_listed i).bind fun _ => f.require_listed _

theorem text_listed (f : Field) : FailsListed f.text := f.require_listed _

theorem number_listed (f : Field) : FailsListed f.number := f.require_listed _

theorem instant_listed (f : Field) : FailsListed f.instant := f.require_listed _

theorem mismatch_listed (f : Field) : f.mismatch.Listed := by
  cases h : f.type <;> simp [mismatch, h, TypeTag.mismatchKind, Failure.signatures]

end Field
end Parts

section Verbs

variable {now : Instant} {d : Document} {f : Field}

namespace SharedVerb

theorem requiredBecause_listed {kind : String} (hone : (kind, 2) ∈ Failure.signatures)
    (hmore : (kind ++ "All", 2) ∈ Failure.signatures) : (requiredBecause kind f).Listed := by
  change (if 1 < f.args.length then kind ++ "All" else kind, 2) ∈ Failure.signatures
  split
  · exact hmore
  · exact hone

theorem run_listed (v : SharedVerb) : FailsListed (v.run now d f) := by
  cases v with
  | nullable => exact failsListed_ok _
  | present => exact Field.verify_listed (by simp [Failure.signatures])
  | required => exact Field.verify_listed (by simp [Failure.signatures])
  | requiredWith =>
    simp only [run]
    split
    · exact failsListed_error f.invalid_listed
    · exact Field.verify_listed
        (requiredBecause_listed (by simp [Failure.signatures]) (by simp [Failure.signatures]))
  | requiredWithout =>
    simp only [run]
    split
    · exact failsListed_error f.invalid_listed
    · exact Field.verify_listed
        (requiredBecause_listed (by simp [Failure.signatures]) (by simp [Failure.signatures]))
  | confirmed =>
    simp only [run]
    split
    · exact Field.verify_listed (by simp [Failure.signatures])
    · exact failsListed_error (by simp [Failure.signatures])

end SharedVerb

namespace TextVerb

theorem check_listed {kind : String} (p : List Char → Bool)
    (h : (kind, 1) ∈ Failure.signatures) : FailsListed (check kind p f) :=
  f.text_listed.bind fun _ => Field.verify_listed h

theorem affix_listed {kind : String} (goes : List Char → List Char → Bool)
    (h : (kind, 2) ∈ Failure.signatures) : FailsListed (affix kind goes f) := by
  unfold affix
  split
  · exact failsListed_error f.invalid_listed
  · exact f.text_listed.bind fun _ => Field.verify_listed h

theorem length_listed (f : Field) : FailsListed (length f) :=
  f.text_listed.bind fun _ => failsListed_ok _

theorem bound_listed {kind : String} (holds : Nat → Nat → Bool)
    (h : (kind, 2) ∈ Failure.signatures) : FailsListed (bound kind holds f) :=
  (f.argCount_listed 0).bind fun _ => (length_listed f).bind fun _ => Field.verify_listed h

theorem pair_listed (d : Document) (f : Field) : FailsListed (pair d f) := by
  refine (f.arg_listed 0).bind fun other => ?_
  split
  · exact failsListed_ok _
  · exact failsListed_error f.invalid_listed

theorem pattern_listed (f : Field) : FailsListed (pattern f) :=
  (f.arg_listed 0).bind fun _ => f.require_listed _

theorem alphaKind_listed (args : List String) : (alphaKind args, 1) ∈ Failure.signatures := by
  unfold alphaKind
  split <;> simp [Failure.signatures]

theorem run_listed (v : TextVerb) : FailsListed (v.run now d f) := by
  unfold run
  cases v with
  | national => exact check_listed _ (by simp [Failure.signatures])
  | filled => exact check_listed _ (by simp [Failure.signatures])
  | json => exact check_listed _ (by simp [Failure.signatures])
  | url => exact check_listed _ (by simp [Failure.signatures])
  | uuid => exact check_listed _ (by simp [Failure.signatures])
  | ip => exact check_listed _ (by simp [Failure.signatures])
  | ipv4 => exact check_listed _ (by simp [Failure.signatures])
  | ipv6 => exact check_listed _ (by simp [Failure.signatures])
  | email => exact check_listed _ (by simp [Failure.signatures])
  | mobile => exact check_listed _ (by simp [Failure.signatures])
  | phone => exact check_listed _ (by simp [Failure.signatures])
  | oneOf => exact f.text_listed.bind fun _ => Field.verify_listed (by simp [Failure.signatures])
  | noneOf => exact f.text_listed.bind fun _ => Field.verify_listed (by simp [Failure.signatures])
  | inArray =>
    exact (f.arg_listed 0).bind fun _ => f.text_listed.bind fun _ =>
      Field.verify_listed (by simp [Failure.signatures])
  | size => exact bound_listed _ (by simp [Failure.signatures])
  | min => exact bound_listed _ (by simp [Failure.signatures])
  | max => exact bound_listed _ (by simp [Failure.signatures])
  | between =>
    exact (f.argCount_listed 0).bind fun _ => (f.argCount_listed 1).bind fun _ =>
      (length_listed f).bind fun _ => Field.verify_listed (by simp [Failure.signatures])
  | username => exact check_listed _ (by simp [Failure.signatures])
  | alphaNum => exact check_listed _ (by simp [Failure.signatures])
  | alpha => exact check_listed _ (alphaKind_listed f.args)
  | regex =>
    exact (pattern_listed f).bind fun _ => check_listed _ (by simp [Failure.signatures])
  | notRegex =>
    exact (pattern_listed f).bind fun _ => check_listed _ (by simp [Failure.signatures])
  | contains => exact affix_listed _ (by simp [Failure.signatures])
  | startsWith => exact affix_listed _ (by simp [Failure.signatures])
  | endsWith => exact affix_listed _ (by simp [Failure.signatures])
  | same =>
    exact (pair_listed d f).bind fun _ => Field.verify_listed (by simp [Failure.signatures])
  | different =>
    exact (pair_listed d f).bind fun _ => Field.verify_listed (by simp [Failure.signatures])

end TextVerb

namespace NumberVerb

theorem bound_listed {kind : String} (holds : Float → Float → Bool)
    (h : (kind, 2) ∈ Failure.signatures) : FailsListed (bound kind holds f) :=
  (f.argNumber_listed 0).bind fun _ => f.number_listed.bind fun _ => Field.verify_listed h

theorem counted_listed {check : Nat → Except Failure Field}
    (h : ∀ count, FailsListed (check count)) : FailsListed (counted f check) := by
  refine f.number_listed.bind fun x => ?_
  cases digitCount? x with
  | none => exact failsListed_ok _
  | some count => exact h count

theorem search_listed (f : Field) (x : Float) (i left : Nat) :
    FailsListed (search f x i left) := by
  induction left generalizing i with
  | zero => exact failsListed_error (by simp [Failure.signatures])
  | succ left ih =>
    refine (f.argNumber_listed i).bind fun y => ?_
    split
    · exact failsListed_ok _
    · exact ih (i + 1)

theorem run_listed (v : NumberVerb) : FailsListed (v.run now d f) := by
  cases v with
  | digits =>
    exact (f.argCount_listed 0).bind fun _ => counted_listed fun _ =>
      Field.verify_listed (by simp [Failure.signatures])
  | digitsBetween =>
    exact (f.argCount_listed 0).bind fun _ => (f.argCount_listed 1).bind fun _ =>
      counted_listed fun _ => Field.verify_listed (by simp [Failure.signatures])
  | integer => exact f.number_listed.bind fun _ => failsListed_ok _
  | greaterThan => exact bound_listed _ (by simp [Failure.signatures])
  | greaterThanOrEqual => exact bound_listed _ (by simp [Failure.signatures])
  | lessThan => exact bound_listed _ (by simp [Failure.signatures])
  | lessThanOrEqual => exact bound_listed _ (by simp [Failure.signatures])
  | between =>
    exact (f.argNumber_listed 0).bind fun _ => (f.argNumber_listed 1).bind fun _ =>
      f.number_listed.bind fun _ => Field.verify_listed (by simp [Failure.signatures])
  | oneOf => exact f.number_listed.bind fun x => search_listed f x 0 _

end NumberVerb

namespace DateVerb

theorem argInstant_listed (now : Instant) (f : Field) (i : Nat) :
    FailsListed (argInstant now f i) :=
  (f.arg_listed i).bind fun _ => f.require_listed _

theorem foldl_withText_signature {ι : Type} (text : ι → String) (xs : List ι) (e : Failure) :
    (xs.foldl (fun e x => e.withText (text x)) e).signature =
      (e.signature.1, e.signature.2 + xs.length) := by
  induction xs generalizing e with
  | nil => rfl
  | cons x xs ih =>
    rw [List.foldl_cons, ih, Failure.withText_signature, List.length_cons, Nat.add_right_comm]
    rfl

@[simp] theorem outOfRange_signature (f : Field) (kind : String) (t : Instant)
    (bounds : List Instant) :
    (outOfRange f kind t bounds).signature = (kind, bounds.length + 2) := by
  rw [outOfRange, foldl_withText_signature, Field.fail_signature]
  simp [Nat.add_left_comm]

theorem run_listed (v : DateVerb) : FailsListed (v.run now d f) := by
  cases v with
  | after =>
    exact (argInstant_listed now f 0).bind fun _ => f.instant_listed.bind fun _ =>
      Field.verify_listed (by simp [Failure.signatures])
  | before =>
    exact (argInstant_listed now f 0).bind fun _ => f.instant_listed.bind fun _ =>
      Field.verify_listed (by simp [Failure.signatures])
  | between =>
    exact (argInstant_listed now f 0).bind fun _ => (argInstant_listed now f 1).bind fun _ =>
      f.instant_listed.bind fun _ => Field.verify_listed (by simp [Failure.signatures])

end DateVerb

theorem Verb.run_listed (v : Verb) : FailsListed (v.run now d f) := by
  cases v with
  | shared v => exact v.run_listed
  | text v => exact v.run_listed
  | number v => exact v.run_listed
  | date v => exact v.run_listed

namespace Registry

theorem performShared_listed (f : Field) (c : Call) :
    FailsListed (standard.performShared now d f c) := by
  unfold performShared
  split
  · exact failsListed_ok _
  · rename_i run hrun
    obtain ⟨v, -, rfl⟩ := shared?_standard.mp hrun
    exact v.run_listed

theorem performTyped_listed (type : TypeTag) (f : Field) (verb : String) :
    FailsListed (standard.performTyped now d type f verb) := by
  unfold performTyped
  split
  · exact failsListed_ok _
  · rename_i run hrun
    obtain ⟨v, -, -, rfl⟩ := exists_verb (.inr hrun)
    split
    · exact v.run_listed
    · exact failsListed_ok _

theorem perform_listed {type : TypeTag} {c : Call} {e : Failure}
    (h : standard.perform now d type f c = .error (.failed e)) : e.Listed := by
  rcases perform_failed.mp h with h | ⟨m, -, -, h⟩
  · exact performShared_listed f c e h
  · exact performTyped_listed type m c.verb e h

/-- Calls leave a field with a listed failure if it had none or a listed one before. -/
theorem runCalls_listed {calls : List Call} {e : Failure} (hends : f.endless = false)
    (hf : ∀ e, f.failure = some e → e.Listed)
    (h : (standard.runCalls now d f calls).outcome = .error e) : e.Listed := by
  cases hfailure : f.failure with
  | none =>
    rcases runCalls_of_passing calls hfailure hends with
      ⟨g, -, hok⟩ | ⟨xs, c, ys, -, -, ⟨e', ⟨g, -, hc⟩, herror⟩ | ⟨g, -, -, hendless⟩⟩
    · cases h.symm.trans hok
    · cases h.symm.trans herror
      exact perform_listed hc
    · cases h.symm.trans hendless
  | some first =>
    rcases runCalls_of_failed standard_keeps_failure standard_sharedEnd calls hfailure hends with
      ⟨-, hkept⟩ | ⟨e', ⟨xs, c, ys, -, g, -, hc⟩, hnew⟩
    · cases h.symm.trans hkept
      exact hf e hfailure
    · cases h.symm.trans hnew
      exact performShared_listed g c e hc

/-- A rule fails only in the ways that the library lists. -/
theorem outcome_listed {rule : String} {e : Failure}
    (h : standard.outcome now d rule = some (.error e)) : e.Listed := by
  obtain ⟨head, rest, -, hrun⟩ := outcome_eq_some h
  refine runCalls_listed (Field.declare_endless rfl) (fun e' he' => ?_) hrun
  obtain ⟨type, rfl⟩ := Field.declare_failure rfl rfl he'
  exact Field.mismatch_listed _

end Registry

end Verbs

end FieldRules
