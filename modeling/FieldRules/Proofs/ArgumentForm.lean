import FieldRules.Proofs.BuiltInVerb

namespace FieldRules

namespace Argument

/-- How a verb reads an argument. -/
inductive Form where
  | text | count | number | pattern | date
  deriving DecidableEq

/-- The argument is well formed. -/
def Form.accepts (now : Instant) (arg : String) : Form → Bool
  | text => true
  | count => (Text.count? arg.toList).isSome
  | number => (Decimal.float? arg.toList).isSome
  | pattern => (Pattern.ofText? arg.toList).isSome
  | date => (readDatePhrase arg now).toOption.isSome

/-- No argument is missing or malformed; there may be more of them. -/
def fit (now : Instant) : List Form → List String → Bool
  | [], _ => true
  | _ :: _, [] => false
  | form :: forms, arg :: args => form.accepts now arg && fit now forms args

theorem fit_get {now : Instant} {forms : List Form} {args : List String} {i : Nat} {form : Form}
    (h : fit now forms args = true) (hi : forms[i]? = some form) :
    ∃ arg, args[i]? = some arg ∧ form.accepts now arg = true := by
  induction forms generalizing args i with
  | nil => simp at hi
  | cons form' forms ih =>
    cases args with
    | nil => cases h
    | cons arg args =>
      obtain ⟨hform, hrest⟩ := Bool.and_eq_true_iff.mp h
      cases i with
      | zero =>
        cases hi
        exact ⟨arg, rfl, hform⟩
      | succ i =>
        have hi' : forms[i]? = some form := hi
        obtain ⟨b, hb, haccepts⟩ := ih hrest hi'
        exact ⟨b, hb, haccepts⟩

/-- There is an argument at the place, and it is well formed. -/
def given (now : Instant) (args : List String) (i : Nat) (form : Form) : Bool :=
  args[i]?.any (form.accepts now)

theorem given_of_fit {now : Instant} {forms : List Form} {args : List String} {i : Nat}
    {form : Form} (h : fit now forms args = true) (hi : forms[i]? = some form) :
    given now args i form = true := by
  obtain ⟨arg, harg, haccepts⟩ := fit_get h hi
  rw [given, harg]
  exact haccepts

theorem fit_singleton {now : Instant} {args : List String} {form : Form} :
    fit now [form] args = given now args 0 form := by
  cases args <;> simp [fit, given]

theorem fit_pair {now : Instant} {args : List String} {form form' : Form} :
    fit now [form, form'] args = (given now args 0 form && given now args 1 form') := by
  rcases args with _ | ⟨arg, _ | ⟨arg', rest⟩⟩ <;> simp [fit, given]

end Argument

/-- The arguments that a verb of every type needs. -/
def SharedVerb.forms : SharedVerb → List Argument.Form
  | requiredWith => [.text]
  | requiredWithout => [.text]
  | _ => []

def TextVerb.forms : TextVerb → List Argument.Form
  | inArray => [.text]
  | size => [.count]
  | min => [.count]
  | max => [.count]
  | between => [.count, .count]
  | regex => [.pattern]
  | notRegex => [.pattern]
  | contains => [.text]
  | startsWith => [.text]
  | endsWith => [.text]
  | same => [.text]
  | different => [.text]
  | _ => []

/-- Of the given number of arguments `in` needs all to be numbers. -/
def NumberVerb.forms (given : Nat) : NumberVerb → List Argument.Form
  | digits => [.count]
  | digitsBetween => [.count, .count]
  | integer => []
  | greaterThan => [.number]
  | greaterThanOrEqual => [.number]
  | lessThan => [.number]
  | lessThanOrEqual => [.number]
  | between => [.number, .number]
  | oneOf => List.replicate given .number

def DateVerb.forms : DateVerb → List Argument.Form
  | after => [.date]
  | before => [.date]
  | between => [.date, .date]

def Verb.forms (given : Nat) : Verb → List Argument.Form
  | shared v => v.forms
  | text v => v.forms
  | number v => v.forms given
  | date v => v.forms

@[simp] theorem Field.fail_kind (f : Field) (kind : String) : (f.fail kind).kind = kind := rfl

@[simp] theorem Failure.withText_kind (e : Failure) (s : String) :
    (e.withText s).kind = e.kind := rfl

@[simp] theorem Failure.withField_kind (e : Failure) (name : String) :
    (e.withField name).kind = e.kind := rfl

namespace Field

/-- The computation reads the `i`-th argument: it goes through if the argument is there and of the
form, and fails generically if not. -/
structure Reads {α : Type} (now : Instant) (f : Field) (i : Nat) (form : Argument.Form)
    (x : Except Failure α) : Prop where
  ok : Argument.given now f.args i form = true → ∃ a, x = .ok a
  error : Argument.given now f.args i form = false → x = .error f.invalid

section Readers

variable {α : Type} (now : Instant) (f : Field) (i : Nat)

theorem reads_of_parse {form : Argument.Form} {parse : String → Option α}
    (hparse : ∀ arg, (parse arg).isSome = form.accepts now arg) :
    f.Reads now i form (f.arg i >>= fun arg => f.require (parse arg)) := by
  unfold arg
  cases harg : f.args[i]? with
  | none => exact ⟨fun h => by simp [Argument.given, harg] at h, fun _ => rfl⟩
  | some arg =>
    have hgiven : Argument.given now f.args i form = (parse arg).isSome := by
      rw [Argument.given, harg, hparse, Option.any_some]
    cases hread : parse arg with
    | none =>
      rw [hread] at hgiven
      exact ⟨fun h => absurd (hgiven.symm.trans h) Bool.false_ne_true,
        fun _ => congrArg f.require hread⟩
    | some a =>
      rw [hread] at hgiven
      exact ⟨fun _ => ⟨a, congrArg f.require hread⟩,
        fun h => absurd (h.symm.trans hgiven) Bool.false_ne_true⟩

theorem reads_argCount : f.Reads now i .count (f.argCount i) :=
  reads_of_parse now f i fun _ => rfl

theorem reads_argNumber : f.Reads now i .number (f.argNumber i) :=
  reads_of_parse now f i fun _ => rfl

theorem reads_pattern : f.Reads now 0 .pattern (TextVerb.pattern f) :=
  reads_of_parse now f 0 fun _ => rfl

theorem reads_argInstant : f.Reads now i .date (DateVerb.argInstant now f i) :=
  reads_of_parse now f i fun _ => rfl

/-- A text is read as it stands. -/
theorem reads_arg : f.Reads now i .text (f.arg i) := by
  have hread : f.Reads now i .text (f.arg i >>= fun arg => f.require (some arg)) :=
    reads_of_parse now f i fun _ => rfl
  have hsame : (f.arg i >>= fun arg => f.require (some arg)) = f.arg i := by
    cases f.arg i <;> rfl
  rwa [hsame] at hread

end Readers

theorem Reads.given {α : Type} {now : Instant} {f : Field} {i : Nat} {form : Argument.Form}
    {x : Except Failure α} {a : α} (hx : f.Reads now i form x) (h : x = .ok a) :
    Argument.given now f.args i form = true := by
  by_contra hnone
  rw [hx.error (Bool.not_eq_true _ ▸ hnone)] at h
  cases h

theorem Reads.of_fit {α : Type} {now : Instant} {f : Field} {i : Nat} {form : Argument.Form}
    {forms : List Argument.Form} {x : Except Failure α} (hx : f.Reads now i form x)
    (h : Argument.fit now forms f.args = true) (hi : forms[i]? = some form) : ∃ a, x = .ok a :=
  hx.ok (Argument.given_of_fit h hi)

end Field

/-- The computation fails only with kinds that say more than the generic one. -/
def FailsSpecifically {α : Type} (x : Except Failure α) : Prop :=
  ∀ e, x = .error e → e.kind ≠ Failure.genericKind

theorem FailsSpecifically.bind {α β : Type} {x : Except Failure α} {k : α → Except Failure β}
    (hx : ∃ a, x = .ok a) (hk : ∀ a, FailsSpecifically (k a)) : FailsSpecifically (x >>= k) := by
  obtain ⟨a, ha⟩ := hx
  exact fun e h => hk a e (bind_error_of_ok ha h)

theorem failsSpecifically_ok {α : Type} (a : α) :
    FailsSpecifically (.ok a : Except Failure α) := fun _ h => nomatch h

theorem Field.verify_specific (f : Field) (ok : Bool) {e : Failure}
    (he : e.kind ≠ Failure.genericKind) : FailsSpecifically (f.verify ok e) := by
  intro e' h
  rw [verify_error h]
  exact he

section Failing

variable {now : Instant} {d : Document} {f : Field}

theorem SharedVerb.requiredBecause_specific {kind : String} (h : kind ≠ Failure.genericKind)
    (hall : kind ++ "All" ≠ Failure.genericKind) (f : Field) :
    (requiredBecause kind f).kind ≠ Failure.genericKind := by
  rw [requiredBecause_kind]
  split <;> assumption

theorem SharedVerb.run_specific {v : SharedVerb} (hfit : Argument.fit now v.forms f.args = true) :
    FailsSpecifically (v.run now d f) := by
  cases v with
  | nullable => exact failsSpecifically_ok _
  | present => exact f.verify_specific _ (by simp [Failure.genericKind])
  | required => exact f.verify_specific _ (by simp [Failure.genericKind])
  | requiredWith =>
    simp only [run]
    split
    · rename_i hargs
      rw [hargs] at hfit
      cases hfit
    · exact f.verify_specific _ (requiredBecause_specific (by decide) (by decide) f)
  | requiredWithout =>
    simp only [run]
    split
    · rename_i hargs
      rw [hargs] at hfit
      cases hfit
    · exact f.verify_specific _ (requiredBecause_specific (by decide) (by decide) f)
  | confirmed =>
    simp only [run]
    split
    · exact f.verify_specific _ (by simp [Failure.genericKind])
    · rintro e h
      cases h
      simp [Failure.genericKind]

namespace TextVerb

section

variable {s : String} (htext : f.text = .ok s)
include htext

theorem check_specific {kind : String} (hkind : kind ≠ Failure.genericKind)
    (p : List Char → Bool) : FailsSpecifically (check kind p f) :=
  .bind ⟨s, htext⟩ fun _ => f.verify_specific _ hkind

theorem affix_specific {kind : String} (hkind : kind ≠ Failure.genericKind)
    (goes : List Char → List Char → Bool) (hfit : Argument.fit now [.text] f.args = true) :
    FailsSpecifically (affix kind goes f) := by
  have hargs : f.args ≠ [] := by
    intro hnone
    rw [hnone] at hfit
    cases hfit
  rw [affix, if_neg hargs]
  exact .bind ⟨s, htext⟩ fun _ => f.verify_specific _ hkind

theorem length_of_text : length f = .ok s.length := by
  rw [length, htext]
  rfl

theorem bound_specific {kind : String} (hkind : kind ≠ Failure.genericKind)
    (holds : Nat → Nat → Bool) (hfit : Argument.fit now [.count] f.args = true) :
    FailsSpecifically (bound kind holds f) :=
  .bind ((f.reads_argCount now 0).of_fit hfit rfl) fun _ =>
    .bind ⟨_, length_of_text htext⟩ fun _ => f.verify_specific _ hkind

theorem match_specific {kind : String} (hkind : kind ≠ Failure.genericKind)
    (accepts : Pattern → List Char → Bool) (hfit : Argument.fit now [.pattern] f.args = true) :
    FailsSpecifically (pattern f >>= fun p => check kind (accepts p) f) :=
  .bind ((f.reads_pattern now).of_fit hfit rfl) fun _ => check_specific htext hkind _

end

theorem pair_error {e : Failure} {other : String} (harg : f.arg 0 = .ok other)
    (h : pair d f = .error e) : d.get? f.name = none ∨ d.get? other = none := by
  have h := bind_error_of_ok harg h
  cases hname : d.get? f.name with
  | none => exact .inl rfl
  | some v =>
    cases hother : d.get? other with
    | none => exact .inr rfl
    | some w =>
      rw [hname, hother] at h
      cases h

/-- With both fields there a comparison fails with its own kind. -/
theorem compare_specific {v : TextVerb} {values : String × Value × Value}
    (hv : v.readsDocument = true) (hp : pair d f = .ok values) :
    FailsSpecifically (v.run now d f) := by
  cases v with
  | same => exact .bind ⟨values, hp⟩ fun _ => f.verify_specific _ (by simp [Failure.genericKind])
  | different =>
    exact .bind ⟨values, hp⟩ fun _ => f.verify_specific _ (by simp [Failure.genericKind])
  | _ => cases hv

/-- A comparison fails generically only when one of the two fields is missing. -/
theorem compare_error {v : TextVerb} {e : Failure} (hv : v.readsDocument = true)
    (hfit : Argument.fit now v.forms f.args = true) (h : v.run now d f = .error e)
    (he : e.kind = Failure.genericKind) :
    d.get? f.name = none ∨ ∃ other ∈ f.args.head?, d.get? other = none := by
  have hforms : v.forms[0]? = some .text := by
    cases v with
    | same => rfl
    | different => rfl
    | _ => cases hv
  obtain ⟨other, harg, -⟩ := Argument.fit_get hfit hforms
  have hother : f.arg 0 = .ok other := by
    rw [Field.arg, harg]
    rfl
  cases hp : pair d f with
  | error e' =>
    have hmissing := pair_error hother hp
    rw [← List.head?_eq_getElem?] at harg
    exact hmissing.imp_right fun hnone => ⟨other, harg, hnone⟩
  | ok values => exact absurd he (compare_specific hv hp e h)

theorem run_specific {v : TextVerb} {s : String} (hfit : Argument.fit now v.forms f.args = true)
    (hv : v.readsDocument = false) (htext : f.text = .ok s) :
    FailsSpecifically (v.run now d f) := by
  cases v with
  | same => cases hv
  | different => cases hv
  | oneOf => exact .bind ⟨s, htext⟩ fun _ => f.verify_specific _ (by simp [Failure.genericKind])
  | noneOf => exact .bind ⟨s, htext⟩ fun _ => f.verify_specific _ (by simp [Failure.genericKind])
  | inArray =>
    exact .bind ((f.reads_arg now 0).of_fit hfit rfl) fun _ => .bind ⟨s, htext⟩ fun _ =>
      f.verify_specific _ (by simp [Failure.genericKind])
  | between =>
    exact .bind ((f.reads_argCount now 0).of_fit hfit rfl) fun _ =>
      .bind ((f.reads_argCount now 1).of_fit hfit rfl) fun _ =>
        .bind ⟨_, length_of_text htext⟩ fun _ => f.verify_specific _ (by simp [Failure.genericKind])
  | regex => exact match_specific htext (by decide) (fun p => p.isMatch) hfit
  | notRegex => exact match_specific htext (by decide) (fun p cs => !p.isMatch cs) hfit
  | size => exact bound_specific htext (by decide) _ hfit
  | min => exact bound_specific htext (by decide) _ hfit
  | max => exact bound_specific htext (by decide) _ hfit
  | contains => exact affix_specific htext (by decide) _ hfit
  | startsWith => exact affix_specific htext (by decide) _ hfit
  | endsWith => exact affix_specific htext (by decide) _ hfit
  | alpha =>
    refine check_specific htext ?_ _
    rw [alphaKind]
    split <;> decide
  | _ =>
    simp only [run]
    exact check_specific htext (by decide) _

end TextVerb

namespace NumberVerb

section

variable {x : Float} (hnumber : f.number = .ok x)
include hnumber

theorem bound_specific {kind : String} (hkind : kind ≠ Failure.genericKind)
    (holds : Float → Float → Bool) (hfit : Argument.fit now [.number] f.args = true) :
    FailsSpecifically (bound kind holds f) :=
  .bind ((f.reads_argNumber now 0).of_fit hfit rfl) fun _ =>
    .bind ⟨x, hnumber⟩ fun _ => f.verify_specific _ hkind

theorem counted_specific {check : Nat → Except Failure Field}
    (h : ∀ count, FailsSpecifically (check count)) : FailsSpecifically (counted f check) := by
  refine .bind ⟨x, hnumber⟩ fun y => ?_
  cases digitCount? y with
  | none => exact failsSpecifically_ok _
  | some count => exact h count

end

theorem search_specific {x : Float} {i left : Nat}
    (hargs : ∀ j, i ≤ j → j < i + left → ∃ y, f.argNumber j = .ok y) :
    FailsSpecifically (search f x i left) := by
  induction left generalizing i with
  | zero =>
    rintro e h
    cases h
    simp [Failure.genericKind]
  | succ left ih =>
    refine .bind (hargs i (Nat.le_refl i) (by omega)) fun y => ?_
    split
    · exact failsSpecifically_ok _
    · exact ih fun j hij hj => hargs j (by omega) (by omega)

theorem run_specific {v : NumberVerb} {x : Float}
    (hfit : Argument.fit now (v.forms f.args.length) f.args = true) (hnumber : f.number = .ok x) :
    FailsSpecifically (v.run now d f) := by
  cases v with
  | digits =>
    exact .bind ((f.reads_argCount now 0).of_fit hfit rfl) fun _ =>
      counted_specific hnumber fun _ => f.verify_specific _ (by simp [Failure.genericKind])
  | digitsBetween =>
    exact .bind ((f.reads_argCount now 0).of_fit hfit rfl) fun _ =>
      .bind ((f.reads_argCount now 1).of_fit hfit rfl) fun _ =>
        counted_specific hnumber fun _ => f.verify_specific _ (by simp [Failure.genericKind])
  | integer => exact .bind ⟨x, hnumber⟩ fun _ => failsSpecifically_ok _
  | between =>
    exact .bind ((f.reads_argNumber now 0).of_fit hfit rfl) fun _ =>
      .bind ((f.reads_argNumber now 1).of_fit hfit rfl) fun _ =>
        .bind ⟨x, hnumber⟩ fun _ => f.verify_specific _ (by simp [Failure.genericKind])
  | oneOf =>
    refine .bind ⟨x, hnumber⟩ fun _ => search_specific fun j _ hj => ?_
    refine (f.reads_argNumber now j).of_fit hfit ?_
    rw [forms, List.getElem?_replicate, if_pos (by omega)]
  | greaterThan => exact bound_specific hnumber (by decide) _ hfit
  | greaterThanOrEqual => exact bound_specific hnumber (by decide) _ hfit
  | lessThan => exact bound_specific hnumber (by decide) _ hfit
  | lessThanOrEqual => exact bound_specific hnumber (by decide) _ hfit

end NumberVerb

namespace DateVerb

theorem outOfRange_kind (f : Field) (kind : String) (t : Instant) (bounds : List Instant) :
    (outOfRange f kind t bounds).kind = kind := by
  have hkept (xs : List Instant) (e : Failure) :
      (xs.foldl (fun e b => e.withText (formatDate b)) e).kind = e.kind := by
    induction xs generalizing e with
    | nil => rfl
    | cons b xs ih => exact ih _
  exact hkept (t :: bounds) (f.fail kind)

theorem run_specific {v : DateVerb} {t : Instant} (hfit : Argument.fit now v.forms f.args = true)
    (hinstant : f.instant = .ok t) : FailsSpecifically (v.run now d f) := by
  have hverify (ok : Bool) {kind : String} (hkind : kind ≠ Failure.genericKind)
      (bounds : List Instant) (t : Instant) :
      FailsSpecifically (f.verify ok (outOfRange f kind t bounds)) :=
    f.verify_specific ok (by rwa [outOfRange_kind])
  cases v with
  | between =>
    exact .bind ((f.reads_argInstant now 0).of_fit hfit rfl) fun _ =>
      .bind ((f.reads_argInstant now 1).of_fit hfit rfl) fun _ =>
        .bind ⟨t, hinstant⟩ fun _ => hverify _ (by decide) _ _
  | after =>
    exact .bind ((f.reads_argInstant now 0).of_fit hfit rfl) fun _ =>
      .bind ⟨t, hinstant⟩ fun _ => hverify _ (by decide) _ _
  | before =>
    exact .bind ((f.reads_argInstant now 0).of_fit hfit rfl) fun _ =>
      .bind ⟨t, hinstant⟩ fun _ => hverify _ (by decide) _ _

end DateVerb

end Failing

end FieldRules
