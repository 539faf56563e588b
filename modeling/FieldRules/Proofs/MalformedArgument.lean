import FieldRules.Proofs.GenericFailure
import Mathlib.Data.List.Nodup

namespace FieldRules

namespace Argument

variable {now : Instant} {args : List String}

theorem args_eq_nil_of_unfit (h : fit now [.text] args = false) : args = [] := by
  cases args with
  | nil => rfl
  | cons arg args => cases h

end Argument

namespace Field

variable {α β γ : Type} {now : Instant} {f : Field} {x : Except Failure α} {y : Except Failure β}

/-- What starts by reading a malformed argument fails generically. -/
theorem Reads.bind_of_unfit {form : Argument.Form} {k : α → Except Failure γ}
    (hx : f.Reads now 0 form x) (h : Argument.fit now [form] f.args = false) :
    x >>= k = .error f.invalid := by
  rw [Argument.fit_singleton] at h
  rw [hx.error h]
  rfl

theorem Reads.bind_pair_of_unfit {form form' : Argument.Form} {k : α → β → Except Failure γ}
    (hx : f.Reads now 0 form x) (hy : f.Reads now 1 form' y)
    (h : Argument.fit now [form, form'] f.args = false) :
    (x >>= fun a => y >>= k a) = .error f.invalid := by
  rw [Argument.fit_pair] at h
  cases hgiven : Argument.given now f.args 0 form with
  | false =>
    rw [hx.error hgiven]
    rfl
  | true =>
    obtain ⟨a, ha⟩ := hx.ok hgiven
    rw [hgiven, Bool.true_and] at h
    rw [ha, hy.error h]
    rfl

end Field

section Failing

variable {now : Instant} {d : Document} {f : Field}

theorem SharedVerb.run_of_unfit {v : SharedVerb} (h : Argument.fit now v.forms f.args = false) :
    v.run now d f = .error f.invalid := by
  cases v with
  | requiredWith => exact if_pos (Argument.args_eq_nil_of_unfit h)
  | requiredWithout => exact if_pos (Argument.args_eq_nil_of_unfit h)
  | _ => cases h

theorem TextVerb.affix_of_unfit {kind : String} {goes : List Char → List Char → Bool}
    (h : Argument.fit now [.text] f.args = false) : affix kind goes f = .error f.invalid :=
  if_pos (Argument.args_eq_nil_of_unfit h)

theorem TextVerb.pair_of_unfit (h : Argument.fit now [.text] f.args = false) :
    pair d f = .error f.invalid :=
  (f.reads_arg now 0).bind_of_unfit h

theorem TextVerb.run_of_unfit {v : TextVerb} (h : Argument.fit now v.forms f.args = false) :
    v.run now d f = .error f.invalid := by
  cases v with
  | inArray => exact (f.reads_arg now 0).bind_of_unfit h
  | size => exact (f.reads_argCount now 0).bind_of_unfit h
  | min => exact (f.reads_argCount now 0).bind_of_unfit h
  | max => exact (f.reads_argCount now 0).bind_of_unfit h
  | between => exact (f.reads_argCount now 0).bind_pair_of_unfit (f.reads_argCount now 1) h
  | regex => exact (f.reads_pattern now).bind_of_unfit h
  | notRegex => exact (f.reads_pattern now).bind_of_unfit h
  | contains => exact affix_of_unfit h
  | startsWith => exact affix_of_unfit h
  | endsWith => exact affix_of_unfit h
  | same =>
    rw [run, pair_of_unfit h]
    rfl
  | different =>
    rw [run, pair_of_unfit h]
    rfl
  | _ => cases h

theorem DateVerb.run_of_unfit {v : DateVerb} (h : Argument.fit now v.forms f.args = false) :
    v.run now d f = .error f.invalid := by
  cases v with
  | after => exact (f.reads_argInstant now 0).bind_of_unfit h
  | before => exact (f.reads_argInstant now 0).bind_of_unfit h
  | between => exact (f.reads_argInstant now 0).bind_pair_of_unfit (f.reads_argInstant now 1) h

namespace NumberVerb

theorem run_of_unfit {v : NumberVerb} (hv : v ≠ oneOf)
    (h : Argument.fit now (v.forms f.args.length) f.args = false) :
    v.run now d f = .error f.invalid := by
  cases v with
  | digits => exact (f.reads_argCount now 0).bind_of_unfit h
  | digitsBetween =>
    exact (f.reads_argCount now 0).bind_pair_of_unfit (f.reads_argCount now 1) h
  | integer => cases h
  | greaterThan => exact (f.reads_argNumber now 0).bind_of_unfit h
  | greaterThanOrEqual => exact (f.reads_argNumber now 0).bind_of_unfit h
  | lessThan => exact (f.reads_argNumber now 0).bind_of_unfit h
  | lessThanOrEqual => exact (f.reads_argNumber now 0).bind_of_unfit h
  | between => exact (f.reads_argNumber now 0).bind_pair_of_unfit (f.reads_argNumber now 1) h
  | oneOf => exact absurd rfl hv

/-- The numbers that the arguments are, up to the first that is none. -/
def leadingNumbers : List String → List Float
  | [] => []
  | arg :: args =>
    match Decimal.float? arg.toList with
    | some y => y :: leadingNumbers args
    | none => []

theorem fit_replicate (now : Instant) (args : List String) :
    Argument.fit now (List.replicate args.length .number) args =
      args.all fun arg => (Decimal.float? arg.toList).isSome := by
  induction args with
  | nil => rfl
  | cons arg args ih =>
    rw [List.length_cons, List.replicate_succ, Argument.fit, List.all_cons, ih]
    rfl

/-- A search that does not meet the value fails for the argument that ended it, if one did, and else
for the value. -/
theorem search_eq {x : Float} {i left : Nat} (hlength : i + left = f.args.length) :
    search f x i left =
      if (leadingNumbers (f.args.drop i)).any (· == x) then .ok f
      else if (f.args.drop i).all (fun arg => (Decimal.float? arg.toList).isSome) then
        .error (f.fail "number.in")
      else .error f.invalid := by
  induction left generalizing i with
  | zero =>
    rw [List.drop_of_length_le (by omega)]
    rfl
  | succ left ih =>
    have hi : i < f.args.length := by omega
    have hread : f.argNumber i = f.require (Decimal.float? f.args[i].toList) := by
      rw [Field.argNumber, Field.arg, List.getElem?_eq_getElem hi]
      rfl
    rw [List.drop_eq_getElem_cons hi, search, hread, leadingNumbers, List.all_cons]
    cases hy : Decimal.float? f.args[i].toList with
    | none => rfl
    | some y =>
      have hrest := ih (i := i + 1) (by omega)
      simp only [Field.require, bind, Except.bind, List.any_cons, Bool.or_eq_true,
        Option.isSome_some, Bool.true_and]
      by_cases hyx : (y == x) = true
      · rw [if_pos hyx, if_pos (.inl hyx)]
        rfl
      · simpa [hyx] using hrest

theorem run_oneOf {x : Float} (hnumber : f.number = .ok x) :
    oneOf.run now d f =
      if (leadingNumbers f.args).any (· == x) then .ok f
      else if Argument.fit now (oneOf.forms f.args.length) f.args then .error (f.fail "number.in")
      else .error f.invalid := by
  rw [run, hnumber, forms, fit_replicate]
  exact search_eq (i := 0) (Nat.zero_add _)

theorem run_oneOf_of_unfit {x : Float} (hnumber : f.number = .ok x)
    (h : Argument.fit now (oneOf.forms f.args.length) f.args = false) :
    oneOf.run now d f =
      if (leadingNumbers f.args).any (· == x) then .ok f else .error f.invalid := by
  rw [run_oneOf hnumber, h]
  rfl

end NumberVerb

end Failing

namespace Verb

/-- The verbs that fields of the type have. -/
def ofType (type : TypeTag) : List Verb :=
  SharedVerb.all.map .shared ++
    match type with
    | .string => TextVerb.all.map .text
    | .number => NumberVerb.all.map .number
    | .date => DateVerb.all.map .date
    | _ => []

theorem Serves.mem_ofType {type : TypeTag} {v : Verb} (h : v.Serves type) : v ∈ ofType type := by
  cases v with
  | shared v =>
    have hv : v ∈ SharedVerb.all := by cases v <;> decide
    exact List.mem_append_left _ (List.mem_map_of_mem hv)
  | text v =>
    have hv : v ∈ TextVerb.all := by cases v <;> decide
    cases h
    exact List.mem_append_right _ (List.mem_map_of_mem hv)
  | number v =>
    have hv : v ∈ NumberVerb.all := by cases v <;> decide
    cases h
    exact List.mem_append_right _ (List.mem_map_of_mem hv)
  | date v =>
    have hv : v ∈ DateVerb.all := by cases v <;> decide
    cases h
    exact List.mem_append_right _ (List.mem_map_of_mem hv)

theorem nodup_names_ofType (type : TypeTag) : ((ofType type).map name).Nodup := by
  cases type <;> decide

/-- A name stands for one verb among those of a type. -/
theorem eq_of_name {type : TypeTag} {v w : Verb} (hv : v.Serves type) (hw : w.Serves type)
    (h : v.name = w.name) : v = w :=
  List.inj_on_of_nodup_map (nodup_names_ofType type) hv.mem_ofType hw.mem_ofType h

end Verb

variable {now : Instant} {d : Document} {f : Field} {c : Call}

/-- The call is the number verb `in`, and the value is one of the arguments before the first that is
no number. -/
def Call.FindsEarly (f : Field) (c : Call) : Prop :=
  f.type = .number ∧ c.verb = "in" ∧
    ∃ x, f.number = .ok x ∧ (NumberVerb.leadingNumbers c.args).any (· == x) = true

theorem Call.not_findsEarly_of_verb {v : Verb} (hserves : v.Serves f.type) (hname : v.name = c.verb)
    (hv : v ≠ .number .oneOf) : ¬c.FindsEarly f := by
  rintro ⟨htype, hin, -⟩
  have hone : (Verb.number .oneOf).Serves f.type := htype
  exact hv (Verb.eq_of_name hserves hone (hname.trans hin))

theorem Verb.run_of_unfit {v : Verb} (hv : v ≠ .number .oneOf)
    (h : Argument.fit now (v.forms f.args.length) f.args = false) :
    v.run now d f = .error f.invalid := by
  cases v with
  | shared v => exact SharedVerb.run_of_unfit h
  | text v => exact TextVerb.run_of_unfit h
  | date v => exact DateVerb.run_of_unfit h
  | number v => exact NumberVerb.run_of_unfit (fun hone => hv (hone ▸ rfl)) h

namespace Registry

/-- On a value of its type a verb that is misused fails generically, whatever the value is; only the
number verb `in` passes where it finds the value before the argument that is to blame. -/
theorem misuse_reported_unless_findsEarly {run : Handler} (d : Document)
    (hrun : standard.typed? f.type c.verb = some run) (hvalue : f.HoldsTyped)
    (hmisused : c.Misused now f.type) :
    (¬c.FindsEarly f → run now d (f.begin c.verb c.args) = .error f.invalid) ∧
    (c.FindsEarly f → run now d (f.begin c.verb c.args) = .ok (f.begin c.verb c.args)) := by
  obtain ⟨v, hname, hserves, rfl, -⟩ := exists_verb_of_typed? hrun
  obtain ⟨w, hwname, hwserves, hfit⟩ := hmisused
  obtain rfl := Verb.eq_of_name hwserves hserves (hwname.trans hname.symm)
  by_cases hv : w = .number .oneOf
  · subst hv
    have htype : f.type = .number := hserves
    have hin : c.verb = "in" := hname.symm
    obtain ⟨x, hx⟩ := hvalue.number htype
    have hsearch := NumberVerb.run_oneOf_of_unfit (f := f.begin c.verb c.args) (d := d) hx hfit
    constructor
    · intro hearly
      exact hsearch.trans (if_neg fun hfound => hearly ⟨htype, hin, x, hx, hfound⟩)
    · rintro ⟨-, -, x', hx', hfound⟩
      obtain rfl := Except.ok.inj (hx.symm.trans hx')
      exact hsearch.trans (if_pos hfound)
  · have hfail := Verb.run_of_unfit (f := f.begin c.verb c.args) (d := d) hv hfit
    exact ⟨fun _ => hfail,
      fun hearly => absurd hearly (Call.not_findsEarly_of_verb hserves hname hv)⟩

/-- One misused call on two numbers: the one after the malformed argument is not looked at, the one
before it is found. -/
theorem misuse_reported_unless_findsEarly_of_letter :
    let c : Call := ⟨"in", ["2", "x", "1"], true⟩
    let one : Field := { name := "a", type := .number, value := some (.number 1.0) }
    let two : Field := { name := "a", type := .number, value := some (.number 2.0) }
    c.Misused ⟨0, 0⟩ .number ∧
      NumberVerb.oneOf.run ⟨0, 0⟩ [] (one.begin c.verb c.args) = .error (Failure.invalid "a") ∧
      NumberVerb.oneOf.run ⟨0, 0⟩ [] (two.begin c.verb c.args) = .ok (two.begin c.verb c.args) := by
  intro c one two
  have hrun : standard.typed? .number c.verb = some NumberVerb.oneOf.run :=
    typed?_number.mpr ⟨.oneOf, rfl, rfl⟩
  have hmisused : c.Misused ⟨0, 0⟩ .number := ⟨.number .oneOf, rfl, rfl, by decide +kernel⟩
  have hone : ¬c.FindsEarly one := by
    rintro ⟨-, -, x, hx, hfound⟩
    obtain rfl : 1.0 = x := Except.ok.inj hx
    exact absurd hfound (by decide +kernel)
  have htwo : c.FindsEarly two := ⟨rfl, rfl, 2.0, rfl, by decide +kernel⟩
  exact ⟨hmisused,
    (misuse_reported_unless_findsEarly (f := one) [] hrun ⟨_, rfl, rfl, rfl⟩ hmisused).1 hone,
    (misuse_reported_unless_findsEarly (f := two) [] hrun ⟨_, rfl, rfl, rfl⟩ hmisused).2 htwo⟩

/-- A letter after the number that the value is goes unnoticed. -/
theorem letter_after_match_passes :
    let c : Call := ⟨"in", ["1", "x"], true⟩
    let f : Field := { name := "a", type := .number, value := some (.number 1.0) }
    standard.typed? f.type c.verb = some NumberVerb.oneOf.run ∧ f.HoldsTyped ∧
      c.Misused ⟨0, 0⟩ f.type ∧
      NumberVerb.oneOf.run ⟨0, 0⟩ [] (f.begin c.verb c.args) = .ok (f.begin c.verb c.args) :=
  ⟨typed?_number.mpr ⟨.oneOf, rfl, rfl⟩, ⟨_, rfl, rfl, rfl⟩,
    ⟨.number .oneOf, rfl, rfl, by decide +kernel⟩, by with_unfolding_all rfl⟩

end Registry

end FieldRules
