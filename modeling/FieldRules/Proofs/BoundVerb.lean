import FieldRules.Proofs.ArgumentForm
import FieldRules.Proofs.LocalTime

namespace FieldRules

/-- The verb passes on the field, with the arguments. -/
def Verb.Passes (v : Verb) (now : Instant) (d : Document) (f : Field) (args : List String) : Prop :=
  ∃ g, v.run now d (f.begin v.name args) = .ok g

namespace Argument

/-- The count that the argument at the place is, if there is one. -/
def countAt? (args : List String) (i : Nat) : Option Nat :=
  args[i]?.bind fun a => Text.count? a.toList

/-- The instant that the argument at the place is, if there is one. -/
def instantAt? (now : Instant) (args : List String) (i : Nat) : Option Instant :=
  args[i]?.bind fun a => (readDatePhrase a now).toOption

theorem instantAt?_of_read {now t : Instant} {args : List String} {i : Nat} {a : String}
    (ha : args[i]? = some a) (h : readDatePhrase a now = .ok t) :
    instantAt? now args i = some t := by
  rw [instantAt?, ha, Option.bind_some, h]
  rfl

end Argument

namespace Field

variable {f : Field}

theorem require_ok_iff {α : Type} {x : Option α} {a : α} : f.require x = .ok a ↔ x = some a := by
  cases x <;> simp [require]

theorem argCount_ok_iff {i n : Nat} :
    f.argCount i = .ok n ↔ Argument.countAt? f.args i = some n := by
  simp only [argCount, arg, bind_ok, require_ok_iff, Argument.countAt?, Option.bind_eq_some_iff]

theorem argInstant_ok_iff {now t : Instant} {i : Nat} :
    DateVerb.argInstant now f i = .ok t ↔ Argument.instantAt? now f.args i = some t := by
  simp only [DateVerb.argInstant, arg, bind_ok, require_ok_iff, Argument.instantAt?,
    Option.bind_eq_some_iff]

end Field

namespace TextVerb

variable {f : Field} {s : String} (hvalue : f.value = some (.text s))
include hvalue

theorem length_begin {verb : String} {args : List String} {n : Nat} :
    length (f.begin verb args) = .ok n ↔ s.length = n := by
  have htext : (f.begin verb args).text = .ok s := by
    rw [Field.text, Field.begin_value, hvalue]
    rfl
  rw [length_of_text htext, Except.ok.injEq]

/-- One count is read, and the length of the text held against it. -/
theorem bound_passes_iff (kind verb : String) (holds : (length n : Nat) → Bool)
    (args : List String) :
    (∃ g, bound kind holds (f.begin verb args) = .ok g) ↔
      ∃ n, Argument.countAt? args 0 = some n ∧ holds s.length n = true := by
  simp only [bound, exists_bind_ok, Field.argCount_ok_iff, length_begin hvalue,
    Field.exists_verify_ok_iff, exists_eq_left']
  rfl

variable (now : Instant) (d : Document) (args : List String)

theorem size_passes_iff :
    (Verb.text size).Passes now d f args ↔
      ∃ n, Argument.countAt? args 0 = some n ∧ s.length = n := by
  refine (bound_passes_iff hvalue _ _ _ args).trans ?_
  simp only [beq_iff_eq]

theorem min_passes_iff :
    (Verb.text min).Passes now d f args ↔
      ∃ n, Argument.countAt? args 0 = some n ∧ n ≤ s.length := by
  refine (bound_passes_iff hvalue _ _ _ args).trans ?_
  simp only [decide_eq_true_eq]

theorem max_passes_iff :
    (Verb.text max).Passes now d f args ↔
      ∃ n, Argument.countAt? args 0 = some n ∧ s.length ≤ n := by
  refine (bound_passes_iff hvalue _ _ _ args).trans ?_
  simp only [decide_eq_true_eq]

theorem between_passes_iff :
    (Verb.text between).Passes now d f args ↔
      ∃ low, Argument.countAt? args 0 = some low ∧
        ∃ high, Argument.countAt? args 1 = some high ∧ low ≤ s.length ∧ s.length ≤ high := by
  simp only [Verb.Passes, Verb.run, run, exists_bind_ok, Field.argCount_ok_iff,
    length_begin hvalue, Field.exists_verify_ok_iff, exists_eq_left', Bool.and_eq_true,
    decide_eq_true_eq]
  rfl

/-- With two arguments `between` is `min` of the first together with `max` of the second. -/
theorem between_passes_iff_min_max (a b : String) :
    (Verb.text between).Passes now d f [a, b] ↔
      (Verb.text min).Passes now d f [a] ∧ (Verb.text max).Passes now d f [b] := by
  rw [between_passes_iff hvalue, min_passes_iff hvalue, max_passes_iff hvalue]
  constructor
  · rintro ⟨low, hlow, high, hhigh, hge, hle⟩
    exact ⟨⟨low, hlow, hge⟩, high, hhigh, hle⟩
  · rintro ⟨⟨low, hlow, hge⟩, high, hhigh, hle⟩
    exact ⟨low, hlow, high, hhigh, hge, hle⟩

theorem size_passes_iff_min_max :
    (Verb.text size).Passes now d f args ↔
      (Verb.text min).Passes now d f args ∧ (Verb.text max).Passes now d f args := by
  rw [size_passes_iff hvalue, min_passes_iff hvalue, max_passes_iff hvalue]
  constructor
  · rintro ⟨n, hn, rfl⟩
    exact ⟨⟨_, hn, Nat.le_refl _⟩, _, hn, Nat.le_refl _⟩
  · rintro ⟨⟨low, hlow, hge⟩, high, hhigh, hle⟩
    obtain rfl : low = high := Option.some.inj (hlow.symm.trans hhigh)
    exact ⟨low, hlow, Nat.le_antisymm hle hge⟩

omit hvalue

/-- A text is seen by its length only. -/
theorem passes_congr {v : TextVerb} (hv : v ∈ [size, min, max, between]) {s s' : String}
    (hlength : s.length = s'.length) :
    (Verb.text v).Passes now d { f with value := some (.text s) } args ↔
      (Verb.text v).Passes now d { f with value := some (.text s') } args := by
  simp only [List.mem_cons, List.not_mem_nil, or_false] at hv
  obtain rfl | rfl | rfl | rfl := hv
  · rw [size_passes_iff rfl, size_passes_iff rfl, hlength]
  · rw [min_passes_iff rfl, min_passes_iff rfl, hlength]
  · rw [max_passes_iff rfl, max_passes_iff rfl, hlength]
  · rw [between_passes_iff rfl, between_passes_iff rfl, hlength]

end TextVerb

namespace Instant

theorem lt_iff {a b : Instant} :
    a.lt b = true ↔ a.secs < b.secs ∨ a.secs = b.secs ∧ a.nanos < b.nanos := by
  simp only [lt, Bool.or_eq_true, Bool.and_eq_true, decide_eq_true_eq, beq_iff_eq]

theorem le_iff_not_lt {a b : Instant} : a.le b = true ↔ ¬b.lt a = true := by
  rw [le, Bool.not_eq_true', Bool.not_eq_true]

theorem not_lt_of_lt {a b : Instant} (h : a.lt b = true) : ¬b.lt a = true := by
  rw [lt_iff] at h ⊢
  omega

end Instant

namespace DateVerb

/-- One bound for `before` and for `after`, two for `between`. -/
def bounds (limitBefore limitAfter low high : String) : DateVerb → List String
  | before => [limitBefore]
  | after => [limitAfter]
  | between => [low, high]

variable {f : Field} {t : Instant} (hvalue : f.value = some (.timestamp t))
include hvalue

theorem instant_begin {verb : String} {args : List String} {u : Instant} :
    (f.begin verb args).instant = .ok u ↔ t = u := by
  have hinstant : (f.begin verb args).instant = .ok t := by
    rw [Field.instant, Field.begin_value, hvalue]
    rfl
  rw [hinstant, Except.ok.injEq]

variable (now : Instant) (d : Document) (args : List String)

theorem after_passes_iff :
    (Verb.date after).Passes now d f args ↔
      ∃ limit, Argument.instantAt? now args 0 = some limit ∧ limit.lt t = true := by
  simp only [Verb.Passes, Verb.run, run, exists_bind_ok, Field.argInstant_ok_iff,
    instant_begin hvalue, Field.exists_verify_ok_iff, exists_eq_left']
  rfl

theorem before_passes_iff :
    (Verb.date before).Passes now d f args ↔
      ∃ limit, Argument.instantAt? now args 0 = some limit ∧ t.lt limit = true := by
  simp only [Verb.Passes, Verb.run, run, exists_bind_ok, Field.argInstant_ok_iff,
    instant_begin hvalue, Field.exists_verify_ok_iff, exists_eq_left']
  rfl

theorem between_passes_iff :
    (Verb.date between).Passes now d f args ↔
      ∃ low, Argument.instantAt? now args 0 = some low ∧
        ∃ high, Argument.instantAt? now args 1 = some high ∧
          ¬t.lt low = true ∧ ¬high.lt t = true := by
  simp only [Verb.Passes, Verb.run, run, exists_bind_ok, Field.argInstant_ok_iff,
    instant_begin hvalue, Field.exists_verify_ok_iff, exists_eq_left', Bool.and_eq_true,
    Instant.le_iff_not_lt]
  rfl

variable {now} {a b : String} {low high limit : Instant}

theorem before_passes_iff_of_read (ha : readDatePhrase a now = .ok limit) :
    (Verb.date before).Passes now d f [a] ↔ t.lt limit = true := by
  have hlimit : Argument.instantAt? now [a] 0 = some limit := Argument.instantAt?_of_read rfl ha
  simp only [before_passes_iff hvalue, hlimit, Option.some.injEq, exists_eq_left']

theorem after_passes_iff_of_read (hb : readDatePhrase b now = .ok limit) :
    (Verb.date after).Passes now d f [b] ↔ limit.lt t = true := by
  have hlimit : Argument.instantAt? now [b] 0 = some limit := Argument.instantAt?_of_read rfl hb
  simp only [after_passes_iff hvalue, hlimit, Option.some.injEq, exists_eq_left']

theorem between_passes_iff_of_read (ha : readDatePhrase a now = .ok low)
    (hb : readDatePhrase b now = .ok high) :
    (Verb.date between).Passes now d f [a, b] ↔ ¬t.lt low = true ∧ ¬high.lt t = true := by
  have hlow : Argument.instantAt? now [a, b] 0 = some low := Argument.instantAt?_of_read rfl ha
  have hhigh : Argument.instantAt? now [a, b] 1 = some high := Argument.instantAt?_of_read rfl hb
  simp only [between_passes_iff hvalue, hlow, hhigh, Option.some.injEq, exists_eq_left']

theorem between_passes_iff_before_after (ha : readDatePhrase a now = .ok low)
    (hb : readDatePhrase b now = .ok high) :
    (Verb.date between).Passes now d f [a, b] ↔
      ¬(Verb.date before).Passes now d f [a] ∧ ¬(Verb.date after).Passes now d f [b] := by
  rw [between_passes_iff_of_read hvalue d ha hb, before_passes_iff_of_read hvalue d ha,
    after_passes_iff_of_read hvalue d hb]

/-- Of the verbs held against the one instant, in whatever texts, one passes. -/
theorem existsUnique_passes {limitBefore limitAfter low high : String}
    (hread : ∀ s ∈ [limitBefore, limitAfter, low, high], readDatePhrase s now = .ok limit) :
    ∃! v : DateVerb, (Verb.date v).Passes now d f (v.bounds limitBefore limitAfter low high) := by
  have hbefore := before_passes_iff_of_read hvalue d (hread limitBefore (by simp))
  have hafter := after_passes_iff_of_read hvalue d (hread limitAfter (by simp))
  have hbetween := between_passes_iff_of_read hvalue d (hread low (by simp)) (hread high (by simp))
  by_cases hlt : t.lt limit = true
  · have hgt := Instant.not_lt_of_lt hlt
    refine ⟨before, hbefore.mpr hlt, fun v hv => ?_⟩
    cases v with
    | before => rfl
    | after => exact absurd (hafter.mp hv) hgt
    | between => exact absurd hlt (hbetween.mp hv).1
  · by_cases hgt : limit.lt t = true
    · refine ⟨after, hafter.mpr hgt, fun v hv => ?_⟩
      cases v with
      | before => exact absurd (hbefore.mp hv) hlt
      | after => rfl
      | between => exact absurd hgt (hbetween.mp hv).2
    · refine ⟨between, hbetween.mpr ⟨hlt, hgt⟩, fun v hv => ?_⟩
      cases v with
      | before => exact absurd (hbefore.mp hv) hlt
      | after => exact absurd (hafter.mp hv) hgt
      | between => rfl

end DateVerb

/-- The verbs that hold a value against bounds agree where they meet: on texts, whatever the
arguments, and on instants, for all arguments that are read as bounds by one clock, also where one
bound is written at several places. -/
theorem Verb.bounds_agree (now : Instant) (d : Document) (f : Field) :
    (∀ s, f.value = some (.text s) → ∀ a b,
      ((Verb.text .min).Passes now d f [a] ↔
        ∃ n, Text.count? a.toList = some n ∧ n ≤ s.length) ∧
      ((Verb.text .max).Passes now d f [b] ↔
        ∃ n, Text.count? b.toList = some n ∧ s.length ≤ n) ∧
      ((Verb.text .between).Passes now d f [a, b] ↔
        (Verb.text .min).Passes now d f [a] ∧ (Verb.text .max).Passes now d f [b]) ∧
      ((Verb.text .size).Passes now d f [a] ↔
        (Verb.text .min).Passes now d f [a] ∧ (Verb.text .max).Passes now d f [a])) ∧
    (∀ v ∈ [TextVerb.size, .min, .max, .between], ∀ s s' : String, s.length = s'.length → ∀ args,
      ((Verb.text v).Passes now d { f with value := some (.text s) } args ↔
        (Verb.text v).Passes now d { f with value := some (.text s') } args)) ∧
    (∀ t, f.value = some (.timestamp t) →
      (∀ a b low high, readDatePhrase a now = .ok low → readDatePhrase b now = .ok high →
        ((Verb.date .before).Passes now d f [a] ↔ t.lt low = true) ∧
        ((Verb.date .after).Passes now d f [b] ↔ high.lt t = true) ∧
        ((Verb.date .between).Passes now d f [a, b] ↔
          ¬(Verb.date .before).Passes now d f [a] ∧ ¬(Verb.date .after).Passes now d f [b])) ∧
      ∀ limit limitBefore limitAfter low high,
        (∀ s ∈ [limitBefore, limitAfter, low, high], readDatePhrase s now = .ok limit) →
        ∃! v : DateVerb,
          (Verb.date v).Passes now d f (v.bounds limitBefore limitAfter low high)) ∧
    ∀ limit : Instant, limit.IsProper → ∀ o,
      0 ≤ (limit.shownAt o).date.year ∧ (limit.shownAt o).date.year ≤ 9999 →
      readDatePhrase (Rfc3339.writeAt limit o) now = .ok limit := by
  refine ⟨fun s hs a b => ⟨?_, ?_, ?_, ?_⟩, fun v hv s s' hlength args => ?_,
    fun t ht => ⟨fun a b low high ha hb => ⟨?_, ?_, ?_⟩, ?_⟩, ?_⟩
  · exact TextVerb.min_passes_iff hs now d [a]
  · exact TextVerb.max_passes_iff hs now d [b]
  · exact TextVerb.between_passes_iff_min_max hs now d a b
  · exact TextVerb.size_passes_iff_min_max hs now d [a]
  · exact TextVerb.passes_congr now d args hv hlength
  · exact DateVerb.before_passes_iff_of_read ht d ha
  · exact DateVerb.after_passes_iff_of_read ht d hb
  · exact DateVerb.between_passes_iff_before_after ht d ha hb
  · exact fun limit _ _ _ _ hread => DateVerb.existsUnique_passes ht d hread
  · exact fun limit hproper o hyear => Rfc3339.readDatePhrase_writeAt hproper hyear now

/-- A leap second, the one bound of it written by two clocks, and the second after it; and a text
of two characters in four bytes. -/
theorem Verb.bounds_agree_at_leap_second :
    let now : Instant := ⟨0, 0⟩
    let universal := "1970-01-01T23:59:60Z"
    let tehran := "1970-01-02T03:29:60+03:30"
    let field (t : Instant) : Field := { name := "a", type := .date, value := some (.timestamp t) }
    (∃! v : DateVerb, (Verb.date v).Passes now [] (field ⟨86399, 1000000000⟩)
      (v.bounds universal tehran tehran universal)) ∧
    (∃! v : DateVerb, (Verb.date v).Passes now [] (field ⟨86400, 0⟩)
      (v.bounds universal tehran tehran universal)) ∧
    readDatePhrase tehran now = .ok ⟨86399, 1000000000⟩ ∧
    (Verb.text .size).Passes now [] { name := "b", value := some (.text "éß") } ["2"] := by
  have huniversal : readDatePhrase "1970-01-01T23:59:60Z" ⟨0, 0⟩ = .ok ⟨86399, 1000000000⟩ := rfl
  intro now universal tehran field
  have hread : ∀ s ∈ [universal, tehran, tehran, universal],
      readDatePhrase s now = .ok ⟨86399, 1000000000⟩ := by
    have htehran : readDatePhrase tehran now = .ok ⟨86399, 1000000000⟩ :=
      (Verb.bounds_agree now [] (field ⟨0, 0⟩)).2.2.2 ⟨86399, 1000000000⟩ ⟨by decide, by decide⟩
        ⟨true, 3, 30⟩ (by decide)
    simp only [List.mem_cons, List.not_mem_nil, or_false]
    rintro s (rfl | rfl | rfl | rfl)
    exacts [huniversal, htehran, htehran, huniversal]
  have hone (t : Instant) := ((Verb.bounds_agree now [] (field t)).2.2.1 t rfl).2
    ⟨86399, 1000000000⟩ universal tehran tehran universal hread
  obtain ⟨hmin, hmax, -, hsize⟩ :=
    (Verb.bounds_agree now [] { name := "b", value := some (.text "éß") }).1 "éß" rfl "2" "2"
  have htwo : Text.count? "2".toList = some 2 := by decide
  have hlong : 2 ≤ "éß".length := by decide
  have hshort : "éß".length ≤ 2 := by decide
  exact ⟨hone _, hone _, hread tehran (by simp),
    hsize.mpr ⟨hmin.mpr ⟨2, htwo, hlong⟩, hmax.mpr ⟨2, htwo, hshort⟩⟩⟩

end FieldRules
