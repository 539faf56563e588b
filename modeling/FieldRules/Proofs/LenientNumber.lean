import FieldRules.Decimal.Lenient

namespace FieldRules.Lenient

/-- The zeros of the scripts: ASCII, Arabic-Indic and Extended Arabic-Indic. The other digits follow
theirs. -/
def zeros : List Char := ['0', '\u0660', '\u06F0']

/-- How far a digit stands behind the zero of its script. -/
def value? (c : Char) : Option Nat :=
  (zeros.find? fun zero => zero.toNat ≤ c.toNat ∧ c.toNat < zero.toNat + 10).map fun zero =>
    c.toNat - zero.toNat

/-- A character that counts: a point, or a digit by its value. -/
inductive Mark where
  | point
  | digit (value : Nat)
  deriving DecidableEq

def mark? (c : Char) : Option Mark :=
  if c = '.' then some .point else (value? c).map .digit

/-- What counts in a text but for its signs. -/
def marks (text : List Char) : List Mark := text.filterMap mark?

/-- The number, and the divisor of its next digit once there was a point, after one more mark. -/
def Mark.add : Float × Option Float → Mark → Float × Option Float
  | (x, _), .point => (x, some 10.0)
  | (x, none), .digit n => (x * 10.0 + Float.ofNat n, none)
  | (x, some s), .digit n => (x + Float.ofNat n / s, some (s * 10.0))

def magnitude (ms : List Mark) : Float := (ms.foldl Mark.add (0.0, none)).1

theorem value?_eq_digit? (c : Char) : value? c = digit? c := by
  have hascii : '0'.toNat = 0x30 := rfl
  have harabic : '\u0660'.toNat = 0x660 := rfl
  have hextended : '\u06F0'.toNat = 0x6F0 := rfl
  simp only [value?, zeros, List.find?_cons, hascii, harabic, hextended, digit?]
  grind

theorem value?_minus : value? '-' = none := by decide

theorem mark?_isSome_iff {c : Char} : (mark? c).isSome ↔ c = '.' ∨ (value? c).isSome := by
  unfold mark?
  split <;> simp [*]

namespace Reading

/-- The part of a reading that marks change. -/
def parts (r : Reading) : Float × Option Float := (r.magnitude, r.scale)

theorem step_parts (r : Reading) (c : Char) :
    (r.step c).parts = (mark? c).elim r.parts (Mark.add r.parts) := by
  unfold step mark?
  split
  · rfl
  · split
    · subst c
      simp [value?_minus, parts]
    · rw [value?_eq_digit?]
      cases digit? c <;> cases hscale : r.scale <;> simp [parts, hscale, Mark.add]

theorem step_negative (r : Reading) (c : Char) :
    (r.step c).negative = (r.negative || c == '-') := by
  unfold step
  grind

theorem step_strict (r : Reading) (c : Char) :
    (r.step c).strict = (r.strict && (c == '-' || (mark? c).isSome)) := by
  unfold step mark?
  rw [value?_eq_digit?]
  grind

theorem foldl_parts (r : Reading) (cs : List Char) :
    (cs.foldl step r).parts = (marks cs).foldl Mark.add r.parts := by
  induction cs generalizing r with
  | nil => rfl
  | cons c cs ih =>
    rw [List.foldl_cons, ih, step_parts]
    cases hmark : mark? c <;> simp [marks, hmark]

theorem foldl_negative (r : Reading) (cs : List Char) :
    (cs.foldl step r).negative = (r.negative || cs.contains '-') := by
  induction cs generalizing r with
  | nil => simp
  | cons c cs ih =>
    rw [List.foldl_cons, ih, step_negative, List.contains_cons, Bool.or_assoc, Bool.beq_comm]

theorem foldl_strict (r : Reading) (cs : List Char) :
    (cs.foldl step r).strict =
      (r.strict && cs.all fun c => c == '-' || (mark? c).isSome) := by
  induction cs generalizing r with
  | nil => simp
  | cons c cs ih => rw [List.foldl_cons, ih, step_strict, List.all_cons, Bool.and_assoc]

end Reading

/-- A text that is empty reads as any other does, but is not strict. -/
theorem number_value (text : String) :
    (number text).1 = (text.toList.foldl Reading.step {}).value := by
  unfold number
  split
  · rename_i hnil
    rw [hnil]
    rfl
  · rfl

theorem number_strict (text : String) :
    (number text).2 = (text != "" && (text.toList.foldl Reading.step {}).strict) := by
  unfold number
  split
  · rename_i hnil
    have hempty : text = "" := String.toList_eq_nil_iff.mp hnil
    simp [hempty]
  · rename_i hne
    have hsome : text ≠ "" := fun h => hne (String.toList_eq_nil_iff.mpr h)
    simp [hsome]

/-- The number is that of the marks, below zero if a minus stands anywhere. -/
theorem number_eq (text : String) :
    (number text).1 =
      if '-' ∈ text.toList then -magnitude (marks text.toList)
      else magnitude (marks text.toList) := by
  have hparts := Reading.foldl_parts {} text.toList
  have hnegative := Reading.foldl_negative {} text.toList
  have hmagnitude : (text.toList.foldl Reading.step {}).magnitude = magnitude (marks text.toList) :=
    congrArg Prod.fst hparts
  rw [number_value, Reading.value, hnegative, hmagnitude]
  simp

theorem number_strict_iff (text : String) :
    (number text).2 = true ↔
      text ≠ "" ∧ ∀ c ∈ text.toList, c = '.' ∨ c = '-' ∨ (value? c).isSome := by
  rw [number_strict, Reading.foldl_strict]
  simp only [Bool.true_and, Bool.and_eq_true, bne_iff_ne, List.all_eq_true, Bool.or_eq_true,
    beq_iff_eq, mark?_isSome_iff]
  grind

/-- A number text is strict when it is not empty and has points, minus signs and digits only. Its
number depends on no more than the points and the values of the digits, in their order, and on
whether there is a minus. -/
theorem number_means (text other : String) :
    ((number text).2 = true ↔
      text ≠ "" ∧ ∀ c ∈ text.toList, c = '.' ∨ c = '-' ∨ (value? c).isSome) ∧
    (marks text.toList = marks other.toList → ('-' ∈ text.toList ↔ '-' ∈ other.toList) →
      (number text).1 = (number other).1) := by
  refine ⟨number_strict_iff text, fun hmarks hminus => ?_⟩
  rw [number_eq, number_eq, hmarks]
  simp only [hminus]

/-- The same number in digits of mixed scripts, once with its minus behind the point and once with a
letter in it, which costs the strictness only. -/
theorem number_means_across_scripts :
    marks "1\u0662.-\u06F5".toList = marks "-x1\u06F2.5".toList ∧
    ('-' ∈ "1\u0662.-\u06F5".toList ↔ '-' ∈ "-x1\u06F2.5".toList) ∧
    (number "1\u0662.-\u06F5").1 = (number "-x1\u06F2.5").1 ∧
    (number "1\u0662.-\u06F5").2 = true ∧ (number "-x1\u06F2.5").2 ≠ true := by
  have hmarks : marks "1\u0662.-\u06F5".toList = marks "-x1\u06F2.5".toList := by decide
  have hminus : '-' ∈ "1\u0662.-\u06F5".toList ↔ '-' ∈ "-x1\u06F2.5".toList := by decide
  have hall : "1\u0662.-\u06F5".toList.all
      (fun c => c = '.' ∨ c = '-' ∨ (value? c).isSome) = true := by decide
  have hletter : ¬('x' = '.' ∨ 'x' = '-' ∨ (value? 'x').isSome) := by decide
  refine ⟨hmarks, hminus, (number_means _ _).2 hmarks hminus, ?_, fun hstrict => ?_⟩
  · refine (number_means "1\u0662.-\u06F5" "").1.mpr ⟨by decide, fun c hc => ?_⟩
    exact of_decide_eq_true (List.all_eq_true.mp hall c hc)
  · exact hletter (((number_means "-x1\u06F2.5" "").1.mp hstrict).2 'x' (by decide))

end FieldRules.Lenient
