import FieldRules.Proofs.CanonicalValue
import FieldRules.Proofs.CivilDay
import FieldRules.Value.Json
import Mathlib.Algebra.Group.Nat.Defs
import Mathlib.Data.List.Basic
import Mathlib.Data.List.TakeWhile

namespace FieldRules

namespace Text

theorem length_padded {w n : Nat} (hw : 0 < w) (h : n < 10 ^ w) : (padded w n).length = w := by
  have hlen : (Nat.toDigits 10 n).length ≤ w :=
    (Nat.length_toDigits_le_iff (by decide) hw).mpr h
  simp only [padded, List.length_append, List.length_replicate]
  omega

theorem isDigit_of_mem_padded {w n : Nat} {c : Char} (h : c ∈ padded w n) :
    c.isDigit = true := by
  rcases List.mem_append.mp h with h | h
  · rw [List.eq_of_mem_replicate h]
    decide
  · exact Nat.isDigit_of_mem_toDigits (by decide) (by decide) h

theorem digitsValue_padded (w n : Nat) : digitsValue (padded w n) = n := by
  change Nat.ofDigitChars 10 (padded w n) 0 = n
  rw [padded, Nat.ofDigitChars_append, Nat.ofDigitChars_replicate_zero, Nat.mul_zero,
    Nat.ofDigitChars_ten_toDigits]

end Text

namespace Rfc3339

theorem digit_of_isDigit {c : Char} (cs : List Char) (h : c.isDigit = true) :
    digit (c :: cs) = .ok (c.toNat - '0'.toNat, cs) := by
  simp [digit, h]

theorem twoDigits_of_isDigit {a b : Char} (rest : List Char) (ha : a.isDigit = true)
    (hb : b.isDigit = true) :
    twoDigits (a :: b :: rest) = .ok (Text.digitsValue [a, b], rest) := by
  have hvalue : Text.digitsValue [a, b] =
      10 * (a.toNat - '0'.toNat) + (b.toNat - '0'.toNat) := by simp [Text.digitsValue]
  rw [twoDigits, digit_of_isDigit _ ha, hvalue]
  simp only [bind, Except.bind, digit_of_isDigit _ hb, pure, Except.pure]

theorem twoDigits_padded {n : Nat} (h : n < 100) (rest : List Char) :
    twoDigits (Text.padded 2 n ++ rest) = .ok (n, rest) := by
  have hvalue := Text.digitsValue_padded 2 n
  have hdigit (c : Char) (hc : c ∈ Text.padded 2 n) := Text.isDigit_of_mem_padded hc
  obtain ⟨a, b, hab⟩ := List.length_eq_two.mp (Text.length_padded (w := 2) (by decide) h)
  rw [hab] at hvalue hdigit ⊢
  change twoDigits (a :: b :: rest) = _
  rw [twoDigits_of_isDigit rest (hdigit a (by simp)) (hdigit b (by simp)), hvalue]

theorem fourDigits_padded {n : Nat} (h : n < 10000) (rest : List Char) :
    fourDigits (Text.padded 4 n ++ rest) = .ok (n, rest) := by
  have hvalue := Text.digitsValue_padded 4 n
  have hdigit (c : Char) (hc : c ∈ Text.padded 4 n) := Text.isDigit_of_mem_padded hc
  obtain ⟨a, b, c, d, habcd⟩ : ∃ a b c d, Text.padded 4 n = [a, b, c, d] := by
    have hlength := Text.length_padded (w := 4) (by decide) h
    match hcs : Text.padded 4 n, hlength with
    | [a, b, c, d], _ => exact ⟨a, b, c, d, rfl⟩
  rw [habcd] at hvalue hdigit ⊢
  have hn : 100 * Text.digitsValue [a, b] + Text.digitsValue [c, d] = n := by
    rw [← hvalue]
    simp only [Text.digitsValue, List.foldl_cons, List.foldl_nil]
    omega
  change fourDigits (a :: b :: c :: d :: rest) = _
  rw [fourDigits, twoDigits_of_isDigit _ (hdigit a (by simp)) (hdigit b (by simp))]
  simp only [bind, Except.bind, pure, Except.pure,
    twoDigits_of_isDigit rest (hdigit c (by simp)) (hdigit d (by simp)), hn]

theorem expect_of_pos {p : Char → Bool} {c : Char} (cs : List Char) (h : p c = true) :
    expect p (c :: cs) = .ok cs := by
  simp [expect, h]

theorem year_of_four_digits {y : Int} (h : 0 ≤ y ∧ y ≤ 9999) :
    year y = Text.padded 4 y.natAbs := by
  simp [year, h]

theorem readDate_dateText {d : Date} (hvalid : d.isValid = true)
    (hyear : 0 ≤ d.year ∧ d.year ≤ 9999) (rest : List Char) :
    readDate (dateText d ++ rest) = .ok (d, rest) := by
  have hmonth : d.month ≤ 12 ∧ d.day ≤ Date.daysInMonth d.year d.month := by
    simp only [Date.isValid, Bool.and_eq_true, decide_eq_true_eq] at hvalid
    exact ⟨hvalid.1.1.2, hvalid.2⟩
  have hday : Date.daysInMonth d.year d.month ≤ 31 := by
    unfold Date.daysInMonth
    split_ifs <;> omega
  have hyears : (d.year.natAbs : Int) = d.year := by omega
  have hdate : (⟨d.year.natAbs, d.month, d.day⟩ : Date) = d := by rw [hyears]
  simp only [dateText, year_of_four_digits hyear, List.append_assoc, List.cons_append, readDate,
    fourDigits_padded (n := d.year.natAbs) (by omega),
    twoDigits_padded (n := d.month) (by omega), twoDigits_padded (n := d.day) (by omega),
    expect_of_pos (c := '-') (p := (· == '-')) _ rfl, bind, Except.bind, hdate, hvalid, if_true,
    pure, Except.pure]

/-- The digits behind the point of a fraction are as many as are left out of nine. -/
theorem fraction_cases {nanos : Nat} (h : nanos < Instant.billion) :
    nanos = 0 ∧ fraction nanos = [] ∨
    ∃ w n, fraction nanos = '.' :: Text.padded w n ∧ 0 < w ∧ w ≤ 9 ∧ n < 10 ^ w ∧
      n * Nat.pow 10 (9 - w) = nanos := by
  have hbound : nanos < 1000000000 := h
  unfold fraction
  split_ifs with h0 h3 h6
  · exact .inl ⟨h0, rfl⟩
  · exact .inr ⟨3, nanos / 1000000, rfl, by decide, by decide, by omega, by simp; omega⟩
  · exact .inr ⟨6, nanos / 1000, rfl, by decide, by decide, by omega, by simp; omega⟩
  · exact .inr ⟨9, nanos, rfl, by decide, by decide, by omega, by simp⟩

section Zone

variable {z : Char} (hdigit : z.isDigit = false)

include hdigit in
theorem readFraction_padded {w n : Nat} (hw : 0 < w ∧ w ≤ 9) (hn : n < 10 ^ w) (rest : List Char) :
    readFraction (Text.padded w n ++ z :: rest) =
      .ok (n * Nat.pow 10 (9 - w), z :: rest) := by
  have hall : ∀ c ∈ Text.padded w n, c.isDigit = true :=
    fun c hc => Text.isDigit_of_mem_padded hc
  have hlength := Text.length_padded hw.1 hn
  have htake : (Text.padded w n ++ z :: rest).takeWhile Char.isDigit = Text.padded w n := by
    rw [List.takeWhile_append_of_pos hall]
    simp [hdigit]
  have hdrop : (Text.padded w n ++ z :: rest).dropWhile Char.isDigit = z :: rest := by
    rw [List.dropWhile_append_of_pos hall]
    simp [hdigit]
  have hne : Text.padded w n ≠ [] := by
    intro hnil
    rw [hnil] at hlength
    simp at hlength
    omega
  have hnine : (Text.padded w n).take 9 = Text.padded w n := List.take_of_length_le (by omega)
  simp only [readFraction, htake, hdrop, hne, hnine, hlength, Text.digitsValue_padded, ne_eq,
    not_false_eq_true, if_true]

variable (hpoint : z ≠ '.') (rest : List Char)
include hdigit hpoint

/-- The second 60 is the second 59 with a billion nanoseconds more. -/
theorem readTime_written {h m s nanos : Nat} (hh : h < 24) (hm : m < 60) (hs : s ≤ 60)
    (hn : nanos < Instant.billion) :
    readTime (Text.padded 2 h ++ ':' :: (Text.padded 2 m ++ ':' ::
        (Text.padded 2 s ++ (fraction nanos ++ z :: rest)))) =
      .ok (3600 * h + 60 * m + (if s = 60 then 59 else s),
        nanos + (if s = 60 then Instant.billion else 0), z :: rest) := by
  have hvalid : h < 24 ∧ m < 60 ∧ (if s = 60 then 59 else s) < 60 := by
    refine ⟨hh, hm, ?_⟩
    split <;> omega
  have hsecond (n : Nat) :
      (if s = 60 then (59, n + Instant.billion) else (s, n)) =
        (if s = 60 then 59 else s, n + if s = 60 then Instant.billion else 0) := by
    split <;> rfl
  simp only [readTime, twoDigits_padded (n := h) (by omega), twoDigits_padded (n := m) (by omega),
    twoDigits_padded (n := s) (by omega), expect_of_pos (c := ':') (p := (· == ':')) _ rfl, bind,
    Except.bind, hsecond]
  rcases fraction_cases hn with ⟨rfl, hf⟩ | ⟨w, n, hf, hw, hw9, hnw, hvalue⟩
  · simp only [hf, List.nil_append]
    split
    · rename_i heq
      exact absurd (List.cons.inj heq).1 hpoint
    · simp only [pure, Except.pure, if_pos hvalid]
  · simp only [hf, List.cons_append, readFraction_padded hdigit ⟨hw, hw9⟩ hnw, hvalue, pure,
      Except.pure, if_pos hvalid]

end Zone

end Rfc3339

namespace Instant

/-- An instant as a clock can show it: inside a second, or inside a leap second, which follows
second 59 of a minute. -/
structure IsProper (t : Instant) : Prop where
  nanos_lt : t.nanos < 2 * billion
  leap : billion ≤ t.nanos → t.secs % 60 = 59

theorem secs_eq (t : Instant) : t.secs = t.days * secondsPerDay + t.secondOfDay := by
  simp only [days, secondOfDay, secondsPerDay]
  omega

theorem secondOfDay_lt (t : Instant) : t.secondOfDay < 86400 := by
  simp only [secondOfDay, secondsPerDay]
  omega

/-- Days begin with a minute. -/
theorem secondOfDay_mod (t : Instant) : (t.secondOfDay % 60 : Nat) = t.secs % 60 := by
  simp only [secondOfDay, secondsPerDay]
  omega

end Instant

namespace Rfc3339

theorem length_le_byteLength (cs : List Char) : cs.length ≤ Text.byteLength cs := by
  induction cs with
  | nil => exact Nat.le_refl 0
  | cons c cs ih =>
    have hc : 0 < c.utf8Size := c.utf8Size_pos
    simp only [List.length_cons, Text.byteLength]
    omega

/-- The text of an instant without the offset at its end. -/
def localChars (t : Instant) : List Char := (writeChars t).dropLast

theorem writeChars_eq (t : Instant) : writeChars t = localChars t ++ ['Z'] := by
  simp only [localChars, writeChars, List.dropLast_concat]

/-- The parts of the text: date, time to the second and fraction. -/
theorem localChars_append (t : Instant) (zone : List Char) :
    localChars t ++ zone = dateText t.date ++ ('T' :: (Text.padded 2 (hour t) ++ ':' ::
      (Text.padded 2 (minute t) ++ ':' :: (Text.padded 2
        (t.secondOfDay % 60 + (if Instant.billion ≤ t.nanos then 1 else 0)) ++
        (fraction (if Instant.billion ≤ t.nanos then t.nanos - Instant.billion else t.nanos) ++
          zone))))) := by
  simp only [localChars, writeChars, List.dropLast_concat]
  simp only [List.append_assoc, List.cons_append]

theorem le_length_padded (w n : Nat) : w ≤ (Text.padded w n).length := by
  simp only [Text.padded, List.length_append, List.length_replicate]
  omega

theorem le_length_year (y : Int) : 4 ≤ (year y).length := by
  have h := le_length_padded 4 y.natAbs
  unfold year
  split
  · exact h
  · rw [List.length_cons]
    omega

theorem length_localChars (t : Instant) : 19 ≤ (localChars t).length := by
  have h2 (n : Nat) := le_length_padded 2 n
  have hy := le_length_year t.date.year
  have hm := h2 t.date.month
  have hd := h2 t.date.day
  have hh := h2 (hour t)
  have hmin := h2 (minute t)
  have hs := h2 (t.secondOfDay % 60 + (if Instant.billion ≤ t.nanos then 1 else 0))
  rw [← List.append_nil (localChars t), localChars_append]
  simp only [dateText, List.length_append, List.length_cons]
  omega

theorem length_writeChars (t : Instant) : 19 ≤ (writeChars t).length := by
  have h := length_localChars t
  rw [writeChars_eq, List.length_append]
  omega

section Zone

variable {t : Instant} (ht : t.IsProper) {z : Char} (hdigit : z.isDigit = false)
  (hpoint : z ≠ '.') {rest : List Char}
include ht hdigit hpoint

theorem readTime_of_proper :
    readTime (Text.padded 2 (hour t) ++ ':' :: (Text.padded 2 (minute t) ++ ':' ::
      (Text.padded 2 (t.secondOfDay % 60 + (if Instant.billion ≤ t.nanos then 1 else 0)) ++
        (fraction (if Instant.billion ≤ t.nanos then t.nanos - Instant.billion else t.nanos) ++
          z :: rest)))) = .ok (t.secondOfDay, t.nanos, z :: rest) := by
  have hday := t.secondOfDay_lt
  have hminute := t.secondOfDay_mod
  have hnanos := ht.nanos_lt
  have hh : hour t < 24 := by
    simp only [hour]
    omega
  have hm : minute t < 60 := by
    simp only [minute]
    omega
  have hparts : 3600 * hour t + 60 * minute t + t.secondOfDay % 60 = t.secondOfDay := by
    simp only [hour, minute]
    omega
  by_cases hleap : Instant.billion ≤ t.nanos
  · have h59 : t.secondOfDay % 60 = 59 := by
      have h := ht.leap hleap
      omega
    have hback : t.nanos - Instant.billion + Instant.billion = t.nanos := by omega
    rw [if_pos hleap, if_pos hleap,
      readTime_written hdigit hpoint rest hh hm (by omega) (by omega), h59]
    rw [h59] at hparts
    simp only [hparts, hback, if_true]
  · have hs : ¬t.secondOfDay % 60 = 60 := by omega
    rw [if_neg hleap, if_neg hleap,
      readTime_written hdigit hpoint rest hh hm (by omega) (by omega)]
    simp only [Nat.add_zero, if_neg hs, hparts]

/-- The text of an instant is read part by part, each with what is left of the text behind it. -/
theorem readChars_localChars (hyear : 0 ≤ t.date.year ∧ t.date.year ≤ 9999) {offset : Int}
    (hoffset : readOffset (z :: rest) = .ok (offset, []))
    (hlt : offset.natAbs < Instant.secondsPerDay) :
    readChars (localChars t ++ z :: rest) = .ok ⟨t.secs - offset, t.nanos⟩ := by
  have hlength : ¬Text.byteLength (localChars t ++ z :: rest) < 19 := by
    have hbytes := length_le_byteLength (localChars t)
    have hchars := length_localChars t
    rw [Text.byteLength_append]
    omega
  have hdays : t.date.toDays = t.days := Date.toDays_ofDays t.days
  have hvalid : t.date.isValid = true := Date.isValid_ofDays t.days
  have hsecs : t.days * Instant.secondsPerDay + (t.secondOfDay : Int) = t.secs := t.secs_eq.symm
  simp only [readChars, if_neg hlength]
  rw [localChars_append, readDate_dateText hvalid hyear]
  simp only [bind, Except.bind, readTime_of_proper ht hdigit hpoint,
    expect_of_pos (c := 'T') (p := fun c => c == 'T' || c == 't' || c == ' ') _ rfl, hoffset, hdays,
    hsecs, if_pos hlt]
  rfl

end Zone

theorem readChars_writeChars {t : Instant} (ht : t.IsProper)
    (hyear : 0 ≤ t.date.year ∧ t.date.year ≤ 9999) : readChars (writeChars t) = .ok t := by
  have hoffset : readOffset ['Z'] = .ok (0, []) := rfl
  rw [writeChars_eq, readChars_localChars ht (by decide) (by decide) hyear hoffset (by decide),
    Int.sub_zero]

/-- No digit stands where a sign does. -/
theorem readChars_sign {c : Char} (h : c.isDigit = false) (cs : List Char) :
    ∃ e, readChars (c :: cs) = .error e := by
  have hdate : readDate (c :: cs) = .error .invalid := by
    simp [readDate, fourDigits, twoDigits, digit, h, bind, Except.bind]
  simp only [readChars]
  split
  · exact ⟨_, rfl⟩
  · rw [hdate]
    exact ⟨_, rfl⟩

theorem writeChars_of_signed_year {t : Instant} (h : ¬(0 ≤ t.date.year ∧ t.date.year ≤ 9999)) :
    ∃ cs, writeChars t = (if t.date.year < 0 then '-' else '+') :: cs := by
  rw [writeChars_eq, localChars_append]
  simp only [dateText, year, if_neg h, List.cons_append]
  exact ⟨_, rfl⟩

theorem read_write {t : Instant} (ht : t.IsProper)
    (hyear : 0 ≤ t.date.year ∧ t.date.year ≤ 9999) : read (write t) = .ok t := by
  rw [read, write, String.toList_ofList]
  exact readChars_writeChars ht hyear

theorem read_write_of_signed_year {t : Instant}
    (h : ¬(0 ≤ t.date.year ∧ t.date.year ≤ 9999)) : ∃ e, read (write t) = .error e := by
  obtain ⟨cs, hcs⟩ := writeChars_of_signed_year h
  rw [read, write, String.toList_ofList, hcs]
  apply readChars_sign
  split <;> decide

end Rfc3339

/-- A text that is longer than the words which stand for instants is none of them. -/
theorem readDatePhrase_of_long {text : String} (h : 19 ≤ text.toList.length) (now : Instant) :
    readDatePhrase text now = Rfc3339.read text := by
  have hword (word : String) (hw : word.toList.length < 19) : text ≠ word := by
    rintro rfl
    omega
  simp only [readDatePhrase, if_neg (hword "now" (by decide)), if_neg (hword "today" (by decide)),
    if_neg (hword "yesterday" (by decide)), if_neg (hword "tomorrow" (by decide))]

theorem readDatePhrase_write (t now : Instant) :
    readDatePhrase (Rfc3339.write t) now = Rfc3339.read (Rfc3339.write t) := by
  apply readDatePhrase_of_long
  rw [Rfc3339.write, String.toList_ofList]
  exact Rfc3339.length_writeChars t

theorem Value.coerce_date {now t : Instant} {s : String} (h : readDatePhrase s now = .ok t) :
    (text s).coerce .date now = ⟨true, .timestamp t, none⟩ := by
  simp [coerce, h]

theorem Field.coerce_date {now t : Instant} {f : Field} {s : String} (htype : f.type = .date)
    (hvalue : f.value = some (.text s)) (h : readDatePhrase s now = .ok t) :
    f.coerce now = ({ f with value := some (.timestamp t) }, none) := by
  rw [coerce_of_value hvalue rfl, htype, Value.coerce_date h]
  rfl

/-- An instant whose year has four digits survives being written as JSON: a date field that is given
the text comes to the same instant, to the nanosecond and inside a leap second. -/
theorem instant_survives_json {t : Instant} (now : Instant) (ht : t.IsProper)
    (hyear : 0 ≤ t.date.year ∧ t.date.year ≤ 9999) :
    ∃ s, (Value.timestamp t).toJson = .text s ∧
      ∀ f : Field, f.type = .date → f.value = some (.text s) →
        f.coerce now = ({ f with value := some (.timestamp t) }, none) := by
  refine ⟨Rfc3339.write t, rfl, fun f htype hvalue => ?_⟩
  apply Field.coerce_date htype hvalue
  rw [readDatePhrase_write, Rfc3339.read_write ht hyear]

/-- The leap second at the end of the first minute of the year 0000, with a fraction that needs all
nine digits. -/
theorem instant_survives_json_in_leap_second :
    let t : Instant := ⟨-62167219141, 1000000120⟩
    t.IsProper ∧ t.date = ⟨0, 1, 1⟩ ∧ Rfc3339.write t = "0000-01-01T00:00:60.000000120Z" ∧
      ∃ s, (Value.timestamp t).toJson = .text s ∧
        ∀ f : Field, f.type = .date → f.value = some (.text s) →
          f.coerce ⟨0, 0⟩ = ({ f with value := some (.timestamp t) }, none) := by
  have ht : Instant.IsProper ⟨-62167219141, 1000000120⟩ := ⟨by decide, by decide⟩
  exact ⟨ht, by decide, by decide +kernel, instant_survives_json ⟨0, 0⟩ ht (by decide)⟩

end FieldRules
