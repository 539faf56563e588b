import FieldRules.Proofs.ReadInstant

namespace FieldRules

namespace Date

/-- Days of the March years from 0 to `y`. -/
def daysBeforeYear (y : Int) : Int := 365 * y + y / 4 - y / 100 + y / 400

/-- A leap day is left out once in a century only, so every year has its 365 days. -/
theorem daysBeforeYear_lt {x y : Int} (h : x < y) :
    daysBeforeYear x + 365 ≤ daysBeforeYear y := by
  have hx : x / 100 = x / 4 / 25 := by omega
  have hy : y / 100 = y / 4 / 25 := by omega
  have hfour : x / 4 ≤ y / 4 := by omega
  have hcycle : x / 400 ≤ y / 400 := by omega
  have hcentury : x / 4 - x / 4 / 25 ≤ y / 4 - y / 4 / 25 := by omega
  simp only [daysBeforeYear]
  omega

theorem bounds_of_isValid {d : Date} (h : d.isValid = true) :
    1 ≤ d.month ∧ d.month ≤ 12 ∧ 1 ≤ d.day ∧ d.day ≤ 31 := by
  simp only [isValid, Bool.and_eq_true, decide_eq_true_eq] at h
  obtain ⟨⟨⟨hmonth, hlast⟩, hday⟩, hlength⟩ := h
  have hlong : daysInMonth d.year d.month ≤ 31 := by
    unfold daysInMonth
    split_ifs <;> omega
  exact ⟨hmonth, hlast, hday, by omega⟩

/-- The first two months end a March year, as its days from 306 on. -/
theorem exists_dayOfYear {d : Date} (h : d.isValid = true) :
    ∃ y r, d.toDays = daysBeforeYear y + r - epoch ∧
      (y = d.year - 1 ∧ 306 ≤ r ∧ r ≤ 367 ∨ y = d.year ∧ 0 ≤ r ∧ r ≤ 305) := by
  obtain ⟨hmonth, hlast, hday, hlong⟩ := bounds_of_isValid h
  by_cases hearly : d.month ≤ 2
  · refine ⟨d.year - 1, daysBefore (d.month + 9) + d.day - 1, ?_, .inl ⟨rfl, ?_⟩⟩
    · simp only [toDays, daysBeforeYear, if_pos hearly]
      omega
    · simp only [daysBefore]
      omega
  · refine ⟨d.year, daysBefore (d.month - 3) + d.day - 1, ?_, .inr ⟨rfl, ?_⟩⟩
    · simp only [toDays, daysBeforeYear, if_neg hearly]
      omega
    · simp only [daysBefore]
      omega

/-- The first day of the year `a`. -/
def newYear (a : Int) : Date := ⟨a, 1, 1⟩

theorem toDays_newYear (a : Int) : (newYear a).toDays = daysBeforeYear (a - 1) + 306 - epoch := by
  simp only [newYear, toDays, daysBeforeYear, daysBefore]
  omega

/-- A date is of the year `a` or later when it does not come before its first day. -/
theorem newYear_le_iff {d : Date} (h : d.isValid = true) (a : Int) :
    (newYear a).toDays ≤ d.toDays ↔ a ≤ d.year := by
  obtain ⟨y, r, hdays, hyear⟩ := exists_dayOfYear h
  rw [toDays_newYear, hdays]
  rcases Int.lt_trichotomy (a - 1) y with hlt | heq | hgt
  · have hmore := daysBeforeYear_lt hlt
    omega
  · rw [heq]
    omega
  · have hless := daysBeforeYear_lt hgt
    omega

end Date

namespace Instant

/-- The instants of the years from `a` on are the days from the first of `a` on. -/
theorem newYear_le_days_iff (t : Instant) (a : Int) :
    (Date.newYear a).toDays ≤ t.days ↔ a ≤ t.date.year := by
  have hdays : t.date.toDays = t.days := Date.toDays_ofDays t.days
  rw [← hdays]
  exact Date.newYear_le_iff (Date.isValid_ofDays t.days) a

/-- A leap second that is left on the way back counts as one more. -/
theorem secs_addSeconds (t : Instant) (n : Int) :
    (t.addSeconds n).secs = t.secs + n ∨ n < 0 ∧ (t.addSeconds n).secs = t.secs + 1 + n := by
  unfold addSeconds
  split
  · exact .inl rfl
  · split
    · exact .inl rfl
    · exact .inr ⟨by omega, rfl⟩

/-- The day before and the day after are no further away than that. -/
theorem days_addDays (t : Instant) {n : Int} (hn : -1 ≤ n ∧ n ≤ 1) :
    t.days - 1 ≤ (t.addDays n).days ∧ (t.addDays n).days ≤ t.days + 1 := by
  have hsecs := t.secs_addSeconds (n * secondsPerDay)
  simp only [addDays, days, secondsPerDay] at hsecs ⊢
  omega

/-- The instant is of the last day before the year 0000, or of the first after the year 9999. -/
def IsOutside (t : Instant) : Prop := t.date = ⟨-1, 12, 31⟩ ∨ t.date = ⟨10000, 1, 1⟩

end Instant

namespace Rfc3339

theorem IsLocal.days {t : Instant} {date : Date} {second : Nat} {offset : Int}
    (h : IsLocal t date second offset) : date.toDays - 1 ≤ t.days ∧ t.days ≤ date.toDays + 1 := by
  have hsecond := h.second_lt
  have hoffset := h.offset_lt
  have hsecs := h.secs
  simp only [Instant.days, Instant.secondsPerDay] at *
  omega

end Rfc3339

/-- What is read is of the years 0000 to 9999, or of the day before or the day after. -/
theorem days_of_readDatePhrase {text : String} {now t : Instant}
    (hclock : 1 ≤ now.date.year ∧ now.date.year ≤ 9998) (h : readDatePhrase text now = .ok t) :
    (Date.newYear 0).toDays - 1 ≤ t.days ∧ t.days ≤ (Date.newYear 10000).toDays := by
  have hzero : (Date.newYear 0).toDays = -719528 := rfl
  have hend : (Date.newYear 10000).toDays = 2932897 := rfl
  have hfirst : -719162 ≤ now.days := (now.newYear_le_days_iff 1).mpr hclock.1
  have hlast : now.days < 2932532 := by
    by_contra hle
    have hyear := (now.newYear_le_days_iff 9999).mp (Int.not_lt.mp hle)
    omega
  have hyesterday := now.days_addDays (n := -1) (by decide)
  have htomorrow := now.days_addDays (n := 1) (by decide)
  unfold readDatePhrase at h
  split_ifs at h
  · cases h
    omega
  · cases h
    rw [now.days_midnight]
    omega
  · cases h
    rw [Instant.days_midnight]
    omega
  · cases h
    rw [Instant.days_midnight]
    omega
  · obtain ⟨date, second, offset, ht⟩ := Rfc3339.exists_isLocal h
    have hdays := ht.days
    have hyear := ht.year
    have hlower := (Date.newYear_le_iff ht.valid 0).mpr hyear.1
    have hupper : ¬(Date.newYear 10000).toDays ≤ date.toDays := by
      rw [Date.newYear_le_iff ht.valid 10000]
      omega
    omega

theorem Instant.year_iff_not_isOutside {t : Instant}
    (h : (Date.newYear 0).toDays - 1 ≤ t.days ∧ t.days ≤ (Date.newYear 10000).toDays) :
    (0 ≤ t.date.year ∧ t.date.year ≤ 9999) ↔ ¬t.IsOutside := by
  constructor
  · rintro ⟨hfirst, hlast⟩ (hdate | hdate)
    · rw [hdate] at hfirst
      exact absurd hfirst (by decide)
    · rw [hdate] at hlast
      exact absurd hlast (by decide)
  · intro hinside
    have hfirst : t.days ≠ (Date.newYear 0).toDays - 1 := by
      intro hdays
      exact hinside (.inl (by rw [date, hdays]; rfl))
    have hlast : t.days ≠ (Date.newYear 10000).toDays := by
      intro hdays
      exact hinside (.inr (by rw [date, hdays]; rfl))
    have hyear := (t.newYear_le_days_iff 0).mp (by omega)
    have hnot : ¬10000 ≤ t.date.year := by
      rw [← t.newYear_le_days_iff 10000]
      omega
    omega

namespace Field

theorem coerce_date_text_iff {now : Instant} {f : Field} {s : String} (htype : f.type = .date)
    (hvalue : f.value = some (.text s)) :
    (f.coerce now).2 = none ↔ ∃ t, readDatePhrase s now = .ok t := by
  cases hread : readDatePhrase s now with
  | ok t => simp [coerce_date htype hvalue hread]
  | error e =>
    have hrefused : ((Value.text s).coerce .date now).ok = false := by simp [Value.coerce, hread]
    rw [coerce_of_value hvalue rfl, htype, hrefused]
    simp

/-- A text that a date field accepts is written as JSON as a text that it accepts too, except on the
day before the year 0000 and the day after the year 9999, to which an offset can lead from a year of
four digits. -/
theorem written_date_accepted_iff {now : Instant} (hnow : now.IsProper)
    (hclock : 1 ≤ now.date.year ∧ now.date.year ≤ 9998) {f : Field} {s : String}
    (htype : f.type = .date) (hvalue : f.value = some (.text s))
    (haccepted : (f.coerce now).2 = none) :
    ∃ t w, (f.coerce now).1.value = some (.timestamp t) ∧ (Value.timestamp t).toJson = .text w ∧
      ∀ (later : Instant) (g : Field), g.type = .date → g.value = some (.text w) →
        ((g.coerce later).2 = none ↔ ¬t.IsOutside) := by
  obtain ⟨t, hread⟩ := (coerce_date_text_iff htype hvalue).mp haccepted
  have ht : t.IsProper := isProper_of_readDatePhrase hnow hread
  have hinside := Instant.year_iff_not_isOutside (days_of_readDatePhrase hclock hread)
  refine ⟨t, Rfc3339.write t, ?_, rfl, fun later g hgtype hgvalue => ?_⟩
  · rw [coerce_date htype hvalue hread]
  · rw [coerce_date_text_iff hgtype hgvalue, readDatePhrase_write, ← hinside]
    constructor
    · rintro ⟨u, hu⟩
      by_contra hyear
      obtain ⟨e, he⟩ := Rfc3339.read_write_of_signed_year hyear
      cases hu.symm.trans he
    · intro hyear
      exact ⟨t, Rfc3339.read_write ht hyear⟩

/-- A leap second at the very end of the year 9999, in a place that is a minute behind. -/
theorem written_date_accepted_iff_of_leap_second :
    let now : Instant := ⟨0, 0⟩
    let f : Field :=
      { name := "a", type := .date, value := some (.text "9999-12-31T23:59:60-00:01") }
    now.IsProper ∧ (1 ≤ now.date.year ∧ now.date.year ≤ 9998) ∧ (f.coerce now).2 = none ∧
      ∃ t w, (f.coerce now).1.value = some (.timestamp t) ∧
        (Value.timestamp t).toJson = .text w ∧ t.IsOutside ∧
        ∀ g : Field, g.type = .date → g.value = some (.text w) → (g.coerce now).2 ≠ none := by
  intro now f
  have hnow : now.IsProper := ⟨by decide, by decide⟩
  have hclock : 1 ≤ now.date.year ∧ now.date.year ≤ 9998 := by decide
  have hcoerce : f.coerce now =
      ({ f with value := some (.timestamp ⟨253402300859, 1000000000⟩) }, none) := rfl
  have haccepted : (f.coerce now).2 = none := by rw [hcoerce]
  obtain ⟨t, w, ht, hw, hiff⟩ := written_date_accepted_iff hnow hclock (f := f) rfl rfl haccepted
  refine ⟨hnow, hclock, haccepted, t, w, ht, hw, ?_⟩
  have hinstant : t = ⟨253402300859, 1000000000⟩ := by
    rw [hcoerce] at ht
    simpa using ht.symm
  have houtside : t.IsOutside := by
    rw [hinstant]
    exact .inr rfl
  exact ⟨houtside, fun g hgtype hgvalue hg => (hiff now g hgtype hgvalue).mp hg houtside⟩

/-- The first second of the year 0000, in a place that is an hour ahead, is of the year before. -/
theorem date_before_calendar_not_read_back :
    let now : Instant := ⟨0, 0⟩
    let f (s : String) : Field := { name := "a", type := .date, value := some (.text s) }
    let t : Instant := ⟨-62167222800, 0⟩
    now.IsProper ∧ (1 ≤ now.date.year ∧ now.date.year ≤ 9998) ∧
      (f "0000-01-01T00:00:00+01:00").coerce now =
        ({ f "0000-01-01T00:00:00+01:00" with value := some (.timestamp t) }, none) ∧
      (Value.timestamp t).toJson = .text "-0001-12-31T23:00:00Z" ∧
      (f "-0001-12-31T23:00:00Z").coerce now =
        (f "-0001-12-31T23:00:00Z", some (Failure.ofField "type.date" "a")) :=
  ⟨⟨by decide, by decide⟩, by decide, rfl, rfl, rfl⟩

end Field
end FieldRules
