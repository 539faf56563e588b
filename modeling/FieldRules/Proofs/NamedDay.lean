import FieldRules.Proofs.CivilDay
import FieldRules.Time.Phrase

namespace FieldRules

/-- The start of a day of the calendar. -/
def Date.midnight (d : Date) : Instant := ⟨d.toDays * Instant.secondsPerDay, 0⟩

namespace Instant

/-- A day starts at the instant. -/
structure IsMidnight (t : Instant) : Prop where
  nanos : t.nanos = 0
  secs : secondsPerDay ∣ t.secs

theorem isMidnight_midnight (t : Instant) : t.midnight.IsMidnight :=
  ⟨rfl, Int.dvd_mul_left _ _⟩

/-- Dropping the seconds of the day is the same as going through the calendar. -/
theorem midnight_eq_date (t : Instant) : t.midnight = t.date.midnight := by
  have hdays : t.date.toDays = t.days := Date.toDays_ofDays t.days
  rw [Date.midnight, hdays]
  rfl

theorem midnight_le (t : Instant) : t.midnight.le t = true := by
  have hsecs : t.midnight.secs ≤ t.secs := by
    simp only [midnight, days, secondsPerDay]
    omega
  have hearlier : ¬t.secs < t.midnight.secs := by omega
  simp [le, lt, hearlier, t.isMidnight_midnight.nanos]

theorem lt_midnight_of_days_lt {t u : Instant} (h : t.days < u.days) : t.lt u.midnight = true := by
  have hsecs : t.secs < u.midnight.secs := by
    simp only [midnight, days, secondsPerDay] at h ⊢
    omega
  simp [lt, hsecs]

theorem secs_midnight_succ {t u : Instant} (h : u.days = t.days + 1) :
    u.midnight.secs = t.midnight.secs + secondsPerDay := by
  simp only [midnight, h, secondsPerDay]
  omega

/-- The clock shows the second 60 that follows the last second of a day. -/
structure EndsDayInLeapSecond (t : Instant) : Prop where
  leap : billion ≤ t.nanos
  last : t.secs % secondsPerDay = secondsPerDay - 1

instance (t : Instant) : Decidable t.EndsDayInLeapSecond :=
  decidable_of_iff (billion ≤ t.nanos ∧ t.secs % secondsPerDay = secondsPerDay - 1)
    ⟨fun h => ⟨h.1, h.2⟩, fun h => ⟨h.leap, h.last⟩⟩

/-- The way forward leaves a leap second from the second before it, which is of the same day. -/
theorem days_addDays_forward (t : Instant) {n : Int} (hn : 0 ≤ n) :
    (t.addDays n).days = t.days + n := by
  have hsecs : (t.addDays n).secs = t.secs + n * secondsPerDay := by
    unfold addDays addSeconds
    split
    · rfl
    · have hforward : 0 < n * secondsPerDay := by
        simp only [secondsPerDay] at *
        omega
      rw [if_pos hforward]
  simp only [days, hsecs, secondsPerDay]
  omega

/-- The way back leaves a leap second from the second after it, which at the end of a day is of the
next day. -/
theorem days_addDays_back (t : Instant) {n : Int} (hn : n < 0) :
    (t.addDays n).days = t.days + n + if t.EndsDayInLeapSecond then 1 else 0 := by
  have hmoved : n * secondsPerDay < 0 := by
    simp only [secondsPerDay]
    omega
  by_cases hleap : billion ≤ t.nanos
  · have hsecs : (t.addDays n).secs = t.secs + 1 + n * secondsPerDay := by
      have hleave : ¬(t.nanos < billion ∨ n * secondsPerDay = 0) := by omega
      rw [addDays, addSeconds, if_neg hleave, if_neg (by omega)]
    by_cases hlast : t.secs % secondsPerDay = secondsPerDay - 1
    · rw [if_pos ⟨hleap, hlast⟩, days, hsecs]
      simp only [days, secondsPerDay] at hlast ⊢
      omega
    · rw [if_neg fun h => hlast h.last, days, hsecs]
      simp only [days, secondsPerDay] at hlast ⊢
      omega
  · have hsecs : (t.addDays n).secs = t.secs + n * secondsPerDay := by
      rw [addDays, addSeconds, if_pos (.inl (Nat.not_le.mp hleap))]
    rw [if_neg fun h => hleap h.leap, days, hsecs]
    simp only [days, secondsPerDay]
    omega

end Instant

open Instant

/-- Yesterday, today and tomorrow are midnights, today that of the date the clock shows; tomorrow
follows today by a day, with the clock between the two, and today follows yesterday by a day unless
the clock is inside a leap second at the end of a day: then yesterday is today. -/
theorem named_days_consecutive_iff (now : Instant) :
    ∃ yesterday today tomorrow, readDatePhrase "yesterday" now = .ok yesterday ∧
      readDatePhrase "today" now = .ok today ∧ readDatePhrase "tomorrow" now = .ok tomorrow ∧
      yesterday.IsMidnight ∧ today.IsMidnight ∧ tomorrow.IsMidnight ∧
      today = now.date.midnight ∧ tomorrow.secs = today.secs + secondsPerDay ∧
      today.le now = true ∧ now.lt tomorrow = true ∧
      (today.secs = yesterday.secs + secondsPerDay ↔ ¬now.EndsDayInLeapSecond) ∧
      (now.EndsDayInLeapSecond → yesterday = today) := by
  have htomorrow : (now.addDays 1).days = now.days + 1 := now.days_addDays_forward (by decide)
  have hyesterday := now.days_addDays_back (n := -1) (by decide)
  refine ⟨(now.addDays (-1)).midnight, now.midnight, (now.addDays 1).midnight, rfl, rfl, rfl,
    isMidnight_midnight _, isMidnight_midnight _, isMidnight_midnight _, now.midnight_eq_date,
    secs_midnight_succ htomorrow, now.midnight_le, lt_midnight_of_days_lt (by omega), ?_⟩
  by_cases hends : now.EndsDayInLeapSecond
  · have hsame : (now.addDays (-1)).midnight = now.midnight := by
      rw [if_pos hends] at hyesterday
      have hdays : (now.addDays (-1)).days = now.days := by omega
      rw [midnight, midnight, hdays]
    have hstay : now.midnight.secs ≠ now.midnight.secs + secondsPerDay := by
      simp only [secondsPerDay]
      omega
    simp [hsame, hends, hstay]
  · have hbefore : now.days = (now.addDays (-1)).days + 1 := by
      rw [if_neg hends] at hyesterday
      omega
    simp [secs_midnight_succ hbefore, hends]

/-- Inside the leap second at the end of a day the phrase `yesterday` names that day. -/
theorem yesterday_in_leap_second :
    let now : Instant := ⟨86399, 1000000000⟩
    ∃ yesterday today, readDatePhrase "yesterday" now = .ok yesterday ∧
      readDatePhrase "today" now = .ok today ∧ today = ⟨0, 0⟩ ∧
      today.secs ≠ yesterday.secs + secondsPerDay :=
  ⟨⟨0, 0⟩, ⟨0, 0⟩, rfl, rfl, rfl, by decide⟩

end FieldRules
