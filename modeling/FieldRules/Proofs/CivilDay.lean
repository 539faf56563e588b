import FieldRules.Time.Calendar

namespace FieldRules.Date

/-- Day `d` of month `m` of the March year `y`, March being 0. -/
def ofMarch (y m d : Int) : Date :=
  ⟨if m < 10 then y else y + 1, (if m < 10 then m + 3 else m - 9).toNat, d.toNat⟩

/-- The day `n` is day `d` of month `m` in the year `o` of the group of four `f` of the century `e`
of the cycle `c`. A February has a 29th day only in the last year of its group, and not in the last
of a century unless that is the last of its cycle. -/
structure IsMarchDay (n c e f o m d : Int) : Prop where
  days : n + epoch = 146097 * c + 36524 * e + 1461 * f + 365 * o + daysBefore m + d - 1
  century : 0 ≤ e ∧ e ≤ 3
  four : 0 ≤ f ∧ f ≤ 24
  one : 0 ≤ o ∧ o ≤ 3
  month : 0 ≤ m ∧ m ≤ 11
  day : 1 ≤ d ∧ d ≤ daysBefore (m + 1) - daysBefore m
  february : m = 11 → d ≤ 29
  leap : m = 11 → d = 29 → o = 3 ∧ (f = 24 → e = 3)

theorem isMarchDay_of_year {n c e f o r : Int}
    (hdays : n + epoch = 146097 * c + 36524 * e + 1461 * f + 365 * o + r)
    (hcentury : 0 ≤ e ∧ e ≤ 3) (hfour : 0 ≤ f ∧ f ≤ 24) (hone : 0 ≤ o ∧ o ≤ 3)
    (hr : 0 ≤ r ∧ r ≤ 365) (hleap : r = 365 → o = 3 ∧ (f = 24 → e = 3)) :
    IsMarchDay n c e f o ((5 * r + 2) / 153) (r - daysBefore ((5 * r + 2) / 153) + 1) := by
  refine ⟨by omega, hcentury, hfour, hone, by omega, ?_, ?_, ?_⟩
  · simp only [daysBefore]
    omega
  · intro hm
    rw [hm]
    simp only [daysBefore]
    omega
  · intro hm hd
    rw [hm] at hd
    simp only [daysBefore] at hd
    exact hleap (by omega)

theorem exists_marchDay (n : Int) : ∃ c e f o m d, IsMarchDay n c e f o m d ∧
    ofDays n = ofMarch (400 * c + 100 * e + 4 * f + o) m d := by
  refine ⟨_, _, _, _, _, _, isMarchDay_of_year ?_ ?_ ?_ ?_ ?_ ?_, rfl⟩
  all_goals omega

theorem toDays_ofMarch {y m d : Int} (hm : 0 ≤ m ∧ m ≤ 11) (hd : 1 ≤ d) :
    (ofMarch y m d).toDays =
      365 * y + y / 4 - y / 100 + y / 400 + daysBefore m + d - 1 - epoch := by
  have hday : (d.toNat : Int) = d := by omega
  simp only [ofMarch, toDays, hday]
  by_cases hlate : m < 10
  · have hmonth : ¬(m + 3).toNat ≤ 2 := by omega
    have hback : ((m + 3).toNat : Int) - 3 = m := by omega
    simp only [if_pos hlate, if_neg hmonth, hback]
  · have hmonth : (m - 9).toNat ≤ 2 := by omega
    have hback : ((m - 9).toNat : Int) + 9 = m := by omega
    have hyear : y + 1 - 1 = y := by omega
    simp only [if_neg hlate, if_pos hmonth, hback, hyear]

theorem toDays_ofDays (n : Int) : (ofDays n).toDays = n := by
  obtain ⟨c, e, f, o, m, d, h, hdate⟩ := exists_marchDay n
  obtain ⟨hdays, hcentury, hfour, hone, hmonth, hday, -, -⟩ := h
  rw [hdate, toDays_ofMarch hmonth hday.1]
  omega

theorem isLeap_iff (year : Int) :
    isLeap year = true ↔ year % 4 = 0 ∧ (year % 100 ≠ 0 ∨ year % 400 = 0) := by
  simp [isLeap]

/-- A month has as many days as lie between its beginning and that of the next; February is the
last month of its March year. -/
theorem day_le_daysInMonth {y m d : Int} (hm : 0 ≤ m ∧ m ≤ 11)
    (hd : 1 ≤ d ∧ d ≤ daysBefore (m + 1) - daysBefore m) (hfebruary : m = 11 → d ≤ 29)
    (hleap : m = 11 → d = 29 → isLeap (y + 1) = true) :
    (ofMarch y m d).day ≤ daysInMonth (ofMarch y m d).year (ofMarch y m d).month := by
  by_cases hlast : m = 11
  · have hday := hfebruary hlast
    have hyear := hleap hlast
    subst hlast
    change d.toNat ≤ if isLeap (y + 1) then 29 else 28
    cases hl : isLeap (y + 1) with
    | true =>
      rw [if_pos rfl]
      omega
    | false =>
      have hshort : d ≠ 29 := fun h29 => by simp [hl] at hyear; exact hyear h29
      rw [if_neg Bool.false_ne_true]
      omega
  · have hcases : m = 0 ∨ m = 1 ∨ m = 2 ∨ m = 3 ∨ m = 4 ∨ m = 5 ∨ m = 6 ∨ m = 7 ∨ m = 8 ∨
        m = 9 ∨ m = 10 := by omega
    rcases hcases with rfl | rfl | rfl | rfl | rfl | rfl | rfl | rfl | rfl | rfl | rfl
    all_goals simp [daysBefore] at hd
    all_goals simp [ofMarch, daysInMonth]
    all_goals omega

theorem isValid_ofMarch {y m d : Int} (hm : 0 ≤ m ∧ m ≤ 11)
    (hd : 1 ≤ d ∧ d ≤ daysBefore (m + 1) - daysBefore m) (hfebruary : m = 11 → d ≤ 29)
    (hleap : m = 11 → d = 29 → isLeap (y + 1) = true) : (ofMarch y m d).isValid = true := by
  have hlength := day_le_daysInMonth hm hd hfebruary hleap
  have hmonth : 1 ≤ (ofMarch y m d).month ∧ (ofMarch y m d).month ≤ 12 := by
    simp only [ofMarch]
    omega
  have hday : 1 ≤ (ofMarch y m d).day := by
    simp only [ofMarch]
    omega
  simp [isValid, hlength, hmonth, hday]

theorem isValid_ofDays (n : Int) : (ofDays n).isValid = true := by
  obtain ⟨c, e, f, o, m, d, h, hdate⟩ := exists_marchDay n
  obtain ⟨-, hcentury, hfour, hone, hmonth, hday, hfebruary, hleap⟩ := h
  rw [hdate]
  refine isValid_ofMarch hmonth hday hfebruary fun hm hd => ?_
  obtain ⟨ho, he⟩ := hleap hm hd
  rw [isLeap_iff]
  omega

end FieldRules.Date
