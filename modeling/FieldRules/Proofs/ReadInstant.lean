import FieldRules.Proofs.Bind
import FieldRules.Proofs.Numeral
import FieldRules.Proofs.WrittenInstant
import FieldRules.Time.Phrase
import Mathlib.Tactic.Ring

namespace FieldRules

namespace Text

theorem foldl_digits_lt {cs : List Char} (h : ∀ c ∈ cs, c.isDigit = true) (n : Nat) :
    cs.foldl (fun n c => 10 * n + (c.toNat - '0'.toNat)) n < (n + 1) * 10 ^ cs.length := by
  induction cs generalizing n with
  | nil => simp
  | cons c cs ih =>
    have hc : c.toNat - '0'.toNat < 10 := digit_lt (h c (by simp))
    have htail := ih (fun d hd => h d (by simp [hd])) (10 * n + (c.toNat - '0'.toNat))
    rw [List.foldl_cons, List.length_cons]
    calc cs.foldl (fun n c => 10 * n + (c.toNat - '0'.toNat)) (10 * n + (c.toNat - '0'.toNat))
        < (10 * n + (c.toNat - '0'.toNat) + 1) * 10 ^ cs.length := htail
      _ ≤ (10 * (n + 1)) * 10 ^ cs.length := Nat.mul_le_mul_right _ (by omega)
      _ = (n + 1) * 10 ^ (cs.length + 1) := by ring

theorem digitsValue_lt {cs : List Char} (h : ∀ c ∈ cs, c.isDigit = true) :
    digitsValue cs < 10 ^ cs.length := by
  have hlt := foldl_digits_lt h 0
  rwa [Nat.zero_add, Nat.one_mul] at hlt

end Text

namespace Rfc3339

variable {cs rest : List Char}

theorem readFraction_lt {nanos : Nat} (h : readFraction cs = .ok (nanos, rest)) :
    nanos < Instant.billion := by
  unfold readFraction at h
  dsimp only at h
  split at h
  · cases h
    have hdigits : ∀ c ∈ (cs.takeWhile Char.isDigit).take 9, c.isDigit = true :=
      fun c hc => List.mem_takeWhile_imp (List.mem_of_mem_take hc)
    have hlength : ((cs.takeWhile Char.isDigit).take 9).length ≤ 9 := by simp
    have hvalue := Text.digitsValue_lt hdigits
    have hpos : 0 < Nat.pow 10 (9 - ((cs.takeWhile Char.isDigit).take 9).length) :=
      Nat.pow_pos (by decide)
    calc _ < 10 ^ ((cs.takeWhile Char.isDigit).take 9).length *
          Nat.pow 10 (9 - ((cs.takeWhile Char.isDigit).take 9).length) :=
        Nat.mul_lt_mul_of_pos_right hvalue hpos
      _ = 10 ^ 9 := by
        change 10 ^ _ * 10 ^ _ = 10 ^ 9
        rw [← Nat.pow_add]
        congr 1
        omega
  · split at h
    · cases h
    · cases h

/-- Hour, minute and second are such as a day has; a leap second goes on from second 59. -/
theorem readTime_parts {second nanos : Nat} (h : readTime cs = .ok (second, nanos, rest)) :
    ∃ hour minute s n, hour < 24 ∧ minute < 60 ∧ s < 60 ∧ n < Instant.billion ∧
      second = 3600 * hour + 60 * minute + s ∧
      (nanos = n ∨ s = 59 ∧ nanos = n + Instant.billion) := by
  unfold readTime at h
  obtain ⟨⟨hour, cs1⟩, -, h⟩ := bind_ok.mp h
  obtain ⟨cs2, -, h⟩ := bind_ok.mp h
  obtain ⟨⟨minute, cs3⟩, -, h⟩ := bind_ok.mp h
  obtain ⟨cs4, -, h⟩ := bind_ok.mp h
  obtain ⟨⟨s, cs5⟩, -, h⟩ := bind_ok.mp h
  have hread : ∃ n, n < Instant.billion ∧ ∃ (p : Nat × Nat) (left : List Char),
      p = (if s = 60 then (59, n + Instant.billion) else (s, n)) ∧
      (if hour < 24 ∧ minute < 60 ∧ p.1 < 60 then
        Except.ok (3600 * hour + 60 * minute + p.1, p.2, left)
      else .error Error.outOfRange) = .ok (second, nanos, rest) := by
    dsimp only at h
    split at h
    · obtain ⟨⟨n, left⟩, hn, h⟩ := bind_ok.mp h
      exact ⟨n, readFraction_lt hn, _, left, rfl, h⟩
    · exact ⟨0, by decide, _, _, rfl, h⟩
  obtain ⟨n, hn, p, left, hp, h⟩ := hread
  split at h
  · rename_i hvalid
    cases h
    refine ⟨hour, minute, p.1, n, hvalid.1, hvalid.2.1, hvalid.2.2, hn, rfl, ?_⟩
    split at hp
    · exact .inr ⟨by rw [hp], by rw [hp]⟩
    · exact .inl (by rw [hp])
  · cases h

theorem readTime_lt {second nanos : Nat} (h : readTime cs = .ok (second, nanos, rest)) :
    second < 86400 := by
  obtain ⟨hour, minute, s, n, hhour, hminute, hs, -, rfl, -⟩ := readTime_parts h
  omega

/-- A billion nanoseconds or more are read in second 59 only. -/
theorem readTime_proper {second nanos : Nat} (h : readTime cs = .ok (second, nanos, rest)) :
    nanos < 2 * Instant.billion ∧ (Instant.billion ≤ nanos → second % 60 = 59) := by
  obtain ⟨hour, minute, s, n, -, -, hs, hn, rfl, hnanos⟩ := readTime_parts h
  omega

theorem readOffset_mod {offset : Int} (h : readOffset cs = .ok (offset, rest)) :
    offset % 60 = 0 := by
  unfold readOffset at h
  split at h
  · cases h
  · split at h
    · cases h
      rfl
    · split at h
      · obtain ⟨⟨hours, cs1⟩, -, h⟩ := bind_ok.mp h
        obtain ⟨cs2, -, h⟩ := bind_ok.mp h
        obtain ⟨⟨minutes, cs3⟩, -, h⟩ := bind_ok.mp h
        dsimp only at h
        split at h
        · cases h
          split <;> omega
        · cases h
      · cases h

theorem digit_bound {n : Nat} (h : digit cs = .ok (n, rest)) : n < 10 := by
  unfold digit at h
  split at h
  · cases h
  · split at h
    · rename_i hdigit
      cases h
      exact Text.digit_lt hdigit
    · cases h

theorem twoDigits_lt {n : Nat} (h : twoDigits cs = .ok (n, rest)) : n < 100 := by
  obtain ⟨⟨a, cs1⟩, ha, h⟩ := bind_ok.mp h
  obtain ⟨⟨b, cs2⟩, hb, h⟩ := bind_ok.mp h
  cases h
  have hten := digit_bound ha
  have hone := digit_bound hb
  omega

theorem fourDigits_lt {n : Nat} (h : fourDigits cs = .ok (n, rest)) : n < 10000 := by
  obtain ⟨⟨a, cs1⟩, ha, h⟩ := bind_ok.mp h
  obtain ⟨⟨b, cs2⟩, hb, h⟩ := bind_ok.mp h
  cases h
  have hcentury := twoDigits_lt ha
  have hyear := twoDigits_lt hb
  omega

/-- A date that is read is one of the calendar, in a year of four digits. -/
theorem readDate_isValid {d : Date} (h : readDate cs = .ok (d, rest)) :
    d.isValid = true ∧ 0 ≤ d.year ∧ d.year ≤ 9999 := by
  obtain ⟨⟨year, cs1⟩, hyear, h⟩ := bind_ok.mp h
  obtain ⟨cs2, -, h⟩ := bind_ok.mp h
  obtain ⟨⟨month, cs3⟩, -, h⟩ := bind_ok.mp h
  obtain ⟨cs4, -, h⟩ := bind_ok.mp h
  obtain ⟨⟨day, cs5⟩, -, h⟩ := bind_ok.mp h
  have hlt := fourDigits_lt hyear
  dsimp only at h
  split at h
  · rename_i hvalid
    cases h
    have hyears : (0 : Int) ≤ year ∧ (year : Int) ≤ 9999 := by omega
    exact ⟨hvalid, hyears⟩
  · cases h

/-- The instant is the second of the day in a place whose time is the offset ahead. -/
structure IsLocal (t : Instant) (date : Date) (second : Nat) (offset : Int) : Prop where
  valid : date.isValid = true
  year : 0 ≤ date.year ∧ date.year ≤ 9999
  second_lt : second < 86400
  nanos_lt : t.nanos < 2 * Instant.billion
  leap : Instant.billion ≤ t.nanos → second % 60 = 59
  offset_lt : offset.natAbs < Instant.secondsPerDay
  offset_mod : offset % 60 = 0
  secs : t.secs = date.toDays * Instant.secondsPerDay + second - offset

theorem exists_isLocal {text : String} {t : Instant} (h : read text = .ok t) :
    ∃ date second offset, IsLocal t date second offset := by
  unfold read readChars at h
  split at h
  · cases h
  · obtain ⟨⟨date, cs1⟩, hdate, h⟩ := bind_ok.mp h
    obtain ⟨cs2, -, h⟩ := bind_ok.mp h
    obtain ⟨⟨second, nanos, cs3⟩, htime, h⟩ := bind_ok.mp h
    obtain ⟨⟨offset, cs4⟩, hoffset, h⟩ := bind_ok.mp h
    obtain ⟨hnanos, hleap⟩ := readTime_proper htime
    dsimp only at h
    split at h
    · cases h
    · split at h
      · rename_i hlt
        cases h
        obtain ⟨hvalid, hyear⟩ := readDate_isValid hdate
        exact ⟨date, second, offset, hvalid, hyear, readTime_lt htime, hnanos, hleap, hlt,
          readOffset_mod hoffset, rfl⟩
      · cases h

theorem read_isProper {text : String} {t : Instant} (h : read text = .ok t) : t.IsProper := by
  obtain ⟨date, second, offset, ht⟩ := exists_isLocal h
  refine ⟨ht.nanos_lt, fun hbillion => ?_⟩
  have hsecond := ht.leap hbillion
  have hoffset := ht.offset_mod
  rw [ht.secs]
  simp only [Instant.secondsPerDay]
  omega

end Rfc3339

theorem Instant.isProper_midnight (t : Instant) : t.midnight.IsProper :=
  ⟨(by decide : 0 < 2 * billion), fun h => absurd h (by decide : ¬billion ≤ 0)⟩

theorem isProper_of_readDatePhrase {text : String} {now t : Instant} (hnow : now.IsProper)
    (h : readDatePhrase text now = .ok t) : t.IsProper := by
  unfold readDatePhrase at h
  split_ifs at h
  · cases h
    exact hnow
  · cases h
    exact now.isProper_midnight
  · cases h
    exact Instant.isProper_midnight _
  · cases h
    exact Instant.isProper_midnight _
  · exact Rfc3339.read_isProper h

end FieldRules
