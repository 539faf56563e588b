import FieldRules.Format.NationalCode
import FieldRules.Proofs.Numeral
import Mathlib.Data.Nat.ModEq
import Mathlib.Data.Nat.Prime.Basic
import Mathlib.Tactic.Ring

namespace FieldRules.NationalCode

/-- Nine digits, which a check digit follows. -/
structure IsBody (body : String) : Prop where
  length : body.length = 9
  digits : ∀ c ∈ body.toList, c.isDigit = true

/-- A slip in writing a text down: one character is wrong, or two different ones have changed
places. -/
inductive Slip : List Char → List Char → Prop
  | wrong (front back : List Char) {c d : Char} (h : c ≠ d) :
      Slip (front ++ c :: back) (front ++ d :: back)
  | swapped (front middle back : List Char) {c d : Char} (h : c ≠ d) :
      Slip (front ++ c :: (middle ++ d :: back)) (front ++ d :: (middle ++ c :: back))

/-- Sum of the digits under weights that go down from `w`. -/
def weighted (w : Nat) : List Char → Nat
  | [] => 0
  | c :: cs => digit c * w + weighted (w - 1) cs

theorem weighted_append (w : Nat) (xs ys : List Char) :
    weighted w (xs ++ ys) = weighted w xs + weighted (w - xs.length) ys := by
  induction xs generalizing w with
  | nil => simp [weighted]
  | cons c xs ih =>
    have hw : w - 1 - xs.length = w - (xs.length + 1) := by omega
    rw [List.cons_append, weighted, weighted, ih, List.length_cons, hw, Nat.add_assoc]

theorem foldl_zipIdx (cs : List Char) (i n : Nat) :
    (cs.zipIdx i).foldl (fun n (c, i) => n + digit c * (10 - i)) n = n + weighted (10 - i) cs := by
  induction cs generalizing i n with
  | nil => rfl
  | cons c cs ih =>
    have hi : 10 - (i + 1) = 10 - i - 1 := by omega
    rw [List.zipIdx_cons, List.foldl_cons, ih, weighted, hi, Nat.add_assoc]

theorem weightedSum_eq (cs : List Char) : weightedSum cs = weighted 10 (cs.take 9) := by
  rw [weightedSum, foldl_zipIdx, Nat.zero_add]

theorem weightedSum_of_body {cs : List Char} (h : cs.length = 9) :
    weightedSum cs = weighted 10 cs := by
  rw [weightedSum_eq, List.take_of_length_le (Nat.le_of_eq h)]

theorem weightedSum_concat {cs : List Char} (h : cs.length = 9) (c : Char) :
    weightedSum (cs ++ [c]) = weightedSum cs := by
  rw [weightedSum_eq, List.take_left' h, weightedSum_of_body h]

theorem digit_inj {c d : Char} (hc : c.isDigit = true) (hd : d.isDigit = true)
    (h : digit c = digit d) : c = d := by
  have hzero (e : Char) (he : e.isDigit = true) : '0'.toNat ≤ e.toNat := by
    simp only [Char.isDigit, Bool.and_eq_true, decide_eq_true_eq] at he
    exact he.1
  have hcode : c.toNat = d.toNat := by
    have hcz := hzero c hc
    have hdz := hzero d hd
    simp only [digit] at h
    omega
  exact Char.toNat_inj.mp hcode

/-- Eleven is a prime, so a weight tells two digits apart. -/
theorem eq_of_mul_modEq {a b w : Nat} (ha : a < 10) (hb : b < 10) (hw : 0 < w) (hw' : w < 11)
    (h : a * w ≡ b * w [MOD 11]) : a = b := by
  have hcoprime : Nat.gcd 11 w = 1 := by
    apply (Nat.Prime.coprime_iff_not_dvd Nat.prime_eleven).mpr
    exact Nat.not_dvd_of_pos_of_lt hw hw'
  have hmod : a ≡ b [MOD 11] := h.cancel_right_of_coprime hcoprime
  exact hmod.eq_of_lt_of_lt (by omega) (by omega)

/-- Two digits that change places both keep the smaller of their weights, and so only the difference
of the weights counts. -/
theorem mul_modEq_of_swapped {a b u k m r : Nat}
    (h : a * (u + k) + (m + (b * u + r)) ≡ b * (u + k) + (m + (a * u + r)) [MOD 11]) :
    a * k ≡ b * k [MOD 11] := by
  apply Nat.ModEq.add_right_cancel' (a * u + b * u + m + r)
  calc a * k + (a * u + b * u + m + r)
      = a * (u + k) + (m + (b * u + r)) := by ring
    _ ≡ b * (u + k) + (m + (a * u + r)) [MOD 11] := h
    _ = b * k + (a * u + b * u + m + r) := by ring

theorem Slip.length_eq {x y : List Char} (h : Slip x y) : y.length = x.length := by
  cases h with
  | wrong front back _ => simp
  | swapped front middle back _ => simp

/-- A slip in nine digits changes what the sum leaves. -/
theorem Slip.weightedSum_mod_ne {x y : List Char} (h : Slip x y) (hlength : x.length = 9)
    (hx : ∀ c ∈ x, c.isDigit = true) (hy : ∀ c ∈ y, c.isDigit = true) :
    weightedSum x % 11 ≠ weightedSum y % 11 := by
  rw [weightedSum_of_body hlength, weightedSum_of_body (h.length_eq.trans hlength)]
  intro hmod
  cases h with
  | wrong front back hne =>
    rename_i c d
    have hc := hx c (by simp)
    have hd := hy d (by simp)
    have hfront : front.length + (back.length + 1) = 9 := by simpa using hlength
    have hsum : digit c * (10 - front.length) ≡ digit d * (10 - front.length) [MOD 11] := by
      rw [weighted_append, weighted_append, weighted, weighted] at hmod
      exact (Nat.ModEq.add_left_cancel' _ hmod).add_right_cancel' _
    have hdigit := eq_of_mul_modEq (Text.digit_lt hc) (Text.digit_lt hd) (by omega) (by omega) hsum
    exact hne (digit_inj hc hd hdigit)
  | swapped front middle back hne =>
    rename_i c d
    have hc := hx c (by simp)
    have hd := hx d (by simp)
    have hfront : front.length + (middle.length + (back.length + 1) + 1) = 9 := by
      simpa using hlength
    have hsum : digit c * (middle.length + 1) ≡ digit d * (middle.length + 1) [MOD 11] := by
      rw [weighted_append, weighted_append] at hmod
      have hrest := Nat.ModEq.add_left_cancel' _ hmod
      simp only [weighted, weighted_append] at hrest
      generalize hu : 10 - front.length - 1 - middle.length = u at hrest
      have hv : 10 - front.length = u + (middle.length + 1) := by omega
      rw [hv] at hrest
      exact mul_modEq_of_swapped hrest
    have hdigit := eq_of_mul_modEq (Text.digit_lt hc) (Text.digit_lt hd) (by omega) (by omega) hsum
    exact hne (digit_inj hc hd hdigit)

theorem checkDigit_lt (cs : List Char) : checkDigit cs < 10 := by
  simp only [checkDigit]
  split <;> omega

/-- Two sums that leave different numbers have the same check digit only when they leave 1 and
10. -/
theorem sums_of_checkDigit_eq {xs ys : List Char} (h : checkDigit xs = checkDigit ys)
    (hne : weightedSum xs % 11 ≠ weightedSum ys % 11) :
    weightedSum xs % 11 = 1 ∧ weightedSum ys % 11 = 10 ∨
      weightedSum xs % 11 = 10 ∧ weightedSum ys % 11 = 1 := by
  simp only [checkDigit] at h
  split at h <;> split at h <;> omega

theorem exists_digit {n : Nat} (h : n < 10) : ∃ c : Char, c.isDigit = true ∧ digit c = n := by
  have hall : ∀ n < 10, (Nat.digitChar n).isDigit = true ∧ digit (Nat.digitChar n) = n := by decide
  exact ⟨Nat.digitChar n, hall n h⟩

theorem isValid_iff (text : String) :
    isValid text = true ↔ text.length = 10 ∧ (∀ c ∈ text.toList, c.isDigit = true) ∧
      (text.toList.drop 9).map digit = [checkDigit text.toList] := by
  simp [isValid, and_assoc, String.length_toList]

theorem isValid_push_iff {body : String} (h : IsBody body) (c : Char) :
    isValid (body.push c) = true ↔ c.isDigit = true ∧ digit c = checkDigit body.toList := by
  have hlength : body.toList.length = 9 := h.length
  have hdrop : (body.toList ++ [c]).drop 9 = [c] := List.drop_left' hlength
  have hcheck : checkDigit (body.toList ++ [c]) = checkDigit body.toList := by
    simp only [checkDigit, weightedSum_concat hlength]
  have hdigits : (∀ d ∈ body.toList ++ [c], d.isDigit = true) ↔ c.isDigit = true := by
    constructor
    · intro hall
      exact hall c (by simp)
    · intro hc d hd
      rcases List.mem_append.mp hd with hd | hd
      · exact h.digits d hd
      · rwa [List.mem_singleton.mp hd]
  rw [isValid_iff, String.toList_push, hdrop, hcheck, hdigits]
  simp [h.length]

theorem getElem?_behind {cs : List Char} (h : cs.length = 9) (c : Char) :
    (cs ++ [c])[9]? = some c := by
  rw [← h]
  exact List.getElem?_concat_length

/-- A valid code is a body and the digit behind it. -/
theorem exists_body {text : String} (h : isValid text = true) :
    ∃ body c, IsBody body ∧ text = body.push c := by
  obtain ⟨hlength, hdigits, -⟩ := (isValid_iff text).mp h
  have hcount : text.toList.length = 10 := hlength
  have hone : (text.toList.drop 9).length = 1 := by rw [List.length_drop, hcount]
  obtain ⟨c, hc⟩ := List.length_eq_one_iff.mp hone
  refine ⟨String.ofList (text.toList.take 9), c, ⟨?_, ?_⟩, ?_⟩
  · simp [hcount]
  · intro d hd
    rw [String.toList_ofList] at hd
    exact hdigits d (List.mem_of_mem_take hd)
  · rw [← String.toList_inj, String.toList_push, String.toList_ofList, ← hc,
      List.take_append_drop]

/-- Only ten digits can be valid, and each body has just one check digit. When two valid codes with
the same last digit differ by one wrong digit or by two different ones that have changed places, the
sum of one leaves 1 and that of the other 10; these are the sums whose check digit is 1. -/
theorem check_digit_detects :
    (∀ text, isValid text = true → text.length = 10 ∧ ∀ c ∈ text.toList, c.isDigit = true) ∧
    (∀ body, IsBody body → ∃! c, isValid (body.push c) = true) ∧
    (∀ s t, isValid s = true → isValid t = true → s.toList[9]? = t.toList[9]? →
      Slip (s.toList.take 9) (t.toList.take 9) →
      weightedSum s.toList % 11 = 1 ∧ weightedSum t.toList % 11 = 10 ∨
        weightedSum s.toList % 11 = 10 ∧ weightedSum t.toList % 11 = 1) ∧
    (∀ body, IsBody body → (isValid (body.push '1') = true ↔
      weightedSum body.toList % 11 = 1 ∨ weightedSum body.toList % 11 = 10)) := by
  refine ⟨?_, ?_, ?_, ?_⟩
  · intro text h
    obtain ⟨hlength, hdigits, -⟩ := (isValid_iff text).mp h
    exact ⟨hlength, hdigits⟩
  · intro body hbody
    obtain ⟨c, hc, hdigit⟩ := exists_digit (checkDigit_lt body.toList)
    refine ⟨c, (isValid_push_iff hbody c).mpr ⟨hc, hdigit⟩, ?_⟩
    intro d hd
    obtain ⟨hd, hdigit'⟩ := (isValid_push_iff hbody d).mp hd
    exact digit_inj hd hc (hdigit'.trans hdigit.symm)
  · intro s t hs ht hlast hslip
    obtain ⟨x, c, hx, rfl⟩ := exists_body hs
    obtain ⟨y, d, hy, rfl⟩ := exists_body ht
    have hxlength : x.toList.length = 9 := hx.length
    have hylength : y.toList.length = 9 := hy.length
    rw [String.toList_push, String.toList_push, List.take_left' hxlength,
      List.take_left' hylength] at hslip
    rw [String.toList_push, String.toList_push, getElem?_behind hxlength,
      getElem?_behind hylength] at hlast
    obtain rfl := Option.some.inj hlast
    have hcheck : checkDigit x.toList = checkDigit y.toList := by
      rw [← ((isValid_push_iff hx c).mp hs).2, ((isValid_push_iff hy c).mp ht).2]
    rw [String.toList_push, String.toList_push, weightedSum_concat hxlength,
      weightedSum_concat hylength]
    exact sums_of_checkDigit_eq hcheck (hslip.weightedSum_mod_ne hxlength hx.digits hy.digits)
  · intro body hbody
    have hdigit : '1'.isDigit = true := rfl
    have hone : digit '1' = 1 := rfl
    rw [isValid_push_iff hbody, and_iff_right hdigit, hone, checkDigit]
    split <;> omega

/-- One digit is off by one, and yet both codes are valid. -/
theorem check_digit_detects_of_last_weight :
    isValid "1000000001" = true ∧ isValid "1000000011" = true ∧
      Slip ("1000000001".toList.take 9) ("1000000011".toList.take 9) ∧
      weightedSum "1000000001".toList % 11 = 10 ∧ weightedSum "1000000011".toList % 11 = 1 := by
  obtain ⟨-, -, hslips, -⟩ := check_digit_detects
  have hs : isValid "1000000001" = true := by decide
  have ht : isValid "1000000011" = true := by decide
  have hslip : Slip ("1000000001".toList.take 9) ("1000000011".toList.take 9) :=
    Slip.wrong "10000000".toList [] (by decide : '0' ≠ '1')
  have hsum := hslips _ _ hs ht (by decide) hslip
  have hten : weightedSum "1000000001".toList % 11 ≠ 1 := by decide
  exact ⟨hs, ht, hslip, hsum.resolve_left fun h => hten h.1⟩

end FieldRules.NationalCode
