import FieldRules.Proofs.ArgumentForm
import FieldRules.Proofs.Run
import FieldRules.Proofs.Binary64
import FieldRules.Proofs.CanonicalValue
import Mathlib.Algebra.Order.Field.Power
import Mathlib.Algebra.Order.Ring.Rat
import Mathlib.Data.Nat.Cast.Order.Field
import Mathlib.Tactic.GCongr

namespace FieldRules

namespace Binary64

open Float.Model Float.Model.UnpackedFloat

/-- A whole number that a finite number can be. -/
def Holds (n : Nat) : Prop := ∃ m k, m < 2 ^ 53 ∧ k ≤ 971 ∧ n = m * 2 ^ k

theorem holds_wholePart {m : Nat} {e : Int} (hm : m < 2 ^ 53) (he : e ≤ 971) :
    Holds (wholePart m e) := by
  unfold wholePart
  split
  · exact ⟨m, e.toNat, hm, by omega, rfl⟩
  · exact ⟨m / 2 ^ (-e).toNat, 0, (Nat.div_le_self _ _).trans_lt hm, by omega, (Nat.mul_one _).symm⟩

theorem wholePart_le (m : Nat) (e : Int) : (wholePart m e : ℚ) ≤ m * 2 ^ e := by
  unfold wholePart
  split
  · rename_i he
    obtain ⟨k, rfl⟩ := Int.eq_ofNat_of_zero_le he
    simp
  · rename_i he
    obtain ⟨k, hk⟩ := Int.eq_ofNat_of_zero_le (Int.neg_nonneg_of_nonpos (Int.not_le.mp he).le)
    obtain rfl : e = -(k : Int) := by omega
    rw [zpow_neg, zpow_natCast, ← div_eq_mul_inv, neg_neg, Int.toNat_natCast]
    exact_mod_cast (Nat.cast_div_le : ((m / 2 ^ k : Nat) : ℚ) ≤ m / (2 ^ k : Nat))

theorem ofNat_eq_round {n : Nat} (hpos : 0 < n) :
    UnpackedFloat.ofNat .binary64 n = UnpackedFloat.round .binary64 .positive n 0 := by
  have hcmp : compare (n : Int) 0 = .gt := Std.compare_eq_gt.mpr (by omega)
  simp only [UnpackedFloat.ofNat, UnpackedFloat.ofInt, UnpackedFloat.normalize, hcmp,
    Int.toNat_natCast]

theorem Holds.log2_le {n : Nat} (hn : Holds n) (hpos : 0 < n) : n.log2 ≤ 1023 := by
  obtain ⟨a, k, ha, hk, rfl⟩ := hn
  have hne : a ≠ 0 := (Nat.pos_of_mul_pos_right hpos).ne'
  have hlog := (Nat.log2_lt hne).mpr ha
  rw [log2_mul_two_pow hne]
  omega

theorem Holds.mantissa {n : Nat} (hn : Holds n) (hpos : 0 < n) :
    ∃ m, m.log2 = 52 ∧ n * 2 ^ (52 - n.log2) = m * 2 ^ (n.log2 - 52) := by
  obtain ⟨a, k, ha, hk, rfl⟩ := hn
  have hne : a ≠ 0 := (Nat.pos_of_mul_pos_right hpos).ne'
  have hlog := (Nat.log2_lt hne).mpr ha
  refine ⟨a * 2 ^ (52 - a.log2), ?_, ?_⟩
  · rw [log2_mul_two_pow hne]
    omega
  · rw [log2_mul_two_pow hne, Nat.mul_assoc, Nat.mul_assoc, ← Nat.pow_add, ← Nat.pow_add]
    congr 2
    omega

/-- A whole number is taken as itself when it can be held. -/
theorem ofNat_unpack {n : Nat} (hn : Holds n) (hpos : 0 < n) :
    ∃ (m : Nat) (e : Int) (hm : 0 < m), (Float.Model.ofNat n).unpack = .finite .positive m e hm ∧
      Normal m e ∧ -52 ≤ e ∧ (m : ℚ) * 2 ^ e = n := by
  obtain ⟨m, hm, hparts⟩ := hn.mantissa hpos
  have hlog := hn.log2_le hpos
  generalize ht : 52 - n.log2 = t at hparts
  generalize hk : n.log2 - 52 = k at hparts
  have hnormal : Normal m (-(t : Int) + k) := ⟨hm, by omega, by omega⟩
  refine ⟨m, -(t : Int) + k, hnormal.pos, ?_, hnormal, by omega, ?_⟩
  · have htarget : Format.binary64.targetExponent (totalExponent n 0) = (k : Int) - t := by
      change max ((n.log2 : Int) + 1 + 0 - ((53 : Nat) : Int)) (-1074) = _
      omega
    have hamount : (0 - ((k : Int) - t)).toNat = t := by omega
    have hround : UnpackedFloat.round .binary64 .positive n 0 =
        roundWithAccuracy .binary64 .positive (m * 2 ^ k) (-(t : Int)) .exact := by
      simp only [UnpackedFloat.round, htarget, decreaseExponent, hamount, Nat.shiftLeft_eq, hparts]
      rw [zero_sub]
    rw [← unpack_pack hnormal.pos hnormal,
      ← roundWithAccuracy_exact hm hnormal.pos (by omega : -1074 ≤ -(t : Int)), ← hround,
      ← ofNat_eq_round hpos]
    rfl
  · have hparts' : (m : ℚ) * 2 ^ k = n * 2 ^ t := by exact_mod_cast hparts.symm
    rw [zpow_add₀ two_ne_zero, zpow_neg, zpow_natCast, zpow_natCast, mul_left_comm, hparts',
      mul_comm (n : ℚ), inv_mul_cancel_left₀ (pow_ne_zero t two_ne_zero)]

/-- Ten is `5 * 2 ^ 50 * 2 ^ (-49)`. -/
theorem divCore_ten {m : Nat} {e : Int} (hm : m.log2 = 52) (he : -52 ≤ e) :
    divCore .binary64 m e (5 * 2 ^ 50) (-49) = (m * 2 ^ 53 / (5 * 2 ^ 50), e - 4,
      accuracyOfFraction (m * 2 ^ 53 % (5 * 2 ^ 50)) (5 * 2 ^ 50)) := by
  have hten : (5 * 2 ^ 50 : Nat).log2 = 52 := by decide +kernel
  have htotal : totalExponent m e - totalExponent (5 * 2 ^ 50) (-49) = e + 49 := by
    rw [totalExponent, totalExponent, hm, hten]
    omega
  have htarget : min (e - -49) (Format.binary64.targetExponent
      (totalExponent m e - totalExponent (5 * 2 ^ 50) (-49))) = e - 4 := by
    rw [htotal]
    change min (e - -49) (max (e + 49 - ((53 : Nat) : Int)) (-1074)) = e - 4
    omega
  have hshift : (e - -49 - (e - 4)).toNat = 53 := by omega
  simp only [divCore, htarget, hshift, Nat.shiftLeft_eq]

theorem mul_zpow_lt {m m' i : Nat} (e : Int) (h : m' * 2 ^ i < m * 16) :
    (m' : ℚ) * 2 ^ (e - 4 + i) < m * 2 ^ e := by
  have hunit : (0 : ℚ) < 2 ^ (e - 4) := zpow_pos two_pos _
  calc (m' : ℚ) * 2 ^ (e - 4 + i) = ((m' * 2 ^ i : Nat) : ℚ) * 2 ^ (e - 4) := by
        rw [zpow_add₀ two_ne_zero, zpow_natCast]
        push_cast
        ring
    _ < ((m * 16 : Nat) : ℚ) * 2 ^ (e - 4) := by gcongr
    _ = m * 2 ^ e := by
        rw [zpow_sub₀ two_ne_zero]
        push_cast
        ring

/-- The quotient by ten is smaller, even after it is rounded up. -/
theorem div_ten {m : Nat} {e : Int} (h : Normal m e) (he : -52 ≤ e) :
    ∃ (m' : Nat) (e' : Int) (hm' : 0 < m'),
      UnpackedFloat.div .binary64 (.finite .positive m e h.pos)
        (.finite .positive (5 * 2 ^ 50) (-49) (by decide)) = .finite .positive m' e' hm' ∧
      Normal m' e' ∧ (m' : ℚ) * 2 ^ e' < m * 2 ^ e := by
  have hcore := divCore_ten h.mantissa he
  generalize accuracyOfFraction (m * 2 ^ 53 % (5 * 2 ^ 50)) (5 * 2 ^ 50) = acc at hcore
  obtain ⟨hlo, hhi⟩ := h.bounds
  have hhigh := h.high
  set q := m * 2 ^ 53 / (5 * 2 ^ 50) with hqdef
  have hq : q ≠ 0 := by omega
  have hlog : 52 ≤ q.log2 := (Nat.le_log2 hq).mpr (by omega)
  have hlog' : q.log2 < 54 := (Nat.log2_lt hq).mpr (by omega)
  obtain ⟨m', i, hm', hround, hlogm', hi, hle⟩ :=
    roundWithAccuracy_le .positive acc hlog (by omega : -1074 ≤ e - 4)
  have hunit : 2 ^ (q.log2 - 52) ≤ 2 :=
    Nat.pow_le_pow_right (by decide) (by omega : q.log2 - 52 ≤ 1)
  refine ⟨m', e - 4 + i, hm', ?_, ⟨hlogm', by omega, by omega⟩, mul_zpow_lt e (by omega)⟩
  have hdiv : UnpackedFloat.div .binary64 (.finite .positive m e h.pos)
      (.finite .positive (5 * 2 ^ 50) (-49) (by decide)) =
      (fun p => roundWithAccuracy .binary64 .positive p.1 p.2.1 p.2.2)
        (divCore .binary64 m e (5 * 2 ^ 50) (-49)) := rfl
  rw [hdiv, hcore]
  exact hround

theorem unpack_div_ten (x : Float) :
    (x / 10.0).toModel.unpack = (Float.Model.pack (UnpackedFloat.div .binary64 x.toModel.unpack
      (.finite .positive (5 * 2 ^ 50) (-49) (by decide)))).unpack := rfl

theorem view_bounds {x : Float} {negative : Bool} {m : Nat} {e : Int}
    (h : view x = .finite negative m e) : m < 2 ^ 53 ∧ e ≤ 971 := by
  simp only [view] at h
  split at h
  · split at h <;> cases h
  · split at h <;> cases h <;> omega

/-- An infinite number is infinite still when it is divided by ten. -/
theorem isInf_div_ten {x : Float} (h : x.isInf) : (x / 10.0).isInf := by
  change x.toModel.unpack.isInf at h
  change (x / 10.0).toModel.unpack.isInf
  rw [unpack_div_ten]
  cases hx : x.toModel.unpack with
  | infinity s => cases s <;> rfl
  | _ =>
    rw [hx] at h
    cases h

/-- A tenth of a whole number is smaller, and can be held after its fraction is dropped. -/
theorem view_tenth {n : Nat} (hn : Holds n) (hpos : 0 < n) :
    ∃ (m : Nat) (e : Int), view (Float.ofModel (.ofNat n) / 10.0) = .finite false m e ∧
      wholePart m e < n := by
  obtain ⟨m, e, hm, hunpack, hnormal, he, hvalue⟩ := ofNat_unpack hn hpos
  obtain ⟨m', e', hm', hdiv, hnormal', hlt⟩ := div_ten hnormal he
  refine ⟨m', e', ?_, ?_⟩
  · rw [view_eq, unpack_div_ten, hunpack, hdiv, unpack_pack hm' hnormal']
    rfl
  · have hless : (wholePart m' e' : ℚ) < n := by
      calc (wholePart m' e' : ℚ) ≤ m' * 2 ^ e' := wholePart_le m' e'
        _ < m * 2 ^ e := hlt
        _ = n := hvalue
    exact_mod_cast hless

end Binary64

namespace NumberVerb

open Binary64

theorem magnitude?_eq_none {x : Float} : magnitude? x = none ↔ x.isInf := by
  rw [isInf_iff, magnitude?]
  cases view x <;> simp

theorem magnitude?_holds {x : Float} {n : Nat} (h : magnitude? x = some n) : Holds n := by
  unfold magnitude? at h
  split at h
  · rename_i hx
    obtain ⟨hm, he⟩ := view_bounds hx
    cases h
    exact holds_wholePart hm he
  · cases h
  · cases h
    exact ⟨0, 0, by decide, by decide, rfl⟩

theorem tenth?_lt {n : Nat} (hn : Holds n) (hpos : 0 < n) :
    ∃ q, tenth? n = some q ∧ q < n ∧ Holds q := by
  obtain ⟨m, e, hview, hlt⟩ := view_tenth hn hpos
  have htenth : tenth? n = some (wholePart m e) := by rw [tenth?, magnitude?, hview]
  exact ⟨wholePart m e, htenth, hlt, magnitude?_holds htenth⟩

theorem tenfolds?_isSome {n : Nat} (hn : Holds n) : (tenfolds? n).isSome := by
  induction n using Nat.strong_induction_on with
  | _ n ih =>
    rw [tenfolds?]
    split
    · rfl
    · obtain ⟨q, hq, hlt, hholds⟩ := tenth?_lt hn (by omega)
      simpa [hq, hlt] using ih q hlt hholds

/-- Counting digits comes to an end on every number but an infinite one. -/
theorem digitCount?_eq_none {x : Float} : digitCount? x = none ↔ x.isInf := by
  rw [← magnitude?_eq_none, digitCount?]
  cases hx : magnitude? x with
  | none => simp
  | some n =>
    obtain ⟨k, hk⟩ := Option.isSome_iff_exists.mp (tenfolds?_isSome (magnitude?_holds hx))
    simp [hk]

theorem endlessCount_iff {f : Field} : EndlessCount f ↔ ∃ x, f.number = .ok x ∧ x.isInf := by
  simp only [EndlessCount, digitCount?_eq_none]

/-- A verb that counts digits. -/
def Counts (v : NumberVerb) : Prop := v = digits ∨ v = digitsBetween

/-- The one way for a verb not to end is to count the digits of an infinite number, once its
arguments are read. -/
theorem run_endless {v : NumberVerb} {now : Instant} {d : Document} {f : Field}
    (hends : f.endless = false) :
    (∃ g, v.run now d f = .ok g ∧ g.endless = true) ↔
      v.Counts ∧ Argument.fit now (v.forms f.args.length) f.args = true ∧ EndlessCount f := by
  constructor
  · rintro ⟨g, hg, hge⟩
    rcases run_ok hg with rfl | ⟨-, n, rfl⟩ | ⟨rfl | rfl, hcount, -⟩
    · exact absurd (hends.symm.trans hge) Bool.false_ne_true
    · exact absurd (hends.symm.trans hge) Bool.false_ne_true
    · obtain ⟨n, hn, -⟩ := bind_ok.mp hg
      refine ⟨.inl rfl, ?_, hcount⟩
      exact Argument.fit_singleton.trans ((f.reads_argCount now 0).given hn)
    · obtain ⟨low, hlow, hg⟩ := bind_ok.mp hg
      obtain ⟨high, hhigh, -⟩ := bind_ok.mp hg
      refine ⟨.inr rfl, Argument.fit_pair.trans ?_, hcount⟩
      rw [(f.reads_argCount now 0).given hlow, (f.reads_argCount now 1).given hhigh]
      rfl
  · rintro ⟨rfl | rfl, hfit, hcount⟩
    · obtain ⟨n, hn⟩ := (f.reads_argCount now 0).of_fit hfit rfl
      refine ⟨_, bind_ok.mpr ⟨n, hn, counted_of_endless _ hcount⟩, rfl⟩
    · obtain ⟨low, hlow⟩ := (f.reads_argCount now 0).of_fit hfit rfl
      obtain ⟨high, hhigh⟩ := (f.reads_argCount now 1).of_fit hfit rfl
      refine ⟨_, bind_ok.mpr ⟨low, hlow, bind_ok.mpr ⟨high, hhigh, counted_of_endless _ hcount⟩⟩,
        rfl⟩

end NumberVerb

/-- The call counts the digits of an infinite number, which never ends. -/
structure Call.CountsForever (now : Instant) (c : Call) (f : Field) : Prop where
  type : f.type = .number
  value : ∃ x, f.number = .ok x ∧ x.isInf
  /-- The verb counts digits, and none of the limits it needs is missing or malformed. -/
  verb : ∃ v : NumberVerb, v.name = c.verb ∧ v.Counts ∧
    Argument.fit now (v.forms c.args.length) c.args = true

namespace Registry

variable {now : Instant} {d : Document} {f : Field} {c : Call}

theorem performTyped_endless {type : TypeTag} {verb : String} (hends : f.endless = false) :
    (∃ g, standard.performTyped now d type f verb = .ok g ∧ g.endless = true) ↔
      type = .number ∧ ∃ v : NumberVerb, v.name = verb ∧ v.Counts ∧
        Argument.fit now (v.forms f.args.length) f.args = true ∧ NumberVerb.EndlessCount f := by
  unfold performTyped
  constructor
  · rintro ⟨g, hg, hge⟩
    have hsame (h : g = f) : False := by
      rw [h, hends] at hge
      cases hge
    split at hg
    · exact (hsame (Except.ok.inj hg).symm).elim
    · rename_i run hrun
      split at hg
      · cases type with
        | number =>
          obtain ⟨v, hv, rfl⟩ := typed?_number.mp hrun
          exact ⟨rfl, v, hv, (NumberVerb.run_endless hends).mp ⟨g, hg, hge⟩⟩
        | string =>
          obtain ⟨v, -, rfl⟩ := typed?_string.mp hrun
          exact (hsame (TextVerb.run_ok hg)).elim
        | date =>
          obtain ⟨v, -, rfl⟩ := typed?_date.mp hrun
          exact (hsame (DateVerb.run_ok hg)).elim
        | _ => cases hrun
      · exact (hsame (Except.ok.inj hg).symm).elim
  · rintro ⟨rfl, v, rfl, hcounts, hfit, hcount⟩
    obtain ⟨x, hx, -⟩ := NumberVerb.endlessCount_iff.mp hcount
    simp only [typed?_number.mpr ⟨v, rfl, rfl⟩, Field.hasValue_of_number hx, true_or, if_true]
    exact (NumberVerb.run_endless hends).mpr ⟨hcounts, hfit, hcount⟩

theorem performShared_of_counts {v : NumberVerb} (hname : v.name = c.verb) (h : v.Counts) :
    standard.performShared now d f c = .ok (f.begin c.verb c.args) := by
  have hnone : standard.shared? v.name = none := by
    rcases h with rfl | rfl <;> rfl
  rw [performShared, ← hname, hnone]

/-- A call never ends exactly when it counts the digits of an infinite number. -/
theorem perform_endless (hends : f.endless = false) :
    standard.perform now d f.type f c = .error .endless ↔ c.CountsForever now f := by
  rw [perform, bind_error]
  simp only [ended_endless, ended_ok]
  constructor
  · rintro (⟨m, hm, hme⟩ | ⟨m, ⟨hm, hme⟩, hg⟩)
    · have hmf := performShared_endless standard_sharedEnd hm
      rw [hme, hends] at hmf
      cases hmf
    · obtain ⟨htype, v, hv, hcounts, hfit, hcount⟩ := (performTyped_endless hme).mp hg
      rw [performShared_of_counts hv hcounts] at hm
      cases hm
      exact ⟨htype, NumberVerb.endlessCount_iff.mp hcount, v, hv, hcounts, hfit⟩
  · rintro ⟨htype, hvalue, v, hv, hcounts, hfit⟩
    refine .inr ⟨_, ⟨performShared_of_counts hv hcounts, hends⟩, ?_⟩
    exact (performTyped_endless (f := f.begin c.verb c.args) hends).mpr
      ⟨htype, v, hv, hcounts, hfit, NumberVerb.endlessCount_iff.mpr hvalue⟩

end Registry
end FieldRules
