import FieldRules.Decimal.Binary64
import Mathlib.Data.Nat.Log
import Mathlib.Tactic.Ring

namespace FieldRules.Binary64

open Float.Model Float.Model.UnpackedFloat

/-- The same parts of a number as `view` shows them. -/
def View.ofParts : UnpackedFloat → View
  | .infinity s => .infinite (s == .negative)
  | .notANumber => .nan
  | .zero s => .finite (s == .negative) 0 (-1074)
  | .finite s m e _ => .finite (s == .negative) m e

theorem View.ofParts_finite (s : Sign) {m : Nat} (e : Int) (hm : 0 < m) :
    View.ofParts (.finite s m e hm) = .finite (s == .negative) m e := rfl

section Bits

variable (b : BitVec Format.binary64.numBits)

theorem unpackMantissa_toNat : (unpackMantissa b).toNat = b.toNat % 0x10000000000000 := by
  simp [unpackMantissa, BitVec.extractLsb, BitVec.extractLsb'_toNat]

theorem unpackExponent_toNat :
    (unpackExponent b).toNat = b.toNat / 0x10000000000000 % 2048 := by
  simp [unpackExponent, BitVec.extractLsb, BitVec.extractLsb'_toNat, Nat.shiftRight_eq_div_pow]

theorem unpackSign_toNat : (unpackSign b).toNat = b.toNat / 0x8000000000000000 := by
  have hb : b.toNat < 2 ^ 64 := b.isLt
  change (b.toNat >>> 63) % 2 = _
  rw [Nat.shiftRight_eq_div_pow]
  omega

theorem unpackMantissa_eq_iff (m : BitVec 52) :
    unpackMantissa b = m ↔ b.toNat % 0x10000000000000 = m.toNat := by
  rw [← unpackMantissa_toNat, BitVec.toNat_inj]

theorem unpackExponent_eq_iff (e : BitVec 11) :
    unpackExponent b = e ↔ b.toNat / 0x10000000000000 % 2048 = e.toNat := by
  rw [← unpackExponent_toNat, BitVec.toNat_inj]

theorem ofBitVec_unpackSign :
    (Sign.ofBitVec (unpackSign b) == .negative) = decide (b.toNat / 0x8000000000000000 = 1) := by
  rw [← unpackSign_toNat]
  generalize unpackSign b = s
  revert s
  decide

end Bits

/-- What the bits of a number say is what arithmetic takes it for. -/
theorem view_eq (x : Float) : view x = .ofParts x.toModel.unpack := by
  have he := unpackExponent_toNat x.toBits.toBitVec
  have hm := unpackMantissa_toNat x.toBits.toBitVec
  have hs := ofBitVec_unpackSign x.toBits.toBitVec
  have htop := unpackExponent_eq_iff x.toBits.toBitVec (-1#11)
  have hbottom := unpackExponent_eq_iff x.toBits.toBitVec 0#11
  have hzero := unpackMantissa_eq_iff x.toBits.toBitVec 0#52
  rw [UInt64.toNat_toBitVec] at he hm hs htop hbottom hzero
  change view x = .ofParts (UnpackedFloat.unpack .binary64 x.toBits.toBitVec)
  unfold view UnpackedFloat.unpack
  dsimp only
  by_cases hones : x.toBits.toNat / 0x10000000000000 % 2048 = 2047
  · rw [if_pos hones, if_pos (htop.mpr hones)]
    by_cases hnone : x.toBits.toNat % 0x10000000000000 = 0
    · rw [if_pos hnone, if_pos (hzero.mpr hnone), ← hs]
      rfl
    · rw [if_neg hnone, if_neg (mt hzero.mp hnone)]
      rfl
  · rw [if_neg hones, if_neg (mt htop.mp hones)]
    by_cases hnil : x.toBits.toNat / 0x10000000000000 % 2048 = 0
    · rw [if_pos hnil, if_pos (hbottom.mpr hnil)]
      by_cases hnone : x.toBits.toNat % 0x10000000000000 = 0
      · rw [dif_pos (hzero.mpr hnone), ← hs, hnone]
        rfl
      · rw [dif_neg (mt hzero.mp hnone), View.ofParts_finite, hs, hm, he, hnil]
        rfl
    · rw [if_neg hnil, if_neg (mt hbottom.mp hnil), View.ofParts_finite, hs, he,
        BitVec.toNat_append, ← Nat.shiftLeft_add_eq_or_of_lt (unpackMantissa _).isLt, hm]
      rfl

theorem isInf_iff (x : Float) : x.isInf ↔ ∃ s, view x = .infinite s := by
  rw [view_eq]
  change x.toModel.unpack.isInf ↔ _
  cases x.toModel.unpack with
  | infinity s => exact ⟨fun _ => ⟨_, rfl⟩, fun _ => rfl⟩
  | _ =>
    constructor
    · intro h
      cases h
    · rintro ⟨s, hs⟩
      cases hs

section Packing

theorem ofBitVec_unpackSign_packComponents (s : Sign) (e : BitVec 11) (m : BitVec 52) :
    Sign.ofBitVec (unpackSign (packComponents .binary64 s e m)) = s := by
  unfold unpackSign packComponents BitVec.extractLsb
  rw [BitVec.extractLsb'_append_eq_of_le (by decide),
    BitVec.extractLsb'_append_eq_of_le (by decide)]
  cases s <;> rfl

/-- A mantissa of 53 bits, and an exponent within the range. -/
structure Normal (m : Nat) (e : Int) : Prop where
  mantissa : m.log2 = 52
  low : -1074 ≤ e
  high : e ≤ 971

theorem pos_of_log2 {m : Nat} (h : m.log2 = 52) : 0 < m := by
  rcases Nat.eq_zero_or_pos m with rfl | hm
  · exact absurd h (by decide)
  · exact hm

theorem Normal.pos {m : Nat} {e : Int} (h : Normal m e) : 0 < m := pos_of_log2 h.mantissa

theorem Normal.bounds {m : Nat} {e : Int} (h : Normal m e) : 2 ^ 52 ≤ m ∧ m < 2 ^ 53 :=
  (Nat.log2_eq_iff h.pos.ne').mp h.mantissa

/-- The field that a normal exponent is kept in. -/
def exponentField (e : Int) : BitVec 11 := BitVec.ofNat 11 (e + 1075).toNat

theorem Normal.exponentField_toNat {m : Nat} {e : Int} (h : Normal m e) :
    (exponentField e).toNat = (e + 1075).toNat := by
  have hlow := h.low
  have hhigh := h.high
  rw [exponentField, BitVec.toNat_ofNat, Nat.mod_eq_of_lt (by omega)]

theorem Normal.pack_eq {m : Nat} {e : Int} (h : Normal m e) (s : Sign) :
    UnpackedFloat.pack .binary64 (.finite s m e h.pos) =
      packComponents .binary64 s (exponentField e) (BitVec.ofNat 52 m) := by
  have hlow := h.low
  have hhigh := h.high
  have hbias :
      (e + (Format.binary64.exponentBias : Int) + (52 : Nat)).toNat = (e + 1075).toNat := by
    change (e + ((1023 : Nat) : Int) + (52 : Nat)).toNat = _
    omega
  unfold UnpackedFloat.pack
  simp only [h.mantissa, hbias]
  rw [if_neg (by omega), if_pos (by decide)]
  rfl

/-- A normal number is packed without loss. -/
theorem unpack_pack {s : Sign} {m : Nat} {e : Int} (hm : 0 < m) (h : Normal m e) :
    (Float.Model.pack (.finite s m e hm)).unpack = .finite s m e hm := by
  have hlow := h.low
  have hexponent := h.exponentField_toNat
  have htop : exponentField e ≠ -1#11 := by
    intro heq
    have hones : (exponentField e).toNat = 2047 := congrArg BitVec.toNat heq
    have hhigh := h.high
    omega
  have hbottom : exponentField e ≠ 0#11 := by
    intro heq
    have hzero : (exponentField e).toNat = 0 := congrArg BitVec.toNat heq
    omega
  have hmantissa : (1#1 ++ BitVec.ofNat 52 m).toNat = m := by
    obtain ⟨hlo, hhi⟩ := h.bounds
    rw [BitVec.toNat_append, ← Nat.shiftLeft_add_eq_or_of_lt (BitVec.ofNat 52 m).isLt,
      BitVec.toNat_ofNat, Nat.shiftLeft_eq]
    simp
    omega
  change UnpackedFloat.unpack .binary64 (UnpackedFloat.pack .binary64 (.finite s m e hm)) = _
  rw [h.pack_eq]
  unfold UnpackedFloat.unpack
  dsimp only
  rw [unpackExponent_packComponents, if_neg htop, if_neg hbottom, UnpackedFloat.finite.injEq]
  refine ⟨ofBitVec_unpackSign_packComponents s _ _, ?_, ?_⟩
  · rw [unpackMantissa_packComponents]
    exact hmantissa
  · rw [hexponent]
    change ((e + 1075).toNat : Int) - (((1023 : Nat) : Int) + ((52 : Nat) : Int)) = e
    omega

end Packing

section Rounding

theorem shiftRight_mantissa (em : ExtendedMantissa) (n : Nat) :
    (em >>> n).mantissa = em.mantissa / 2 ^ n := by
  induction n with
  | zero => simp [HShiftRight.hShiftRight, Nat.repeat]
  | succ n ih =>
    change (em >>> n).mantissa / 2 = _
    rw [ih, Nat.div_div_eq_div_mul, Nat.pow_succ]

theorem shiftRight_exact (m n : Nat) :
    (⟨m * 2 ^ n, false, false⟩ : ExtendedMantissa) >>> n = ⟨m, false, false⟩ := by
  induction n generalizing m with
  | zero => simp [HShiftRight.hShiftRight, Nat.repeat]
  | succ n ih =>
    have hshift : m * 2 ^ (n + 1) = m * 2 * 2 ^ n := by ring
    change ((⟨m * 2 ^ (n + 1), false, false⟩ : ExtendedMantissa) >>> n).shiftRightOne = _
    rw [hshift, ih]
    simp [ExtendedMantissa.shiftRightOne]

theorem roundedMantissa_bounds (em : ExtendedMantissa) :
    em.mantissa ≤ em.roundedMantissa ∧ em.roundedMantissa ≤ em.mantissa + 1 := by
  unfold ExtendedMantissa.roundedMantissa Accuracy.roundToNearestEven
  split <;> omega

theorem ofMantissaAndAccuracy_mantissa (m : Nat) (acc : Accuracy) :
    (ExtendedMantissa.ofMantissaAndAccuracy m acc).mantissa = m := by
  unfold ExtendedMantissa.ofMantissaAndAccuracy
  split <;> rfl

theorem log2_mul_two_pow {m : Nat} (hm : m ≠ 0) (k : Nat) : (m * 2 ^ k).log2 = m.log2 + k := by
  rw [Nat.log2_eq_iff (Nat.mul_ne_zero hm (Nat.two_pow_pos k).ne'), Nat.add_right_comm,
    Nat.pow_add, Nat.pow_add]
  exact ⟨Nat.mul_le_mul_right _ (Nat.log2_self_le hm),
    Nat.mul_lt_mul_of_pos_right Nat.lt_log2_self (Nat.two_pow_pos k)⟩

theorem log2_div_two_pow (m k : Nat) : (m / 2 ^ k).log2 = m.log2 - k := by
  rw [Nat.log2_eq_log_two, Nat.log2_eq_log_two, Nat.log_div_base_pow]

/-- Above the subnormal numbers a mantissa is cut to 53 bits. -/
theorem shiftToTargetExponent_eq {m : Nat} {e : Int} (acc : Accuracy) (hm : 52 ≤ m.log2)
    (he : -1074 ≤ e) :
    shiftToTargetExponent .binary64 m e acc =
      (ExtendedMantissa.ofMantissaAndAccuracy m acc >>> (m.log2 - 52),
        e + ((m.log2 - 52 : Nat) : Int)) := by
  have hamount : (Format.binary64.targetExponent (totalExponent m e) - e).toNat = m.log2 - 52 := by
    change (max ((m.log2 : Int) + 1 + e - ((53 : Nat) : Int)) (-1074) - e).toNat = _
    omega
  simp only [shiftToTargetExponent, shiftToExponent, hamount]

theorem roundWithAccuracy_eq {s : Sign} {m : Nat} {e e₁ e₂ : Int} {acc : Accuracy}
    {em₁ em₂ : ExtendedMantissa}
    (h₁ : shiftToTargetExponent .binary64 m e acc = (em₁, e₁))
    (h₂ : shiftToTargetExponent .binary64 em₁.roundedMantissa e₁ .exact = (em₂, e₂))
    (hpos : 0 < em₂.mantissa) :
    roundWithAccuracy .binary64 s m e acc = .finite s em₂.mantissa e₂ hpos := by
  rw [roundWithAccuracy, h₁]
  dsimp only
  rw [h₂]
  exact dif_neg hpos.ne'

/-- A number that its mantissa holds is rounded to itself. -/
theorem roundWithAccuracy_exact {s : Sign} {m k : Nat} {e : Int} (hm : m.log2 = 52) (hpos : 0 < m)
    (he : -1074 ≤ e) :
    roundWithAccuracy .binary64 s (m * 2 ^ k) e .exact = .finite s m (e + k) hpos := by
  have hlog : (m * 2 ^ k).log2 = 52 + k := by
    rw [log2_mul_two_pow hpos.ne', hm]
  have h₁ : shiftToTargetExponent .binary64 (m * 2 ^ k) e .exact = (⟨m, false, false⟩, e + k) := by
    rw [shiftToTargetExponent_eq .exact (by omega) he, hlog, Nat.add_sub_cancel_left]
    exact congrArg (·, e + (k : Int)) (shiftRight_exact m k)
  have h₂ : shiftToTargetExponent .binary64 m (e + k) .exact = (⟨m, false, false⟩, e + k) := by
    rw [shiftToTargetExponent_eq .exact hm.ge (by omega), hm]
    simp [ExtendedMantissa.ofMantissaAndAccuracy]
    rfl
  exact roundWithAccuracy_eq h₁ h₂ hpos

theorem shiftToTargetExponent_cut {m : Nat} {e : Int} (acc : Accuracy) (hm : 52 ≤ m.log2)
    (he : -1074 ≤ e) :
    ∃ em, shiftToTargetExponent .binary64 m e acc = (em, e + ((m.log2 - 52 : Nat) : Int)) ∧
      em.mantissa = m / 2 ^ (m.log2 - 52) ∧ em.mantissa.log2 = 52 := by
  have hcut : (ExtendedMantissa.ofMantissaAndAccuracy m acc >>> (m.log2 - 52)).mantissa =
      m / 2 ^ (m.log2 - 52) := by
    rw [shiftRight_mantissa, ofMantissaAndAccuracy_mantissa]
  refine ⟨_, shiftToTargetExponent_eq acc hm he, hcut, ?_⟩
  rw [hcut, log2_div_two_pow]
  omega

/-- Rounding adds at most one unit in the last place that is kept. -/
theorem roundWithAccuracy_le {m : Nat} {e : Int} (s : Sign) (acc : Accuracy) (hm : 52 ≤ m.log2)
    (he : -1074 ≤ e) :
    ∃ (m' i : Nat) (hpos : 0 < m'),
      roundWithAccuracy .binary64 s m e acc = .finite s m' (e + i) hpos ∧ m'.log2 = 52 ∧
      i ≤ m.log2 - 51 ∧ m' * 2 ^ i ≤ m + 2 ^ (m.log2 - 52) := by
  obtain ⟨em, h₁, hcut, hlog⟩ := shiftToTargetExponent_cut acc hm he
  obtain ⟨hlo, hhi⟩ := roundedMantissa_bounds em
  have hrange := (Nat.log2_eq_iff (pos_of_log2 hlog).ne').mp hlog
  set r := em.roundedMantissa
  set k := m.log2 - 52
  -- where all bits were set, one more is needed
  have hr : 52 ≤ r.log2 := (Nat.le_log2 (by omega)).mpr (by omega)
  have hr' : r.log2 < 54 := (Nat.log2_lt (by omega)).mpr (by omega)
  obtain ⟨em', h₂, hcut', hlog'⟩ := shiftToTargetExponent_cut .exact hr (by omega : -1074 ≤ e + k)
  set j := r.log2 - 52
  refine ⟨em'.mantissa, k + j, pos_of_log2 hlog', ?_, hlog', by omega, ?_⟩
  · rw [roundWithAccuracy_eq h₁ h₂ (pos_of_log2 hlog'), Nat.cast_add, add_assoc]
  · calc em'.mantissa * 2 ^ (k + j) = r / 2 ^ j * 2 ^ j * 2 ^ k := by
          rw [hcut']
          ring
      _ ≤ r * 2 ^ k := Nat.mul_le_mul_right _ (Nat.div_mul_le_self r _)
      _ ≤ (m / 2 ^ k + 1) * 2 ^ k := Nat.mul_le_mul_right _ (hcut ▸ hhi)
      _ = m / 2 ^ k * 2 ^ k + 2 ^ k := by ring
      _ ≤ m + 2 ^ k := Nat.add_le_add_right (Nat.div_mul_le_self m _) _

end Rounding

end FieldRules.Binary64
