import FieldRules.Text.Numeral

namespace FieldRules.Text

theorem digit_lt {c : Char} (h : c.isDigit = true) : c.toNat - '0'.toNat < 10 := by
  simp only [Char.isDigit, Bool.and_eq_true, decide_eq_true_eq] at h
  have hle : c.toNat ≤ 57 := h.2
  have hzero : '0'.toNat = 48 := rfl
  omega

/-- One or more digits. -/
def IsNumeral (ds : List Char) : Prop := ds ≠ [] ∧ ∀ c ∈ ds, c.isDigit

theorem IsNumeral.notMem {ds : List Char} (h : IsNumeral ds) {c : Char} (hc : c.isDigit = false) :
    c ∉ ds := by
  intro hmem
  have hdigit := h.2 c hmem
  rw [hc] at hdigit
  cases hdigit

theorem IsNumeral.all {ds : List Char} (h : IsNumeral ds) : ds.all Char.isDigit = true :=
  List.all_eq_true.mpr h.2

theorem count?_of_isNumeral {ds : List Char} (h : IsNumeral ds) :
    count? ds = if digitsValue ds ≤ countMax then some (digitsValue ds) else none := by
  have hplus : '+' ∉ ds := h.notMem (by decide)
  unfold count?
  split
  · exact absurd List.mem_cons_self hplus
  · simp [h.1, h.all]

/-- A plus sign before the digits makes no difference. -/
theorem count?_plus {ds : List Char} (h : IsNumeral ds) : count? ('+' :: ds) = count? ds := by
  rw [count?_of_isNumeral h]
  simp [count?, h.1, h.all]

theorem count?_eq_some_iff {cs : List Char} {i : Nat} :
    count? cs = some i ↔ ∃ sign ds, cs = sign ++ ds ∧ (sign = [] ∨ sign = ['+']) ∧ IsNumeral ds ∧
      digitsValue ds = i ∧ i ≤ countMax := by
  have hread (ds : List Char) :
      (if ds ≠ [] ∧ ds.all Char.isDigit ∧ digitsValue ds ≤ countMax then some (digitsValue ds)
        else none) = some i → IsNumeral ds ∧ digitsValue ds = i ∧ i ≤ countMax := by
    intro h
    obtain ⟨⟨hne, hall, hmax⟩, hi⟩ := Option.ite_none_right_eq_some.mp h
    obtain rfl := Option.some.inj hi
    exact ⟨⟨hne, List.all_eq_true.mp hall⟩, rfl, hmax⟩
  constructor
  · intro h
    simp only [count?] at h
    split at h
    · rename_i ds
      exact ⟨['+'], ds, rfl, .inr rfl, hread ds h⟩
    · exact ⟨[], cs, rfl, .inl rfl, hread cs h⟩
  · rintro ⟨sign, ds, rfl, hsign, hds, rfl, hmax⟩
    have hcount : count? ds = some (digitsValue ds) := by
      rw [count?_of_isNumeral hds, if_pos hmax]
    rcases hsign with rfl | rfl
    · exact hcount
    · exact (count?_plus hds).trans hcount

theorem notMem_of_count? {cs : List Char} {i : Nat} (h : count? cs = some i) {c : Char}
    (hdigit : c.isDigit = false) (hplus : c ≠ '+') : c ∉ cs := by
  obtain ⟨sign, ds, rfl, hsign, hds, -⟩ := count?_eq_some_iff.mp h
  have hmem : c ∉ ds := hds.notMem hdigit
  rcases hsign with rfl | rfl <;> simp [hmem, hplus]

end FieldRules.Text
