import Mathlib.Algebra.Order.BigOperators.Group.List
import Mathlib.Algebra.Order.Group.Nat
import Mathlib.Data.List.Chain
import FieldRules.Proofs.Interpolation

namespace FieldRules.Template

/-- Somewhere in the text an opening brace is directly followed by the sign, by digits with the
value `i`, and by a closing brace. -/
def Names (sign cs : List Char) (i : Nat) : Prop :=
  ∃ before ds after, cs = before ++ '\x7b' :: (sign ++ ds ++ '\x7d' :: after) ∧
    Text.IsNumeral ds ∧ Text.digitsValue ds = i

section Text

variable {cs numeral : List Char} {i : Nat}

theorem hole?_eq_some_iff :
    hole? cs = some (numeral, i) ↔
      Text.count? numeral = some i ∧ ∃ rest, cs = numeral ++ '\x7d' :: rest := by
  constructor
  · intro h
    by_cases hclosed : '\x7d' ∈ cs
    · obtain ⟨text, rest, rfl, hno⟩ := List.eq_append_cons_of_mem hclosed
      rw [hole?_closed hno, Option.map_eq_some_iff] at h
      obtain ⟨j, hj, hpair⟩ := h
      cases hpair
      exact ⟨hj, rest, rfl⟩
    · rw [hole?_unclosed hclosed] at h
      cases h
  · rintro ⟨hi, rest, rfl⟩
    have hno : '\x7d' ∉ numeral := Text.notMem_of_count? hi (by decide) (by decide)
    rw [hole?_closed hno, hi]
    rfl

/-- A placeholder does not reach beyond the next opening brace. -/
theorem hole?_append_brace (xs cs : List Char) : hole? (xs ++ '\x7b' :: cs) = hole? xs := by
  apply Option.ext
  rintro ⟨numeral, i⟩
  rw [hole?_eq_some_iff, hole?_eq_some_iff]
  refine and_congr_right fun hi => ?_
  constructor
  · rintro ⟨rest, h⟩
    rcases List.append_eq_append_iff.mp h with ⟨ys, hnumeral, hys⟩ | ⟨ys, hxs, hys⟩
    · have hno : '\x7b' ∉ numeral := Text.notMem_of_count? hi (by decide) (by decide)
      cases ys with
      | nil => simp at hys
      | cons y ys =>
        obtain ⟨rfl, -⟩ := List.cons.inj hys
        exact absurd (by simp [hnumeral]) hno
    · cases ys with
      | nil => simp at hys
      | cons y ys =>
        obtain ⟨rfl, -⟩ := List.cons.inj hys
        exact ⟨ys, hxs⟩
  · rintro ⟨rest, rfl⟩
    exact ⟨rest ++ '\x7b' :: cs, by simp⟩

theorem piecesBehind_append_brace (left : Nat) (xs cs : List Char) (h : left ≤ xs.length) :
    piecesBehind left (xs ++ '\x7b' :: cs) = piecesBehind left xs ++ pieces ('\x7b' :: cs) := by
  induction left, xs using piecesBehind.induct with
  | case1 left =>
    obtain rfl : left = 0 := by simpa using h
    rfl
  | case2 left c xs ih => exact ih (by simpa using h)
  | case3 xs numeral i hhole ih =>
    obtain ⟨-, rest, rfl⟩ := hole?_eq_some_iff.mp hhole
    have hrest := ih (by simp)
    rw [List.cons_append, piecesBehind, if_pos rfl, hole?_append_brace, hhole, piecesBehind,
      if_pos rfl, hhole]
    simp only [hrest, List.cons_append]
  | case4 xs hhole ih =>
    rw [List.cons_append, piecesBehind, if_pos rfl, hole?_append_brace, hhole, piecesBehind,
      if_pos rfl, hhole]
    simp only [ih (Nat.zero_le _), List.cons_append]
  | case5 c xs hc ih =>
    rw [List.cons_append, piecesBehind, if_neg hc, piecesBehind, if_neg hc, ih (Nat.zero_le _),
      List.cons_append]

/-- Every opening brace is looked at, whatever comes before it. -/
theorem pieces_append_brace (xs cs : List Char) :
    pieces (xs ++ '\x7b' :: cs) = pieces xs ++ pieces ('\x7b' :: cs) :=
  piecesBehind_append_brace 0 xs cs (Nat.zero_le _)

theorem count?_of_mem_piecesBehind (left : Nat) (cs : List Char)
    (h : .hole numeral i ∈ piecesBehind left cs) : Text.count? numeral = some i := by
  induction left, cs using piecesBehind.induct with
  | case1 left => cases left <;> cases h
  | case2 left c cs ih => exact ih h
  | case3 cs text j hhole ih =>
    rw [piecesBehind, if_pos rfl, hhole] at h
    rcases List.mem_cons.mp h with h | h
    · cases h
      exact (hole?_eq_some_iff.mp hhole).1
    · exact ih h
  | case4 cs hhole ih =>
    rw [piecesBehind, if_pos rfl, hhole] at h
    rcases List.mem_cons.mp h with h | h
    · cases h
    · exact ih h
  | case5 c cs hc ih =>
    rw [piecesBehind, if_neg hc] at h
    rcases List.mem_cons.mp h with h | h
    · cases h
    · exact ih h

theorem hole_mem_pieces_iff :
    .hole numeral i ∈ pieces cs ↔ Text.count? numeral = some i ∧
      ∃ before after, cs = before ++ '\x7b' :: (numeral ++ '\x7d' :: after) := by
  constructor
  · intro h
    obtain ⟨xs, ys, hsplit⟩ := List.append_of_mem h
    have htext : cs = xs.flatMap Piece.write ++
        '\x7b' :: (numeral ++ '\x7d' :: ys.flatMap Piece.write) := by
      rw [← flatMap_write_pieces cs, hsplit]
      simp [Piece.write]
    exact ⟨count?_of_mem_piecesBehind 0 cs h, _, _, htext⟩
  · rintro ⟨hi, before, after, rfl⟩
    have hno : '\x7d' ∉ numeral := Text.notMem_of_count? hi (by decide) (by decide)
    rw [pieces_append_brace, pieces_hole hno hi]
    simp

theorem mem_indices_iff :
    i ∈ indices cs ↔ i ≤ Text.countMax ∧ (Names [] cs i ∨ Names ['+'] cs i) := by
  have hmem : i ∈ indices cs ↔ ∃ numeral, .hole numeral i ∈ pieces cs := by
    rw [indices, List.mem_filterMap]
    constructor
    · rintro ⟨p, hp, hindex⟩
      cases p with
      | plain c => cases hindex
      | hole numeral j =>
        obtain rfl : j = i := Option.some.inj hindex
        exact ⟨numeral, hp⟩
    · rintro ⟨numeral, hp⟩
      exact ⟨_, hp, rfl⟩
  simp only [hmem, hole_mem_pieces_iff, Text.count?_eq_some_iff]
  constructor
  · rintro ⟨_, ⟨sign, ds, rfl, hsign, hds, hvalue, hmax⟩, before, after, hcs⟩
    refine ⟨hmax, ?_⟩
    rcases hsign with rfl | rfl
    · exact .inl ⟨before, ds, after, hcs, hds, hvalue⟩
    · exact .inr ⟨before, ds, after, hcs, hds, hvalue⟩
  · rintro ⟨hmax, ⟨before, ds, after, hcs, hds, hvalue⟩ | ⟨before, ds, after, hcs, hds, hvalue⟩⟩
    · exact ⟨_, ⟨[], ds, rfl, .inl rfl, hds, hvalue, hmax⟩, before, after, hcs⟩
    · exact ⟨_, ⟨['+'], ds, rfl, .inr rfl, hds, hvalue, hmax⟩, before, after, hcs⟩

/-- Exactly the templates that name none of `n` arguments are left alone by every `n` of them. -/
theorem interpolate_eq_self_iff (n : Nat) (cs : List Char) :
    (∀ args : List (List Char), args.length = n → interpolate args cs = cs) ↔
      ∀ i ∈ indices cs, n ≤ i := by
  constructor
  · intro h
    by_contra hnamed
    push Not at hnamed
    obtain ⟨i, hi, hlt⟩ := hnamed
    obtain ⟨p, hp, hindex⟩ := List.mem_filterMap.mp hi
    -- Empty arguments make the template shorter.
    have hle : ∀ q ∈ pieces cs,
        (q.fill (List.replicate n [])).length ≤ q.write.length := by
      intro q _
      cases q with
      | plain c => rfl
      | hole numeral j => by_cases hj : j < n <;> simp [Piece.fill, List.getD_eq_getElem?_getD, hj]
    have hshorter : (p.fill (List.replicate n [])).length < p.write.length := by
      cases p with
      | plain c => cases hindex
      | hole numeral j =>
        obtain rfl : j = i := Option.some.inj hindex
        simp [Piece.fill, Piece.write, List.getD_eq_getElem?_getD, hlt]
    have hsum := List.sum_lt_sum _ _ hle ⟨p, hp, hshorter⟩
    have hsame := h (List.replicate n []) (List.length_replicate)
    rw [interpolate_eq_fill] at hsame
    have hlength := congrArg List.length (hsame.trans (flatMap_write_pieces cs).symm)
    rw [List.length_flatMap, List.length_flatMap] at hlength
    omega
  · intro h args hlength
    have hfill : ∀ p ∈ pieces cs, p.fill args = p.write := by
      intro p hp
      cases p with
      | plain c => rfl
      | hole numeral i =>
        have hi : n ≤ i := h i (List.mem_filterMap.mpr ⟨_, hp, rfl⟩)
        have hnone : args[i]? = none := List.getElem?_eq_none (by omega)
        rw [Piece.fill, List.getD_eq_getElem?_getD, hnone]
        rfl
    rw [interpolate_eq_fill, List.flatMap_congr hfill, flatMap_write_pieces]

end Text

/-- No brace names an index in a text where no digit stands behind an opening brace. -/
theorem not_names_of_isChain {cs : List Char}
    (h : cs.IsChain fun a b => a = '\x7b' → b.isDigit = false) (i : Nat) : ¬ Names [] cs i := by
  rintro ⟨before, ds, after, rfl, ⟨hne, hds⟩, -⟩
  cases ds with
  | nil => exact hne rfl
  | cons d ds =>
    rw [List.nil_append, List.cons_append, List.isChain_append_cons_cons] at h
    have hdigit := hds d List.mem_cons_self
    rw [h.2.1 rfl] at hdigit
    cases hdigit

/-- A template in which no opening brace is directly followed by digits and a closing brace is left
as it is by every `n` arguments exactly when none of them is named with a plus sign before the
digits. -/
theorem interpolate_untouched_iff {template : String}
    (h : ∀ i, ¬ Names [] template.toList i) (n : Nat) :
    (∀ args : List String, args.length = n → FieldRules.interpolate template args = template) ↔
      ∀ i ≤ Text.countMax, Names ['+'] template.toList i → n ≤ i := by
  have hchars : (∀ args : List String, args.length = n →
        FieldRules.interpolate template args = template) ↔
      ∀ args : List (List Char), args.length = n →
        interpolate args template.toList = template.toList := by
    constructor
    · intro hall args hlength
      have hsame := hall (args.map String.ofList) (by simpa using hlength)
      rw [FieldRules.interpolate, ← String.toList_inj, String.toList_ofList, List.map_map] at hsame
      simpa [Function.comp_def] using hsame
    · intro hall args hlength
      rw [FieldRules.interpolate, hall _ (by simpa using hlength), String.ofList_toList]
  rw [hchars, interpolate_eq_self_iff]
  constructor
  · intro hnamed i hmax hi
    exact hnamed i (mem_indices_iff.mpr ⟨hmax, .inr hi⟩)
  · intro hsigned i hi
    obtain ⟨hmax, hplain | hplus⟩ := mem_indices_iff.mp hi
    · exact absurd hplain (h i)
    · exact hsigned i hmax hplus

/-- A template with no plain placeholder, and a signed one for the eighth argument. -/
def signedEighth : String := "\x7b\x7b+7\x7d of \x7bx\x7d 1\x7d"

theorem interpolate_untouched_iff_of_signed_eighth :
    (∀ i, ¬ Names [] signedEighth.toList i) ∧
    ((∀ args : List String, args.length = 7 →
        FieldRules.interpolate signedEighth args = signedEighth) ↔
      ∀ i ≤ Text.countMax, Names ['+'] signedEighth.toList i → 7 ≤ i) := by
  have hplain : ∀ i, ¬ Names [] signedEighth.toList i := not_names_of_isChain (by decide)
  exact ⟨hplain, interpolate_untouched_iff hplain 7⟩

/-- The sign goes with the digits, and the argument stands in their place. -/
theorem interpolate_signed_index :
    (∀ i, ¬ Names [] "\x7b+0\x7d".toList i) ∧
      FieldRules.interpolate "\x7b+0\x7d" ["a"] = "a" := by
  refine ⟨not_names_of_isChain (by decide), ?_⟩
  decide +kernel

end FieldRules.Template
