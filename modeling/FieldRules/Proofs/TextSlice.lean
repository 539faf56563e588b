import FieldRules.Text.Basic

namespace FieldRules.Text

variable {cs xs ys zs : List Char} {c : Char} {start stop n : Nat}

/-- The first `n` bytes of UTF-8; `none` when they end inside a character or beyond the text. -/
def takeBytes? (n : Nat) (cs : List Char) : Option (List Char) :=
  (dropBytes? n cs).map fun rest => cs.take (cs.length - rest.length)

/-- The text from one place to another. -/
def slice? (start stop : Nat) (cs : List Char) : Option (List Char) :=
  if start ≤ stop then (dropBytes? start cs).bind (takeBytes? (stop - start)) else none

/-- A character begins at the place, or the text ends there. -/
def IsBoundary (cs : List Char) (n : Nat) : Prop := ∃ xs ys, cs = xs ++ ys ∧ byteLength xs = n

theorem byteLength_snoc (xs : List Char) (c : Char) :
    byteLength (xs ++ [c]) = byteLength xs + c.utf8Size := by
  rw [byteLength_append]
  rfl

theorem byteLength_eq_zero_iff : byteLength xs = 0 ↔ xs = [] := by
  cases xs with
  | nil => simp [byteLength]
  | cons c cs =>
    have hsize := c.utf8Size_pos
    simp only [byteLength, reduceCtorEq, iff_false]
    omega

/-- Of two beginnings of a text the one of fewer bytes is a beginning of the other. -/
theorem exists_append_of_byteLength_le {us vs : List Char} (h : xs ++ ys = us ++ vs)
    (hle : byteLength xs ≤ byteLength us) : ∃ ws, us = xs ++ ws ∧ ys = ws ++ vs := by
  obtain ⟨ws, hus, hys⟩ | ⟨ws, rfl, rfl⟩ := List.append_eq_append_iff.mp h
  · exact ⟨ws, hus, hys⟩
  · rw [byteLength_append] at hle
    obtain rfl : ws = [] := byteLength_eq_zero_iff.mp (by omega)
    exact ⟨[], by simp, rfl⟩

theorem eq_of_byteLength_eq {us vs : List Char} (h : xs ++ ys = us ++ vs)
    (heq : byteLength xs = byteLength us) : xs = us := by
  obtain ⟨ws, rfl, -⟩ := exists_append_of_byteLength_le h (Nat.le_of_eq heq)
  rw [byteLength_append] at heq
  obtain rfl : ws = [] := byteLength_eq_zero_iff.mp (by omega)
  exact (List.append_nil xs).symm

theorem dropBytes?_append (xs ys : List Char) :
    dropBytes? (byteLength xs) (xs ++ ys) = some ys := by
  induction xs with
  | nil => simp [byteLength, dropBytes?]
  | cons c cs ih =>
    obtain ⟨n, hn⟩ := Nat.exists_eq_add_one.mpr c.utf8Size_pos
    have hsize : byteLength (c :: cs) = n + byteLength cs + 1 := by
      rw [byteLength, hn, Nat.add_right_comm]
    have hrest : n + byteLength cs + 1 - c.utf8Size = byteLength cs := by omega
    rw [hsize, List.cons_append, dropBytes?, if_pos (by omega), hrest, ih]

theorem dropBytes?_eq_some_iff :
    dropBytes? n cs = some ys ↔ ∃ xs, cs = xs ++ ys ∧ byteLength xs = n := by
  constructor
  · intro h
    induction n, cs using dropBytes?.induct with
    | case1 cs =>
      rw [dropBytes?] at h
      exact ⟨[], Option.some.inj h, rfl⟩
    | case2 n => simp [dropBytes?] at h
    | case3 n c cs hsize ih =>
      rw [dropBytes?, if_pos hsize] at h
      obtain ⟨xs, hcs, hxs⟩ := ih h
      exact ⟨c :: xs, by rw [hcs, List.cons_append], by rw [byteLength]; omega⟩
    | case4 n c cs hsize =>
      rw [dropBytes?, if_neg hsize] at h
      cases h
  · rintro ⟨xs, rfl, rfl⟩
    exact dropBytes?_append xs ys

theorem takeBytes?_eq_some_iff :
    takeBytes? n cs = some xs ↔ ∃ ys, cs = xs ++ ys ∧ byteLength xs = n := by
  simp only [takeBytes?, Option.map_eq_some_iff, dropBytes?_eq_some_iff]
  constructor
  · rintro ⟨ys, ⟨zs, rfl, hzs⟩, rfl⟩
    have hzs' : (zs ++ ys).take ((zs ++ ys).length - ys.length) = zs := by simp
    exact ⟨ys, by rw [hzs'], by rw [hzs', hzs]⟩
  · rintro ⟨ys, rfl, hxs⟩
    exact ⟨ys, ⟨xs, rfl, hxs⟩, by simp⟩

theorem slice?_eq_some_iff :
    slice? start stop cs = some ys ↔
      ∃ xs zs, cs = xs ++ ys ++ zs ∧ byteLength xs = start ∧ byteLength (xs ++ ys) = stop := by
  simp only [slice?, Option.ite_none_right_eq_some, Option.bind_eq_some_iff,
    dropBytes?_eq_some_iff, takeBytes?_eq_some_iff]
  constructor
  · rintro ⟨hle, _, ⟨xs, rfl, rfl⟩, zs, rfl, hys⟩
    exact ⟨xs, zs, (List.append_assoc ..).symm, rfl, by rw [byteLength_append]; omega⟩
  · rintro ⟨xs, zs, rfl, rfl, rfl⟩
    refine ⟨?_, _, ⟨xs, List.append_assoc .., rfl⟩, zs, rfl, ?_⟩
    · rw [byteLength_append]
      omega
    · rw [byteLength_append]
      omega

/-- There is a text between places that are in order, neither inside a character nor beyond the
text. -/
theorem isSome_slice?_iff :
    (slice? start stop cs).isSome ↔ start ≤ stop ∧ IsBoundary cs start ∧ IsBoundary cs stop := by
  simp only [Option.isSome_iff_exists, slice?_eq_some_iff]
  constructor
  · rintro ⟨ys, xs, zs, rfl, rfl, rfl⟩
    refine ⟨?_, ⟨xs, ys ++ zs, List.append_assoc .., rfl⟩, xs ++ ys, zs, rfl, rfl⟩
    rw [byteLength_append]
    omega
  · rintro ⟨hle, ⟨xs, ys, rfl, rfl⟩, us, vs, h, rfl⟩
    obtain ⟨ws, rfl, rfl⟩ := exists_append_of_byteLength_le h hle
    exact ⟨ws, xs, vs, h, rfl, rfl⟩

theorem slice?_self (h : IsBoundary cs n) : slice? n n cs = some [] := by
  obtain ⟨xs, ys, rfl, rfl⟩ := h
  exact slice?_eq_some_iff.mpr ⟨xs, ys, by simp, rfl, by simp⟩

/-- One more character of the text between a place and the place where this one begins. -/
theorem slice?_snoc (h : slice? start (byteLength xs) (xs ++ c :: zs) = some ys) :
    slice? start (byteLength (xs ++ [c])) (xs ++ c :: zs) = some (ys ++ [c]) := by
  obtain ⟨us, vs, hcs, hus, hstop⟩ := slice?_eq_some_iff.mp h
  -- the slice may come from another split of the text, but one that ends where `c` begins
  have hread : us ++ ys = xs := eq_of_byteLength_eq hcs.symm hstop
  refine slice?_eq_some_iff.mpr ⟨us, zs, ?_, hus, ?_⟩
  · rw [← List.append_assoc us, hread, List.append_assoc]
    rfl
  · rw [← List.append_assoc, hread]

end FieldRules.Text
