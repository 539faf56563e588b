import FieldRules.Entries
import Mathlib.Data.List.Nodup

namespace FieldRules.Entries

variable {α : Type}

/-- Keys ascend strictly; each key has one entry. -/
def Sorted (es : Entries α) : Prop := es.Pairwise fun a b => a.1 < b.1

/-- `u` holds the entries of both; of two under one key it holds that of `new`. -/
def IsUnion (es new u : Entries α) : Prop :=
  u.Sorted ∧ ∀ k, get? k u = (get? k new).or (get? k es)

theorem sorted_nil : Sorted ([] : Entries α) := List.Pairwise.nil

theorem get?_eq_none {k : String} {es : Entries α} (h : ∀ e ∈ es, e.1 ≠ k) : get? k es = none := by
  induction es with
  | nil => rfl
  | cons e es ih =>
    obtain ⟨j, v⟩ := e
    have hj : k ≠ j := fun hk => h (j, v) (by simp) hk.symm
    simp only [get?, if_neg hj]
    exact ih fun e he => h e (by simp [he])

theorem mem_of_get? {k : String} {v : α} {es : Entries α} (h : get? k es = some v) :
    (k, v) ∈ es := by
  induction es with
  | nil => simp [get?] at h
  | cons e es ih =>
    obtain ⟨j, w⟩ := e
    by_cases hk : k = j
    · subst hk
      have hw : w = v := by simpa [get?] using h
      simp [hw]
    · simp only [get?, if_neg hk] at h
      exact List.mem_cons_of_mem _ (ih h)

theorem get?_isSome_iff {k : String} {es : Entries α} : (get? k es).isSome ↔ k ∈ keys es := by
  induction es with
  | nil => simp [get?, keys]
  | cons e es ih =>
    obtain ⟨j, v⟩ := e
    by_cases hk : k = j
    · simp [get?, keys, hk]
    · simp only [get?, if_neg hk, ih]
      simp [keys, hk]

theorem get?_tail_of_sorted {k : String} {v : α} {es : Entries α} (h : Sorted ((k, v) :: es)) :
    get? k es = none := by
  apply get?_eq_none
  intro e he hk
  have hlt := (List.pairwise_cons.mp h).1 e he
  exact String.lt_irrefl k (hk ▸ hlt)

theorem mem_insert {k : String} {v : α} {e : String × α} {es : Entries α}
    (h : e ∈ insert k v es) : e = (k, v) ∨ e ∈ es := by
  induction es with
  | nil => simpa [insert] using h
  | cons a es ih =>
    obtain ⟨j, w⟩ := a
    simp only [insert] at h
    split at h
    · rcases List.mem_cons.mp h with h | h
      · exact .inl h
      · exact .inr (List.mem_cons_of_mem _ h)
    · split at h
      · exact List.mem_cons.mp h
      · rcases List.mem_cons.mp h with h | h
        · exact .inr (by simp [h])
        · exact (ih h).imp_right (List.mem_cons_of_mem _)

theorem sorted_insert (k : String) (v : α) {es : Entries α} (h : Sorted es) :
    Sorted (insert k v es) := by
  induction es with
  | nil => exact List.pairwise_singleton _ _
  | cons e es ih =>
    obtain ⟨j, w⟩ := e
    obtain ⟨hhead, htail⟩ := List.pairwise_cons.mp h
    simp only [insert]
    split
    · rename_i hk
      subst hk
      exact List.pairwise_cons.mpr ⟨hhead, htail⟩
    · rename_i hk
      split
      · rename_i hlt
        refine List.pairwise_cons.mpr ⟨?_, h⟩
        intro e he
        rcases List.mem_cons.mp he with rfl | he
        · exact hlt
        · exact String.lt_trans hlt (hhead e he)
      · rename_i hnlt
        have hjk : j < k := by
          by_contra hn
          exact hk (String.le_antisymm (String.not_lt.mp hn) (String.not_lt.mp hnlt))
        refine List.pairwise_cons.mpr ⟨?_, ih htail⟩
        intro e he
        rcases mem_insert he with rfl | he
        · exact hjk
        · exact hhead e he

theorem sorted_merge {es : Entries α} (new : List (String × α)) (h : Sorted es) :
    Sorted (merge es new) := by
  induction new generalizing es with
  | nil => exact h
  | cons e new ih => exact ih (sorted_insert e.1 e.2 h)

theorem sorted_ofList (es : List (String × α)) : Sorted (ofList es) := sorted_merge es sorted_nil

/-- The first entry of both lists has the least key, so the two first entries agree. -/
theorem ext_of_sorted {as bs : Entries α} (ha : Sorted as) (hb : Sorted bs)
    (h : ∀ k, get? k as = get? k bs) : as = bs := by
  induction as generalizing bs with
  | nil =>
    cases bs with
    | nil => rfl
    | cons b bs => simpa [get?] using h b.1
  | cons a as ih =>
    obtain ⟨j, v⟩ := a
    cases bs with
    | nil => simpa [get?] using h j
    | cons b bs =>
      obtain ⟨k, w⟩ := b
      have hjk : j = k := by
        by_contra hne
        have hj : (j, v) ∈ bs := by
          have hget := h j
          simp only [get?, if_true, if_neg hne] at hget
          exact mem_of_get? hget.symm
        have hk : (k, w) ∈ as := by
          have hget := h k
          simp only [get?, if_true, if_neg (Ne.symm hne)] at hget
          exact mem_of_get? hget
        have h1 := (List.pairwise_cons.mp ha).1 _ hk
        have h2 := (List.pairwise_cons.mp hb).1 _ hj
        exact String.lt_asymm h1 h2
      subst hjk
      have hv : v = w := by simpa [get?] using h j
      subst hv
      have htail : as = bs := by
        apply ih (List.pairwise_cons.mp ha).2 (List.pairwise_cons.mp hb).2
        intro k
        by_cases hk : k = j
        · subst hk
          rw [get?_tail_of_sorted ha, get?_tail_of_sorted hb]
        · simpa [get?, hk] using h k
      rw [htail]

theorem get?_merge (k : String) (es : Entries α) (new : List (String × α)) :
    get? k (merge es new) = (get? k (ofList new)).or (get? k es) := by
  induction new generalizing es with
  | nil => rfl
  | cons e new ih =>
    have hleft := ih (insert e.1 e.2 es)
    have hright := ih (insert e.1 e.2 [])
    change get? k (merge (insert e.1 e.2 es) new) =
      (get? k (merge (insert e.1 e.2 []) new)).or (get? k es)
    rw [hleft, hright, get?_insert, get?_insert]
    by_cases hk : k = e.1 <;> simp [hk, get?]

theorem get?_ofList_cons (k : String) (e : String × α) (es : List (String × α)) :
    get? k (ofList (e :: es)) = (get? k (ofList es)).or (if k = e.1 then some e.2 else none) := by
  change get? k (merge (insert e.1 e.2 []) es) = _
  rw [get?_merge, get?_insert]
  rfl

theorem merge_append (es : Entries α) (xs ys : List (String × α)) :
    merge es (xs ++ ys) = merge (merge es xs) ys := List.foldl_append

theorem isUnion_ofList_append (xs ys : List (String × α)) :
    IsUnion (ofList xs) (ofList ys) (ofList (xs ++ ys)) := by
  refine ⟨sorted_ofList _, fun k => ?_⟩
  have happ : ofList (xs ++ ys) = merge (ofList xs) ys := merge_append [] xs ys
  rw [happ, get?_merge]

theorem mem_keys_ofList {k : String} {es : List (String × α)} :
    k ∈ keys (ofList es) ↔ k ∈ es.map Prod.fst := by
  induction es with
  | nil => rfl
  | cons e es ih =>
    rw [← get?_isSome_iff] at ih ⊢
    rw [get?_ofList_cons, Option.isSome_or, Bool.or_eq_true, ih, List.map_cons, List.mem_cons]
    by_cases hk : k = e.1 <;> simp [hk]

theorem ofList_eq_nil_iff {es : List (String × α)} : ofList es = [] ↔ es = [] := by
  constructor
  · intro h
    cases es with
    | nil => rfl
    | cons e es =>
      have hmem : e.1 ∈ keys (ofList (e :: es)) := mem_keys_ofList.mpr (by simp)
      simp [h, keys] at hmem
  · rintro rfl
    rfl

theorem get?_ofList_eq_some {k : String} {v : α} {es : List (String × α)}
    (hn : (es.map Prod.fst).Nodup) : get? k (ofList es) = some v ↔ (k, v) ∈ es := by
  induction es with
  | nil => simp [ofList, merge, get?]
  | cons e es ih =>
    obtain ⟨hnew, htail⟩ := List.nodup_cons.mp hn
    rw [get?_ofList_cons, List.mem_cons, ← ih htail]
    by_cases hk : k = e.1
    · subst hk
      have hnone : get? e.1 (ofList es) = none := by
        rw [← Option.not_isSome_iff_eq_none, get?_isSome_iff, mem_keys_ofList]
        exact hnew
      simp [hnone, Prod.ext_iff, eq_comm]
    · simp [hk, Prod.ext_iff]

/-- With distinct keys no entry replaces another, so the order of insertion is not seen. -/
theorem ofList_perm {xs ys : List (String × α)} (hp : xs.Perm ys)
    (hn : (xs.map Prod.fst).Nodup) : ofList xs = ofList ys := by
  apply ext_of_sorted (sorted_ofList xs) (sorted_ofList ys)
  intro k
  apply Option.ext
  intro v
  rw [get?_ofList_eq_some hn, get?_ofList_eq_some ((hp.map Prod.fst).nodup_iff.mp hn), hp.mem_iff]

/-- Entries whose keys ascend already are as they were gathered. -/
theorem ofList_of_sorted {es : Entries α} (h : Sorted es) : ofList es = es := by
  apply ext_of_sorted (sorted_ofList es) h
  intro k
  induction es with
  | nil => rfl
  | cons e es ih =>
    obtain ⟨j, v⟩ := e
    rw [get?_ofList_cons, ih (List.pairwise_cons.mp h).2]
    by_cases hk : k = j
    · subst hk
      simp [get?, get?_tail_of_sorted h]
    · simp [get?, hk]

theorem Sorted.nodup_keys {es : Entries α} (h : Sorted es) : (es.map Prod.fst).Nodup := by
  rw [List.nodup_iff_pairwise_ne, List.pairwise_map]
  refine h.imp fun {a b} hlt heq => ?_
  rw [heq] at hlt
  exact String.lt_irrefl b.1 hlt

theorem get?_of_mem {k : String} {v : α} {es : Entries α} (h : Sorted es) (hmem : (k, v) ∈ es) :
    get? k es = some v := by
  rw [← ofList_of_sorted h]
  exact (get?_ofList_eq_some h.nodup_keys).mpr hmem

theorem get?_map {β : Type} (k : String) (es : Entries α) (g : α → β) :
    get? k (es.map fun e => (e.1, g e.2)) = (get? k es).map g := by
  induction es with
  | nil => rfl
  | cons e es ih =>
    obtain ⟨j, v⟩ := e
    by_cases hk : k = j
    · simp [get?, hk]
    · simp [get?, hk, ih]

theorem get?_append (k : String) (xs ys : Entries α) :
    get? k (xs ++ ys) = (get? k xs).or (get? k ys) := by
  induction xs with
  | nil => rfl
  | cons e xs ih =>
    obtain ⟨j, v⟩ := e
    by_cases hk : k = j
    · simp [get?, hk]
    · simp [get?, hk, ih]

/-- Of several entries under a key the last is the one that is found. -/
theorem get?_ofList (k : String) (es : List (String × α)) :
    get? k (ofList es) = get? k es.reverse := by
  induction es with
  | nil => rfl
  | cons e es ih =>
    rw [get?_ofList_cons, ih, List.reverse_cons, get?_append]
    rfl

theorem ofList_map {β : Type} (es : List (String × α)) (g : α → β) :
    ofList (es.map fun e => (e.1, g e.2)) = (ofList es).map fun e => (e.1, g e.2) := by
  have hsorted : Sorted ((ofList es).map fun e => (e.1, g e.2)) :=
    List.pairwise_map.mpr (sorted_ofList es)
  refine ext_of_sorted (sorted_ofList _) hsorted fun k => ?_
  rw [get?_map, get?_ofList, get?_ofList, ← List.map_reverse, get?_map]

theorem mem_of_mem_merge {e : String × α} {es : Entries α} {new : List (String × α)}
    (h : e ∈ merge es new) : e ∈ new ∨ e ∈ es := by
  induction new generalizing es with
  | nil => exact .inr h
  | cons a new ih =>
    rcases ih h with h | h
    · exact .inl (List.mem_cons_of_mem a h)
    · rcases mem_insert h with rfl | h
      · exact .inl List.mem_cons_self
      · exact .inr h

theorem mem_of_mem_ofList {e : String × α} {es : List (String × α)} (h : e ∈ ofList es) :
    e ∈ es := by
  rcases mem_of_mem_merge h with h | h
  · exact h
  · cases h

/-- With distinct keys every entry is kept. -/
theorem length_ofList {es : List (String × α)} (hn : (es.map Prod.fst).Nodup) :
    (ofList es).length = es.length := by
  have hmem (e : String × α) : e ∈ ofList es ↔ e ∈ es :=
    ⟨mem_of_mem_ofList, fun he => mem_of_get? ((get?_ofList_eq_some hn).mpr he)⟩
  have hkept : (ofList es).Nodup := (sorted_ofList es).nodup_keys.of_map
  exact ((List.perm_ext_iff_of_nodup hkept hn.of_map).mpr hmem).length_eq

end FieldRules.Entries
