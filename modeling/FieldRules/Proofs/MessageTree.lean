import FieldRules.Message.Bundle
import FieldRules.Proofs.Bind
import FieldRules.Proofs.Entries
import FieldRules.Proofs.WrittenJson

namespace FieldRules

namespace Json

/-- The keys in `path` lead through nested objects from a value to another one. -/
inductive At : Json → List String → Json → Prop
  | self (j : Json) : At j [] j
  | member {ms : List (String × Json)} {k : String} {j v : Json} {path : List String}
      (hmem : (k, j) ∈ ms) (h : At j path v) : At (.object ms) (k :: path) v

/-- Nested objects lead to nothing but texts and objects. -/
def OnlyTexts (j : Json) : Prop :=
  ∀ path v, j.At path v → (∃ s, v = .text s) ∨ ∃ ms, v = .object ms

mutual
/-- The texts that nested objects lead to, each with its path. -/
def leaves : Json → List (List String × String)
  | .text s => [([], s)]
  | .object ms => membersLeaves ms
  | _ => []

def membersLeaves : List (String × Json) → List (List String × String)
  | [] => []
  | (k, j) :: ms => (leaves j).map (fun l => (k :: l.1, l.2)) ++ membersLeaves ms
end

theorem at_nil_iff {j v : Json} : j.At [] v ↔ v = j := by
  constructor
  · intro h
    cases h
    rfl
  · rintro rfl
    exact .self v

theorem at_object_iff {ms : List (String × Json)} {k : String} {path : List String} {v : Json} :
    (Json.object ms).At (k :: path) v ↔ ∃ j, (k, j) ∈ ms ∧ j.At path v := by
  constructor
  · intro h
    cases h with
    | member hmem h => exact ⟨_, hmem, h⟩
  · rintro ⟨j, hmem, h⟩
    exact .member hmem h

theorem onlyTexts_text (s : String) : OnlyTexts (.text s) := by
  intro path v h
  cases h
  exact .inl ⟨s, rfl⟩

theorem not_onlyTexts {j : Json} (htext : ∀ s, j ≠ .text s) (hobject : ∀ ms, j ≠ .object ms) :
    ¬j.OnlyTexts := by
  intro h
  rcases h [] j (.self j) with ⟨s, hs⟩ | ⟨ms, hms⟩
  · exact htext s hs
  · exact hobject ms hms

theorem onlyTexts_object {ms : List (String × Json)} :
    OnlyTexts (.object ms) ↔ ∀ m ∈ ms, OnlyTexts m.2 := by
  constructor
  · intro h m hm path v hat
    exact h (m.1 :: path) v (.member hm hat)
  · intro h path v hat
    cases hat with
    | self => exact .inr ⟨ms, rfl⟩
    | member hmem hat => exact h _ hmem _ v hat

theorem mem_membersLeaves {ms : List (String × Json)} {path : List String} {s : String} :
    (path, s) ∈ membersLeaves ms ↔
      ∃ k rest j, path = k :: rest ∧ (k, j) ∈ ms ∧ (rest, s) ∈ leaves j := by
  induction ms with
  | nil => simp [membersLeaves]
  | cons m ms ih =>
    obtain ⟨k, j⟩ := m
    rw [membersLeaves, List.mem_append, ih, List.mem_map]
    constructor
    · rintro (⟨l, hl, heq⟩ | ⟨k', rest, j', rfl, hmem, hrest⟩)
      · cases heq
        exact ⟨k, l.1, j, rfl, List.mem_cons_self, hl⟩
      · exact ⟨k', rest, j', rfl, List.mem_cons_of_mem _ hmem, hrest⟩
    · rintro ⟨k', rest, j', rfl, hmem, hrest⟩
      rcases List.mem_cons.mp hmem with heq | hmem
      · cases heq
        exact .inl ⟨(rest, s), hrest, rfl⟩
      · exact .inr ⟨k', rest, j', rfl, hmem, hrest⟩

theorem mem_leaves_iff {j : Json} {path : List String} {s : String} :
    (path, s) ∈ leaves j ↔ j.At path (.text s) := by
  induction path generalizing j with
  | nil =>
    rw [at_nil_iff]
    cases j with
    | object ms => simp [leaves, mem_membersLeaves]
    | _ => simp [leaves]
  | cons k path ih =>
    cases j with
    | object ms =>
      rw [leaves, mem_membersLeaves, at_object_iff]
      constructor
      · rintro ⟨k', rest, j, heq, hmem, hrest⟩
        cases heq
        exact ⟨j, hmem, ih.mp hrest⟩
      · rintro ⟨j, hmem, hat⟩
        exact ⟨k, path, j, rfl, hmem, ih.mpr hat⟩
    | _ =>
      refine iff_of_false (by simp [leaves]) ?_
      rintro ⟨⟩

end Json

namespace Bundle

/-- The leaves as entries below `path`. -/
def entriesAt (path : String) (ls : List (List String × String)) : List (String × String) :=
  ls.map fun l => (l.1.foldl child path, l.2)

theorem entriesAt_member (path k : String) (ls more : List (List String × String)) :
    entriesAt path (ls.map (fun l => (k :: l.1, l.2)) ++ more) =
      entriesAt (child path k) ls ++ entriesAt path more := by
  rw [entriesAt, List.map_append, List.map_map]
  rfl

mutual
theorem addMembers_ok_iff {path : String} {b c : Bundle} : (ms : List (String × Json)) →
    (addMembers path b ms = .ok c ↔ (∀ m ∈ ms, m.2.OnlyTexts) ∧
      c = Entries.merge b (entriesAt path (Json.membersLeaves ms)))
  | [] => by
    rw [addMembers]
    simp [Json.membersLeaves, entriesAt, Entries.merge, eq_comm]
  | (k, j) :: ms => by
    rw [addMembers, bind_ok, List.forall_mem_cons, Json.membersLeaves, entriesAt_member,
      Entries.merge_append]
    constructor
    · rintro ⟨d, hd, hc⟩
      obtain ⟨hj, rfl⟩ := (addValue_ok_iff j).mp hd
      obtain ⟨hms, rfl⟩ := (addMembers_ok_iff ms).mp hc
      exact ⟨⟨hj, hms⟩, rfl⟩
    · rintro ⟨⟨hj, hms⟩, hc⟩
      exact ⟨_, (addValue_ok_iff j).mpr ⟨hj, rfl⟩, (addMembers_ok_iff ms).mpr ⟨hms, hc⟩⟩

theorem addValue_ok_iff {path : String} {b c : Bundle} : (j : Json) →
    (addValue path b j = .ok c ↔
      j.OnlyTexts ∧ c = Entries.merge b (entriesAt path j.leaves))
  | .text s => by
    have hiff : addValue path b (.text s) = .ok c ↔ c = Entries.insert path s b := by
      rw [addValue, Except.ok.injEq, eq_comm]
    rw [hiff, and_iff_right (Json.onlyTexts_text s)]
    rfl
  | .object ms => by
    rw [addValue, addMembers_ok_iff ms, Json.onlyTexts_object, Json.leaves]
  | .null => iff_of_false nofun fun h => Json.not_onlyTexts (by simp) (by simp) h.1
  | .bool _ => iff_of_false nofun fun h => Json.not_onlyTexts (by simp) (by simp) h.1
  | .whole _ => iff_of_false nofun fun h => Json.not_onlyTexts (by simp) (by simp) h.1
  | .float _ => iff_of_false nofun fun h => Json.not_onlyTexts (by simp) (by simp) h.1
  | .list _ => iff_of_false nofun fun h => Json.not_onlyTexts (by simp) (by simp) h.1
end

theorem ofJson_ok_iff {j : Json} {b : Bundle} :
    ofJson j = .ok b ↔ (∃ ms, j = .object ms) ∧ j.OnlyTexts ∧
      b = Entries.ofList (entriesAt "" j.leaves) := by
  cases j with
  | object ms =>
    rw [ofJson, addMembers_ok_iff, Json.onlyTexts_object, Json.leaves]
    simp [Entries.ofList]
  | _ => simp [ofJson]

theorem ofText_ok_iff {text : String} {b : Bundle} :
    ofText text = .ok b ↔ ∃ j, Json.read text = .ok j ∧ ofJson j = .ok b := by
  rw [ofText, bind_ok]
  cases Json.read text <;> simp [Except.mapError]

theorem sorted_ofText {text : String} {b : Bundle} (h : ofText text = .ok b) :
    Entries.Sorted b := by
  obtain ⟨j, -, hj⟩ := ofText_ok_iff.mp h
  obtain ⟨-, -, rfl⟩ := ofJson_ok_iff.mp hj
  exact Entries.sorted_ofList _

theorem foldl_child {path : String} (h : path ≠ "") (keys : List String) :
    keys.foldl child path = ".".intercalate (path :: keys) := by
  induction keys generalizing path with
  | nil => simp
  | cons k keys ih =>
    have hchild : child path k = path ++ "." ++ k := if_neg h
    have hne : path ++ "." ++ k ≠ "" := by simp [h]
    rw [List.foldl_cons, hchild, ih hne, String.intercalate_cons_cons]
    cases keys with
    | nil => simp
    | cons k' keys =>
      rw [String.intercalate_cons_cons, String.intercalate_cons_cons]
      simp only [String.append_assoc]

/-- An empty key before an object, at the start of a path, would leave no trace. -/
theorem foldl_child_of_leaf {j : Json} (hobject : ∃ ms, j = .object ms)
    (hroot : ∀ ms, ¬j.At [""] (.object ms)) {path : List String} {s : String}
    (h : j.At path (.text s)) : path.foldl child "" = ".".intercalate path := by
  obtain ⟨ms, rfl⟩ := hobject
  cases path with
  | nil => cases h
  | cons k rest =>
    cases rest with
    | nil => simp [child]
    | cons k' rest =>
      obtain ⟨v, hmem, hat⟩ := Json.at_object_iff.mp h
      have hk : k ≠ "" := by
        rintro rfl
        cases hat with
        | member hmem' hat' => exact hroot _ (.member hmem (.self _))
      rw [List.foldl_cons, child, if_pos rfl, foldl_child hk]

/-- The leaves as entries under their joined keys. -/
def joinedEntries (j : Json) : List (String × String) :=
  j.leaves.map fun l => (".".intercalate l.1, l.2)

theorem joinedEntries_keys (j : Json) :
    (joinedEntries j).map Prod.fst = j.leaves.map fun l => ".".intercalate l.1 := by
  rw [joinedEntries, List.map_map]
  rfl

theorem mem_joinedEntries {j : Json} {key s : String} :
    (key, s) ∈ joinedEntries j ↔ ∃ path, ".".intercalate path = key ∧ j.At path (.text s) := by
  rw [joinedEntries, List.mem_map]
  constructor
  · rintro ⟨⟨path, t⟩, hleaf, heq⟩
    cases heq
    exact ⟨path, rfl, Json.mem_leaves_iff.mp hleaf⟩
  · rintro ⟨path, rfl, hat⟩
    exact ⟨(path, s), Json.mem_leaves_iff.mpr hat, rfl⟩

theorem entriesAt_root {j : Json} (hobject : ∃ ms, j = .object ms)
    (hroot : ∀ ms, ¬j.At [""] (.object ms)) : entriesAt "" j.leaves = joinedEntries j := by
  apply List.map_congr_left
  rintro ⟨path, s⟩ hleaf
  rw [foldl_child_of_leaf hobject hroot (Json.mem_leaves_iff.mp hleaf)]

/-- A message file is read exactly if it is an object whose nested objects lead to texts only. The
bundle has then one entry for each text, under the keys that lead to it joined by points, provided
that no two texts have the same joined keys and no object stands under an empty first key. -/
theorem ofText_flattens (text : String) :
    ((∃ b, ofText text = .ok b) ↔ ∃ j, Json.read text = .ok j ∧ (∃ ms, j = .object ms) ∧
      ∀ path v, j.At path v → (∃ s, v = .text s) ∨ ∃ ms, v = .object ms) ∧
    ∀ j b, Json.read text = .ok j → ofText text = .ok b → (∀ ms, ¬j.At [""] (.object ms)) →
      (j.leaves.map fun l => ".".intercalate l.1).Nodup →
      (∀ key s, b.get? key = some s ↔
        ∃ path, ".".intercalate path = key ∧ j.At path (.text s)) ∧
      b.length = j.leaves.length ∧
      ∀ field s, b.label? field = some s ↔
        ∃ path, ".".intercalate path = "attributes." ++ field ∧ j.At path (.text s) := by
  constructor
  · constructor
    · rintro ⟨b, hb⟩
      obtain ⟨j, hread, hj⟩ := ofText_ok_iff.mp hb
      obtain ⟨hobject, htexts, -⟩ := ofJson_ok_iff.mp hj
      exact ⟨j, hread, hobject, htexts⟩
    · rintro ⟨j, hread, hobject, htexts⟩
      exact ⟨_, ofText_ok_iff.mpr ⟨j, hread, ofJson_ok_iff.mpr ⟨hobject, htexts, rfl⟩⟩⟩
  · intro j b hread hb hroot hdistinct
    obtain ⟨j', hread', hj⟩ := ofText_ok_iff.mp hb
    cases hread.symm.trans hread'
    obtain ⟨hobject, -, rfl⟩ := ofJson_ok_iff.mp hj
    have hkeys : ((joinedEntries j).map Prod.fst).Nodup := by
      rw [joinedEntries_keys]
      exact hdistinct
    have hget (key s : String) : (Entries.ofList (joinedEntries j)).get? key = some s ↔
        ∃ path, ".".intercalate path = key ∧ j.At path (.text s) := by
      rw [Entries.get?_ofList_eq_some hkeys, mem_joinedEntries]
    rw [entriesAt_root hobject hroot]
    refine ⟨hget, ?_, fun field => hget (labelKey field)⟩
    rw [Entries.length_ofList hkeys, joinedEntries, List.length_map]

/-- A label, and a text whose last key is empty. -/
theorem ofText_flattens_of_nested :
    let j := Json.object [("attributes", .object [("age", .text "Age")]),
      ("type", .object [("", .text "t")])]
    let b : Bundle := [("attributes.age", "Age"), ("type.", "t")]
    Json.read j.write = .ok j ∧ ofText j.write = .ok b ∧ (∀ ms, ¬j.At [""] (.object ms)) ∧
      (j.leaves.map fun l => ".".intercalate l.1).Nodup ∧
      (∃ path, ".".intercalate path = "type." ∧ j.At path (.text "t")) ∧
      b.length = j.leaves.length ∧
      ∃ path, ".".intercalate path = "attributes.age" ∧ j.At path (.text "Age") := by
  intro j b
  have hplain : Json.Plain Json.depthLimit j := by
    refine .object (List.pairwise_pair.mpr (by decide)) ?_
    intro m hm
    rcases List.mem_pair.mp hm with rfl | rfl
    · exact Json.plain_texts (List.pairwise_singleton _ ("age", "Age"))
    · exact Json.plain_texts (List.pairwise_singleton _ ("", "t"))
  have hread : Json.read j.write = .ok j := Json.read_write hplain
  have hb : ofText j.write = .ok b := ofText_ok_iff.mpr ⟨j, hread, rfl⟩
  have hroot : ∀ ms, ¬j.At [""] (.object ms) := by
    intro ms hat
    obtain ⟨v, hmem, -⟩ := Json.at_object_iff.mp hat
    simp at hmem
  have hdistinct : (j.leaves.map fun l => ".".intercalate l.1).Nodup := by decide
  obtain ⟨hget, hlength, hlabel⟩ := (ofText_flattens j.write).2 j b hread hb hroot hdistinct
  exact ⟨hread, hb, hroot, hdistinct, (hget "type." "t").mp rfl, hlength,
    (hlabel "age" "Age").mp rfl⟩

end Bundle
end FieldRules
