import FieldRules.Log.Render
import FieldRules.Proofs.WrittenJson

namespace FieldRules.Log

/-- What a record says besides its time, in order; a key may come more than once. -/
def Record.entries (r : Record) : List (String × String) :=
  [("level", r.level.name), ("target", r.target), ("message", r.message)] ++ r.fields

/-- An entry as the line in order has it. -/
def flatMember (m : String × String) : List Char := quoteFlat m.1 ++ ':' :: quoteFlat m.2

theorem isControl_lt {c : Char} (h : Unicode.isControl c = true) : c.toNat < 256 := by
  simp only [Unicode.isControl, Bool.or_eq_true, Bool.and_eq_true, decide_eq_true_eq] at h
  omega

theorem isControl_of_lt {c : Char} (h : c.toNat < 0x20) : Unicode.isControl c = true := by
  simp [Unicode.isControl, h]

theorem escapes_escapeFlat : Json.Escapes escapeFlat := by
  intro c
  unfold escapeFlat
  split
  case h_6 hquote hback _ _ _ =>
    by_cases hc : Unicode.isControl c = true
    · rw [if_pos hc]
      exact .inl (Json.escape_code (isControl_lt hc))
    · exact .inr ⟨hquote, hback, fun hlt => hc (isControl_of_lt hlt), if_neg hc⟩
  all_goals exact .inl ⟨_, rfl, fun rest => ⟨Nat.lt_succ_self _, rfl⟩⟩

theorem readString_quoteFlat (s : String) (rest : List Char) :
    ∃ body, quoteFlat s ++ rest = '"' :: body ∧ Json.Reads (Json.readString body) s.toList rest :=
  ⟨s.toList.flatMap escapeFlat ++ '"' :: rest, by simp [quoteFlat],
    escapes_escapeFlat.readString s.toList rest⟩

theorem memberText_flatMember (depth : Nat) (m : String × String) :
    Json.MemberText depth (m.1, .text m.2) (flatMember m) := by
  refine ⟨m.1.toList.flatMap escapeFlat ++ '"' :: ':' :: quoteFlat m.2,
    by simp [flatMember, quoteFlat], fun rest => ⟨quoteFlat m.2 ++ rest, ?_, ?_⟩⟩
  · rw [List.append_assoc]
    exact escapes_escapeFlat.readString m.1.toList (':' :: (quoteFlat m.2 ++ rest))
  · obtain ⟨body, hbody, hread⟩ := readString_quoteFlat m.2 rest
    rw [hbody]
    exact Json.readValue_text hread

theorem renderFlat_eq (color : Bool) (r : Record) :
    renderFlat { format := .json, color } r =
      '{' :: (Json.pieces true (r.entries.map flatMember) ++ ['\x7d']) := by
  have hmember : flatMember = fun m => quoteFlat m.1 ++ ':' :: quoteFlat m.2 := rfl
  simp [renderFlat, Record.entries, hmember, Json.pieces]

theorem toJson_eq (r : Record) :
    r.toJson none = .object ((Entries.ofList r.entries).map fun m => (m.1, .text m.2)) := by
  rw [← Entries.ofList_map]
  simp [Record.toJson, Record.entries]

theorem read_renderFlat (color : Bool) (r : Record) :
    Json.read (String.ofList (renderFlat { format := .json, color } r)) = .ok (r.toJson none) := by
  have hmembers := Json.readMembers_texts [] true
    (fun m (_ : m ∈ r.entries) => memberText_flatMember 127 m)
  have hobject := Json.readValue_object hmembers
  rw [renderFlat_eq, toJson_eq, ← Entries.ofList_map]
  exact Json.read_of_reads hobject

theorem read_toJson (r : Record) : Json.read (r.toJson none).write = .ok (r.toJson none) := by
  rw [toJson_eq]
  exact Json.read_write (Json.plain_texts (Entries.sorted_ofList r.entries))

/-- Without a time both lines of a record are JSON texts of one object. It has the keys of the
record's entries, each once, and under each key the text of the last entry there. -/
theorem json_renderings_agree (color : Bool) (r : Record) :
    let style : Style := { format := .json, color }
    ∃ members : Entries String, members.Sorted ∧
      (∀ key, members.get? key = Entries.get? key r.entries.reverse) ∧
      render .full style r = (Json.object (members.map fun m => (m.1, .text m.2))).write ∧
      Json.read (render .full style r) =
        .ok (.object (members.map fun m => (m.1, .text m.2))) ∧
      Json.read (render .plain style r) =
        .ok (.object (members.map fun m => (m.1, .text m.2))) := by
  refine ⟨Entries.ofList r.entries, Entries.sorted_ofList _, fun key => Entries.get?_ofList key _,
    ?_⟩
  rw [← toJson_eq]
  exact ⟨rfl, read_toJson r, read_renderFlat color r⟩

end FieldRules.Log
