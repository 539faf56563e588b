import FieldRules.Log.Render
import FieldRules.Proofs.WrittenJson

namespace FieldRules

namespace Text

theorem lineFeed_notMem_toDigits {b : Nat} (hb : 1 < b) (n : Nat) : '\n' ∉ Nat.toDigits b n := by
  induction n using Nat.strongRecOn with
  | ind n ih =>
    rw [Nat.toDigits_eq_if hb]
    split
    · simp
    · have hless : n / b < n := Nat.div_lt_self (by omega) hb
      simp [ih _ hless]

theorem lineFeed_notMem_hex (n : Nat) : '\n' ∉ hex n := lineFeed_notMem_toDigits (by decide) n

theorem lineFeed_notMem_hexPadded (width n : Nat) : '\n' ∉ hexPadded width n := by
  simp [hexPadded, List.mem_replicate, lineFeed_notMem_hex n]

theorem lineFeed_notMem_flatMap {write : Char → List Char} (h : ∀ c, '\n' ∉ write c)
    (cs : List Char) : '\n' ∉ cs.flatMap write := by
  simp [List.mem_flatMap, h]

namespace Quoted

theorem lineFeed_notMem_escape (c : Char) : '\n' ∉ escape c := by
  unfold escape
  split
  case h_7 hfeed _ _ =>
    split
    · simp [Ne.symm hfeed]
    · simp [code, lineFeed_notMem_hex c.toNat]
  all_goals decide

theorem lineFeed_notMem_quote (cs : List Char) : '\n' ∉ quote cs := by
  simp [quote, lineFeed_notMem_flatMap lineFeed_notMem_escape cs]

end Quoted
end Text

namespace Json

theorem lineFeed_notMem_escapeChar (c : Char) : '\n' ∉ escapeChar c := by
  unfold escapeChar
  split
  case h_8 hfeed _ _ =>
    split
    · simp [Text.lineFeed_notMem_hexPadded 4 c.toNat]
    · simp [Ne.symm hfeed]
  all_goals decide

theorem lineFeed_notMem_quoted (cs : List Char) : '\n' ∉ quoted cs := by
  simp [quoted, Text.lineFeed_notMem_flatMap lineFeed_notMem_escapeChar cs]

theorem lineFeed_notMem_commaSeparated {xs : List (List Char)} (h : ∀ x ∈ xs, '\n' ∉ x) :
    '\n' ∉ commaSeparated xs := by
  cases xs with
  | nil => simp [commaSeparated]
  | cons x xs =>
    have hrest : ∀ y ∈ xs, '\n' ∉ y := fun y hy => h y (by simp [hy])
    rw [commaSeparated_cons]
    simpa [h x (by simp)] using hrest

/-- An object of texts is on one line. -/
theorem lineFeed_notMem_compact_texts {members : List (String × Json)}
    (h : ∀ m ∈ members, ∃ s, m.2 = .text s) : '\n' ∉ compact (.object members) := by
  have hmembers : '\n' ∉ commaSeparated (compactMembers members) := by
    rw [compactMembers_eq]
    refine lineFeed_notMem_commaSeparated fun x hx => ?_
    obtain ⟨m, hm, rfl⟩ := List.mem_map.mp hx
    obtain ⟨s, hs⟩ := h m hm
    simp [member, hs, compact, lineFeed_notMem_quoted]
  simp [compact, hmembers]

end Json

namespace Log

theorem lineFeed_notMem_escapeFlat (c : Char) : '\n' ∉ escapeFlat c := by
  unfold escapeFlat
  split
  case h_6 hfeed _ _ =>
    split
    · simp [Text.lineFeed_notMem_hexPadded 4 c.toNat]
    · simp [Ne.symm hfeed]
  all_goals decide

theorem lineFeed_notMem_quoteFlat (text : String) : '\n' ∉ quoteFlat text := by
  simp [quoteFlat, Text.lineFeed_notMem_flatMap lineFeed_notMem_escapeFlat text.toList]

theorem lineFeed_notMem_renderFlat (s : Style) (r : Record) : '\n' ∉ renderFlat s r := by
  intro hfeed
  rcases List.mem_append.mp hfeed with hfeed | hclose
  · rcases List.mem_cons.mp hfeed with hopen | hmembers
    · cases hopen
    · refine Json.lineFeed_notMem_commaSeparated (fun x hx => ?_) hmembers
      obtain ⟨⟨key, value⟩, -, rfl⟩ := List.mem_map.mp hx
      simp [lineFeed_notMem_quoteFlat]
  · revert hclose
    decide

theorem lineFeed_notMem_compact_toJson (time : Option String) (r : Record) :
    '\n' ∉ Json.compact (r.toJson time) := by
  refine Json.lineFeed_notMem_compact_texts fun m hm => ?_
  obtain ⟨entry, -, rfl⟩ := List.mem_map.mp (Entries.mem_of_mem_ofList hm)
  exact ⟨entry.2, rfl⟩

/-- The texts of a field that are written as they are: its key, and its value unless a space in it
has it quoted. -/
def rawFieldTexts (field : String × String) : List String :=
  if ' ' ∈ field.2.toList then [field.1] else [field.1, field.2]

/-- The texts of a record that are written as they are where it is not written as JSON. -/
def Record.rawTexts (r : Record) : List String :=
  r.target :: r.message :: r.fields.flatMap rawFieldTexts

theorem lineFeed_mem_fieldText_iff (field : String × String) :
    '\n' ∈ fieldText field.1 field.2 ↔ ∃ text ∈ rawFieldTexts field, '\n' ∈ text.toList := by
  by_cases hspace : ' ' ∈ field.2.toList
  · simp [fieldText, rawFieldTexts, hspace, Text.Quoted.lineFeed_notMem_quote]
  · simp [fieldText, rawFieldTexts, hspace]

theorem lineFeed_mem_fieldsText_iff (fields : List (String × String)) :
    '\n' ∈ fieldsText fields ↔
      ∃ text ∈ fields.flatMap rawFieldTexts, '\n' ∈ text.toList := by
  simp only [fieldsText, List.mem_flatMap, lineFeed_mem_fieldText_iff]
  constructor
  · rintro ⟨field, hfield, text, htext, hfeed⟩
    exact ⟨text, ⟨field, hfield, htext⟩, hfeed⟩
  · rintro ⟨text, ⟨field, hfield, htext⟩, hfeed⟩
    exact ⟨field, hfield, text, htext, hfeed⟩

theorem lineFeed_notMem_timeColumn {s : Style} (hclock : ∀ t ∈ s.time, '\n' ∉ t.toList) :
    '\n' ∉ timeColumn s := by
  unfold timeColumn
  split
  · rename_i t htime
    simp [hclock t htime]
  · simp

theorem lineFeed_notMem_levelColumn (l : Level) : '\n' ∉ levelColumn l := by
  cases l <;> decide

theorem lineFeed_notMem_colored (l : Level) : '\n' ∉ colored l (levelColumn l) := by
  cases l <;> decide

theorem ne_empty_of_mem {c : Char} {s : String} (h : c ∈ s.toList) : s ≠ "" := by
  rintro rfl
  simp at h

/-- Around the texts of a record stand the time, the level and punctuation. -/
theorem lineFeed_mem_renderPretty_iff (b : Build) {s : Style}
    (hclock : ∀ t ∈ s.time, '\n' ∉ t.toList) (r : Record) :
    '\n' ∈ renderPretty b s r ↔ ∃ text ∈ r.rawTexts, '\n' ∈ text.toList := by
  have htime := lineFeed_notMem_timeColumn hclock
  have hlevel : '\n' ∉ if s.color ∧ b = .full then colored r.level (levelColumn r.level)
      else levelColumn r.level := by
    split
    · exact lineFeed_notMem_colored r.level
    · exact lineFeed_notMem_levelColumn r.level
  simp [renderPretty, htime, hlevel, and_iff_right_of_imp ne_empty_of_mem,
    lineFeed_mem_fieldsText_iff, Record.rawTexts]

theorem lineFeed_mem_renderCompact_iff {s : Style} (hclock : ∀ t ∈ s.time, '\n' ∉ t.toList)
    (r : Record) :
    '\n' ∈ renderCompact s r ↔ ∃ text ∈ r.rawTexts, '\n' ∈ text.toList := by
  have htime := lineFeed_notMem_timeColumn hclock
  have hlevel : '\n' ∉ r.level.name.toList.take 1 := by
    cases r.level <;> decide
  simp [renderCompact, htime, hlevel, and_iff_right_of_imp ne_empty_of_mem,
    lineFeed_mem_fieldsText_iff, Record.rawTexts]

/-- With a clock that writes no line feed, a record is on one line if it is written as JSON, by
either writer, and otherwise exactly if none of the texts that are written as they are has a line
feed. -/
theorem rendered_on_one_line_iff (b : Build) {s : Style}
    (hclock : ∀ t ∈ s.time, '\n' ∉ t.toList) (r : Record) :
    '\n' ∉ (render b s r).toList ↔
      s.format = .json ∨ ∀ text ∈ r.rawTexts, '\n' ∉ text.toList := by
  have hmem : '\n' ∈ (render b s r).toList ↔
      s.format ≠ .json ∧ ∃ text ∈ r.rawTexts, '\n' ∈ text.toList := by
    rw [render, String.toList_ofList]
    cases hformat : s.format with
    | pretty => simp [renderChars, hformat, lineFeed_mem_renderPretty_iff b hclock r]
    | compact => simp [renderChars, hformat, lineFeed_mem_renderCompact_iff hclock r]
    | json =>
      cases b with
      | full => simp [renderChars, hformat, lineFeed_notMem_compact_toJson]
      | plain => simp [renderChars, hformat, lineFeed_notMem_renderFlat]
  rw [hmem]
  grind

/-- A value with a line feed and a space, which is quoted, in color and with a time. -/
theorem rendered_on_one_line_iff_of_quoted_value :
    let s : Style := { format := .pretty, color := true, time := some "2024-02-29 17:45:12.000" }
    let r : Record := ⟨.warn, "engine", "Field failed", [("value", "x\ny z")]⟩
    (∀ t ∈ s.time, '\n' ∉ t.toList) ∧ '\n' ∉ (render .full s r).toList := by
  intro s r
  have hclock : ∀ t ∈ s.time, '\n' ∉ t.toList := by decide
  exact ⟨hclock, (rendered_on_one_line_iff .full hclock r).mpr (.inr (by decide))⟩

/-- Without a space the value is not quoted, and the record goes on in a second line. -/
theorem unquoted_value_breaks_line :
    let r : Record := ⟨.warn, "", "m", [("a", "x\ny")]⟩
    render .full {} r = "W m a=x\ny" ∧ '\n' ∈ (render .full {} r).toList := by
  decide

end Log
end FieldRules
