import FieldRules.Json.Reader
import FieldRules.Json.Writer
import FieldRules.Proofs.Entries

namespace FieldRules.Json

/-- The reader gives `a` and leaves `rest`. -/
def Reads {α : Type} {p : List Char → Prop} (r : Except Fault (α × { rest : List Char // p rest }))
    (a : α) (rest : List Char) : Prop :=
  ∃ h : p rest, r = .ok (a, ⟨rest, h⟩)

theorem hexPadded_byte {n : Nat} (h : n < 256) :
    Text.hexPadded 4 n = ['0', '0', Text.hexDigit (n / 16), Text.hexDigit (n % 16)] ∧
    Text.hexValue? (Text.hexDigit (n / 16)) = some (n / 16) ∧
    Text.hexValue? (Text.hexDigit (n % 16)) = some (n % 16) := by
  have all : ∀ n : Fin 256,
      Text.hexPadded 4 n = ['0', '0', Text.hexDigit (n / 16), Text.hexDigit (n % 16)] ∧
      Text.hexValue? (Text.hexDigit (n / 16)) = some (n.val / 16) ∧
      Text.hexValue? (Text.hexDigit (n % 16)) = some (n.val % 16) := by decide +kernel
  exact all ⟨n, h⟩

theorem hex4_byte {n : Nat} (h : n < 256) (rest : List Char) :
    Reads (hex4 (Text.hexPadded 4 n ++ rest)) n rest := by
  obtain ⟨hdigits, ha, hb⟩ := hexPadded_byte h
  have hzero : Text.hexValue? '0' = some 0 := by decide
  have hn : ((0 * 16 + 0) * 16 + n / 16) * 16 + n % 16 = n := by omega
  rw [hdigits]
  refine ⟨by simp; omega, ?_⟩
  simp only [List.cons_append, List.nil_append, hex4, ha, hb, hzero, hn]

theorem readString_quote (rest : List Char) : Reads (readString ('"' :: rest)) [] rest := by
  refine ⟨by simp, ?_⟩
  simp [readString]

theorem readString_plain {c : Char} {rest cs later : List Char} (hq : c ≠ '"') (hb : c ≠ '\\')
    (hc : ¬c.toNat < 0x20) (h : Reads (readString rest) cs later) :
    Reads (readString (c :: rest)) (c :: cs) later := by
  obtain ⟨hlater, h⟩ := h
  refine ⟨by simp only [List.length_cons]; omega, ?_⟩
  simp only [readString, hq, hb, hc, h, if_false, bind, Except.bind, pure, Except.pure]

theorem readString_escape {d : Char} {rest after cs later : List Char}
    (hd : Reads (escape rest) d after) (h : Reads (readString after) cs later) :
    Reads (readString ('\\' :: rest)) (d :: cs) later := by
  obtain ⟨hafter, hd⟩ := hd
  obtain ⟨hlater, h⟩ := h
  refine ⟨by simp only [List.length_cons]; omega, ?_⟩
  have hq : '\\' ≠ '"' := by decide
  simp only [readString, hq, hd, h, if_false, if_true, bind, Except.bind, pure, Except.pure]

theorem escape_byte {n : Nat} (h : n < 256) (rest : List Char) :
    Reads (escape ('u' :: (Text.hexPadded 4 n ++ rest))) (Char.ofNat n) rest := by
  obtain ⟨hrest, hn⟩ := hex4_byte h rest
  have hlow : ¬(0xDC00 ≤ n ∧ n ≤ 0xDFFF) := by omega
  have hhigh : ¬(0xD800 ≤ n ∧ n ≤ 0xDBFF) := by omega
  refine ⟨by simp only [List.length_cons]; omega, ?_⟩
  simp only [escape, hn, hlow, hhigh, if_false, bind, Except.bind, pure, Except.pure]
  rfl

/-- `write` gives a character as an escape that is read as itself, or as it is, where it may stand
so between quotes. -/
def Escapes (write : Char → List Char) : Prop :=
  ∀ c, (∃ cs, write c = '\\' :: cs ∧ ∀ rest, Reads (escape (cs ++ rest)) c rest) ∨
    (c ≠ '"' ∧ c ≠ '\\' ∧ ¬c.toNat < 0x20 ∧ write c = [c])

/-- A text between quotes is read back up to its closing quote. -/
theorem Escapes.readString {write : Char → List Char} (hwrite : Escapes write)
    (cs rest : List Char) :
    Reads (readString (cs.flatMap write ++ '"' :: rest)) cs rest := by
  induction cs with
  | nil => exact readString_quote rest
  | cons c cs ih =>
    rw [List.flatMap_cons, List.append_assoc]
    rcases hwrite c with ⟨ds, hds, hc⟩ | ⟨hquote, hback, hc, hplain⟩
    · rw [hds]
      exact readString_escape (hc _) ih
    · rw [hplain]
      exact readString_plain hquote hback hc ih

/-- A character as its code of four digits is read back. -/
theorem escape_code {c : Char} (h : c.toNat < 256) :
    ∃ cs, '\\' :: 'u' :: Text.hexPadded 4 c.toNat = '\\' :: cs ∧
      ∀ rest, Reads (escape (cs ++ rest)) c rest := by
  refine ⟨_, rfl, fun rest => ?_⟩
  have hcode := escape_byte h rest
  rwa [Char.ofNat_toNat] at hcode

theorem escapes_escapeChar : Escapes escapeChar := by
  intro c
  unfold escapeChar
  split
  case h_8 hquote hback _ _ _ _ _ =>
    by_cases hc : c.toNat < 0x20
    · rw [if_pos hc]
      exact .inl (escape_code (by omega))
    · exact .inr ⟨hquote, hback, hc, if_neg hc⟩
  all_goals exact .inl ⟨_, rfl, fun rest => ⟨Nat.lt_succ_self _, rfl⟩⟩

/-- What stands before a piece: a comma, unless the piece is the first. -/
def comma (first : Bool) : List Char := if first then [] else [',']

/-- Pieces with commas between them, and before them unless they are the first. -/
def pieces (first : Bool) (xs : List (List Char)) : List Char :=
  if first then commaSeparated xs else xs.flatMap (',' :: ·)

theorem pieces_nil (first : Bool) : pieces first [] = [] := by
  cases first <;> rfl

theorem commaSeparated_cons (x : List Char) (xs : List (List Char)) :
    commaSeparated (x :: xs) = x ++ xs.flatMap (',' :: ·) := by
  induction xs generalizing x with
  | nil => simp [commaSeparated]
  | cons y xs ih => simp [commaSeparated, ih]

theorem pieces_cons (first : Bool) (x : List Char) (xs : List (List Char)) (rest : List Char) :
    pieces first (x :: xs) ++ rest = comma first ++ (x ++ (pieces false xs ++ rest)) := by
  cases first with
  | true => simp [pieces, comma, commaSeparated_cons]
  | false => simp [pieces, comma]

theorem skipSpace_cons {c : Char} (cs : List Char) (h : isSpace c = false) :
    skipSpace (c :: cs) = ⟨c :: cs, Nat.le_refl _⟩ := by
  simp [skipSpace, Tail.dropWhile, h]

theorem nextItem_end (first : Bool) (rest : List Char) :
    Reads (nextItem first (']' :: rest)) false rest :=
  ⟨by simp, rfl⟩

theorem nextItem_item (first : Bool) {c : Char} (cs : List Char) (hspace : isSpace c = false)
    (hc : c ≠ ']') : Reads (nextItem first (comma first ++ c :: cs)) true (c :: cs) := by
  cases first with
  | true =>
    refine ⟨Nat.le_refl _, ?_⟩
    change nextItem true (c :: cs) = _
    rw [nextItem, skipSpace_cons cs hspace]
    simp only [if_neg hc, if_true]
    rfl
  | false =>
    refine ⟨by simp [comma], ?_⟩
    have hcomma : ',' ≠ ']' := by decide
    change nextItem false (',' :: c :: cs) = _
    rw [nextItem, skipSpace_cons (c :: cs) (c := ',') rfl]
    simp only [if_neg hcomma, if_true, Bool.false_eq_true, if_false]
    rw [skipSpace_cons cs hspace]
    simp only [if_neg hc]
    rfl

theorem nextKey_end (first : Bool) (rest : List Char) :
    Reads (nextKey first ('\x7d' :: rest)) false rest :=
  ⟨by simp, rfl⟩

theorem nextKey_key (first : Bool) (cs : List Char) :
    Reads (nextKey first (comma first ++ '"' :: cs)) true cs := by
  cases first with
  | true => exact ⟨by simp [comma], rfl⟩
  | false => exact ⟨by simp [comma]; omega, rfl⟩

theorem readColon_colon (cs : List Char) : ∃ h, readColon (':' :: cs) = .ok ⟨cs, h⟩ :=
  ⟨by simp, rfl⟩

section Items

variable {value : ValueReader} {first : Bool} {cs mid later rest : List Char}

theorem readItems_end (h : Reads (nextItem first cs) false rest) :
    Reads (readItems value first cs) [] rest := by
  obtain ⟨hrest, h⟩ := h
  refine ⟨hrest, ?_⟩
  rw [readItems, h]
  rfl

theorem readItems_item {item : Json} {items : List Json} (h : Reads (nextItem first cs) true mid)
    (hitem : Reads (value mid) item later)
    (hitems : Reads (readItems value false later) items rest) :
    Reads (readItems value first cs) (item :: items) rest := by
  obtain ⟨hmid, h⟩ := h
  obtain ⟨hlater, hitem⟩ := hitem
  obtain ⟨hrest, hitems⟩ := hitems
  refine ⟨by omega, ?_⟩
  rw [readItems, h]
  simp only [bind, Except.bind, hitem, hitems, pure, Except.pure]

theorem readMembers_end (h : Reads (nextKey first cs) false rest) :
    Reads (readMembers value first cs) [] rest := by
  obtain ⟨hrest, h⟩ := h
  refine ⟨hrest, ?_⟩
  rw [readMembers, h]
  rfl

theorem readMembers_member {key : List Char} {item : Json} {members : List (String × Json)}
    {colon : List Char} (h : Reads (nextKey first cs) true mid)
    (hkey : Reads (readString mid) key (':' :: colon)) (hitem : Reads (value colon) item later)
    (hmembers : Reads (readMembers value false later) members rest) :
    Reads (readMembers value first cs) ((String.ofList key, item) :: members) rest := by
  obtain ⟨hmid, h⟩ := h
  obtain ⟨hcolon, hkey⟩ := hkey
  obtain ⟨hlater, hitem⟩ := hitem
  obtain ⟨hrest, hmembers⟩ := hmembers
  obtain ⟨hafter, hafterColon⟩ := readColon_colon colon
  refine ⟨by simp only [List.length_cons] at hcolon; omega, ?_⟩
  rw [readMembers, h]
  simp only [bind, Except.bind, hkey, hafterColon, hitem, hmembers, pure, Except.pure]

end Items

/-- Values that the reader can give with `depth` levels and in which no number stands. -/
inductive Plain : Nat → Json → Prop
  | null (depth : Nat) : Plain depth .null
  | bool (depth : Nat) (b : Bool) : Plain depth (.bool b)
  | text (depth : Nat) (s : String) : Plain depth (.text s)
  | list {depth : Nat} {items : List Json} :
      (∀ j ∈ items, Plain (depth + 1) j) → Plain (depth + 2) (.list items)
  | object {depth : Nat} {members : List (String × Json)} : Entries.Sorted members →
      (∀ m ∈ members, Plain (depth + 1) m.2) → Plain (depth + 2) (.object members)

theorem readValue_null (depth : Nat) (rest : List Char) :
    Reads (readValue depth ("null".toList ++ rest)) .null rest := by
  refine ⟨by simp; omega, ?_⟩
  simp only [readValue]
  rfl

theorem readValue_bool (depth : Nat) (b : Bool) (rest : List Char) :
    Reads (readValue depth ((if b then "true" else "false").toList ++ rest)) (.bool b) rest := by
  cases b
  all_goals
    refine ⟨by simp; omega, ?_⟩
    simp only [readValue]
    rfl

theorem readValue_text {depth : Nat} {cs rest : List Char} {s : String}
    (h : Reads (readString cs) s.toList rest) :
    Reads (readValue depth ('"' :: cs)) (.text s) rest := by
  obtain ⟨hrest, h⟩ := h
  refine ⟨by simp only [List.length_cons]; omega, ?_⟩
  rw [readValue, skipSpace_cons _ (c := '"') rfl]
  simp only [h, bind, Except.bind, pure, Except.pure, String.ofList_toList]
  rfl

theorem readValue_list {depth : Nat} {cs rest : List Char} {items : List Json}
    (h : Reads (readItems (readValue (depth + 1)) true cs) items rest) :
    Reads (readValue (depth + 2) ('[' :: cs)) (.list items) rest := by
  obtain ⟨hrest, h⟩ := h
  refine ⟨by simp only [List.length_cons]; omega, ?_⟩
  rw [readValue, skipSpace_cons _ (c := '[') rfl]
  simp only [h]
  rfl

theorem readValue_object {depth : Nat} {cs rest : List Char} {members : List (String × Json)}
    (h : Reads (readMembers (readValue (depth + 1)) true cs) members rest) :
    Reads (readValue (depth + 2) ('{' :: cs)) (.object (Entries.ofList members)) rest := by
  obtain ⟨hrest, h⟩ := h
  refine ⟨by simp only [List.length_cons]; omega, ?_⟩
  rw [readValue, skipSpace_cons _ (c := '{') rfl]
  simp only [h]
  rfl

/-- No value begins with a space, or with the bracket that closes a list. -/
theorem compact_head {depth : Nat} {j : Json} (h : Plain depth j) :
    ∃ c cs, compact j = c :: cs ∧ isSpace c = false ∧ c ≠ ']' := by
  cases h with
  | null => exact ⟨_, _, rfl, rfl, by decide⟩
  | bool _ b => cases b <;> exact ⟨_, _, rfl, rfl, by decide⟩
  | text => exact ⟨_, _, rfl, rfl, by decide⟩
  | list => exact ⟨_, _, rfl, rfl, by decide⟩
  | object => exact ⟨_, _, rfl, rfl, by decide⟩

theorem compactItems_eq (items : List Json) : compactItems items = items.map compact := by
  induction items with
  | nil => rfl
  | cons j js ih => rw [compactItems, ih, List.map_cons]

/-- A member as it is written. -/
def member (m : String × Json) : List Char := quoted m.1.toList ++ ':' :: compact m.2

theorem compactMembers_eq (members : List (String × Json)) :
    compactMembers members = members.map member := by
  induction members with
  | nil => rfl
  | cons m ms ih => rw [compactMembers, ih, List.map_cons, member]

/-- The value is read back from its text. -/
def ReadsBack (depth : Nat) (j : Json) : Prop :=
  ∀ rest, Reads (readValue depth (compact j ++ rest)) j rest

/-- The text of a member: behind its opening quote stands the key, then a colon and the value. -/
def MemberText (depth : Nat) (m : String × Json) (cs : List Char) : Prop :=
  ∃ body, cs = '"' :: body ∧ ∀ rest, ∃ colon,
    Reads (readString (body ++ rest)) m.1.toList (':' :: colon) ∧
      Reads (readValue depth colon) m.2 rest

theorem memberText_member {depth : Nat} {m : String × Json} (h : ReadsBack depth m.2) :
    MemberText depth m (member m) := by
  refine ⟨m.1.toList.flatMap escapeChar ++ '"' :: ':' :: compact m.2, by simp [member, quoted],
    fun rest => ⟨compact m.2 ++ rest, ?_, h rest⟩⟩
  rw [List.append_assoc]
  exact escapes_escapeChar.readString m.1.toList (':' :: (compact m.2 ++ rest))

section Written

variable {depth : Nat} (rest : List Char)

theorem readItems_written (first : Bool) {items : List Json} (hplain : ∀ j ∈ items, Plain depth j)
    (hback : ∀ j ∈ items, ReadsBack depth j) :
    Reads (readItems (readValue depth) first (pieces first (items.map compact) ++ ']' :: rest))
      items rest := by
  induction items generalizing first with
  | nil =>
    rw [List.map_nil, pieces_nil]
    exact readItems_end (nextItem_end first rest)
  | cons j js ih =>
    obtain ⟨c, cs, hj, hspace, hc⟩ := compact_head (hplain j (by simp))
    have hitem := hback j (by simp) (pieces false (js.map compact) ++ ']' :: rest)
    have hitems := ih false (fun j' h => hplain j' (by simp [h])) fun j' h => hback j' (by simp [h])
    rw [List.map_cons, pieces_cons]
    refine readItems_item ?_ hitem hitems
    rw [hj]
    exact nextItem_item first _ hspace hc

theorem readMembers_texts {ι : Type} (first : Bool) {items : List ι} {member : ι → String × Json}
    {text : ι → List Char} (htext : ∀ i ∈ items, MemberText depth (member i) (text i)) :
    Reads (readMembers (readValue depth) first (pieces first (items.map text) ++ '\x7d' :: rest))
      (items.map member) rest := by
  induction items generalizing first with
  | nil =>
    rw [List.map_nil, pieces_nil]
    exact readMembers_end (nextKey_end first rest)
  | cons i is ih =>
    obtain ⟨body, hi, hreads⟩ := htext i (by simp)
    obtain ⟨colon, hkey, hitem⟩ := hreads (pieces false (is.map text) ++ '\x7d' :: rest)
    have hmembers := ih false fun j h => htext j (by simp [h])
    rw [List.map_cons, pieces_cons, hi]
    have hread := readMembers_member (nextKey_key first _) hkey hitem hmembers
    rwa [String.ofList_toList] at hread

end Written

theorem readsBack {depth : Nat} {j : Json} (h : Plain depth j) : ReadsBack depth j := by
  intro rest
  induction h generalizing rest with
  | null depth => exact readValue_null depth rest
  | bool depth b => exact readValue_bool depth b rest
  | text depth s =>
    have htext : compact (.text s) ++ rest =
        '"' :: (s.toList.flatMap escapeChar ++ '"' :: rest) := by
      simp [compact, quoted]
    rw [htext]
    exact readValue_text (escapes_escapeChar.readString s.toList rest)
  | @list depth items hitems ih =>
    have hread := readItems_written rest true hitems ih
    have htext : compact (.list items) ++ rest =
        '[' :: (pieces true (items.map compact) ++ ']' :: rest) := by
      simp [compact, compactItems_eq, pieces]
    rw [htext]
    exact readValue_list hread
  | @object depth members hsorted _ ih =>
    have htexts : ∀ m ∈ members, MemberText (depth + 1) (id m) (member m) :=
      fun m hm => memberText_member (ih m hm)
    have hread := readMembers_texts rest true htexts
    rw [List.map_id] at hread
    have htext : compact (.object members) ++ rest =
        '{' :: (pieces true (members.map member) ++ '\x7d' :: rest) := by
      simp [compact, compactMembers_eq, pieces]
    rw [htext]
    have hobject := readValue_object hread
    rwa [Entries.ofList_of_sorted hsorted] at hobject

theorem read_of_reads {cs : List Char} {j : Json} (h : Reads (readValue depthLimit cs) j []) :
    read (String.ofList cs) = .ok j := by
  obtain ⟨hnil, hread⟩ := h
  rw [read, String.toList_ofList, readChars, hread]
  rfl

theorem read_write {j : Json} (h : Plain depthLimit j) : read j.write = .ok j := by
  have hback := readsBack h []
  rw [List.append_nil] at hback
  exact read_of_reads hback

theorem read_of_write {j : Json} {text : String} (h : Plain depthLimit j)
    (hwrite : j.write = text) : read text = .ok j := by
  rw [← hwrite]
  exact read_write h

theorem plain_texts {depth : Nat} {members : List (String × String)}
    (h : members.Pairwise fun a b => a.1 < b.1) :
    Plain (depth + 2) (.object (members.map fun m => (m.1, .text m.2))) := by
  refine .object (List.pairwise_map.mpr h) fun m hm => ?_
  obtain ⟨⟨name, s⟩, -, rfl⟩ := List.mem_map.mp hm
  exact .text _ s

end FieldRules.Json
