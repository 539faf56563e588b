import FieldRules.Proofs.LocaleTag
import FieldRules.Proofs.PatternMatch
import FieldRules.Verb.Text

namespace FieldRules

namespace Text

theorem split_eq_splitOnP (p : Char → Bool) (cs : List Char) : split p cs = cs.splitOnP p := by
  induction cs with
  | nil => rfl
  | cons c cs ih =>
    rw [split, List.splitOnP_cons_eq_if_modifyHead, ← ih]
    obtain ⟨piece, pieces, hcs⟩ := exists_split_eq_cons p cs
    rw [hcs]
    rfl

theorem split_intercalate {sep : Char} {pieces : List (List Char)} (hne : pieces ≠ [])
    (h : ∀ piece ∈ pieces, sep ∉ piece) :
    split (· == sep) ([sep].intercalate pieces) = pieces := by
  rw [split_eq_splitOnP]
  exact List.splitOn_intercalate sep h hne

theorem intercalate_cons (sep : Char) (piece : List Char) (pieces : List (List Char)) :
    [sep].intercalate (piece :: pieces) = piece ++ (pieces.map (sep :: ·)).flatten := by
  induction pieces generalizing piece with
  | nil => simp
  | cons next pieces ih =>
    rw [List.intercalate_cons_cons, ih, List.map_cons, List.flatten_cons, List.append_assoc,
      List.singleton_append, List.cons_append]

theorem intercalate_split (sep : Char) (cs : List Char) :
    [sep].intercalate (split (· == sep) cs) = cs := by
  rw [split_eq_splitOnP]
  exact List.intercalate_splitOn sep

end Text

namespace Unicode.CodeSet

theorem contains_nil {c : Char} : (CodeSet.mk []).contains c = false := rfl

theorem contains_pair_iff {x y : Nat} {flips : List Nat} {c : Char} :
    (CodeSet.mk (x :: y :: flips)).contains c = true ↔
      x ≤ c.toNat ∧ (c.toNat < y ∨ (CodeSet.mk flips).contains c = true) := by
  simp only [contains, insideAt, Bool.not_false, Bool.not_true]
  split
  · simp only [Bool.false_eq_true, false_iff]
    omega
  · split
    · simp only [true_iff]
      omega
    · simp only [*, false_or, iff_and_self]
      omega

theorem contains_single_iff {c d : Char} : (single d).contains c = true ↔ c = d := by
  rw [single, range, contains_pair_iff, contains_nil, ← Char.toNat_inj]
  simp only [Bool.false_eq_true, or_false]
  omega

end Unicode.CodeSet

namespace Contact

/-- Letters, digits and the marks that a mailbox has as well. -/
def IsMailboxChar (c : Char) : Prop :=
  c.isAlphanum = true ∨ c ∈ ".!#$%&\x27*+/=?^_\x60\x7b|\x7d~-".toList

instance (c : Char) : Decidable (IsMailboxChar c) :=
  inferInstanceAs (Decidable (c.isAlphanum = true ∨ c ∈ _))

structure IsMailbox (cs : List Char) : Prop where
  nonempty : cs ≠ []
  chars : ∀ c ∈ cs, IsMailboxChar c

/-- 1 to 63 letters, digits and hyphens, with no hyphen at either end. -/
structure IsLabel (cs : List Char) : Prop where
  nonempty : cs ≠ []
  length_le : cs.length ≤ 63
  chars : ∀ c ∈ cs, c.isAlphanum = true ∨ c = '-'
  head_ne : cs.head? ≠ some '-'
  last_ne : cs.getLast? ≠ some '-'

/-- One or more labels with a dot between each two. -/
def IsDomain (cs : List Char) : Prop :=
  ∃ labels : List (List Char), labels ≠ [] ∧ (∀ l ∈ labels, IsLabel l) ∧
    cs = ['.'].intercalate labels

/-- A mailbox at a domain. -/
def IsAddress (cs : List Char) : Prop :=
  ∃ mailbox domain, IsMailbox mailbox ∧ IsDomain domain ∧ cs = mailbox ++ '@' :: domain

theorem isAlphanum_iff {c : Char} : c.isAlphanum = true ↔
    (48 ≤ c.toNat ∧ c.toNat ≤ 57) ∨ (65 ≤ c.toNat ∧ c.toNat ≤ 90) ∨
      (97 ≤ c.toNat ∧ c.toNat ≤ 122) := by
  have hdigit : c.isDigit = true ↔ 48 ≤ c.toNat ∧ c.toNat ≤ 57 :=
    Bool.and_eq_true_iff.trans (and_congr decide_eq_true_iff decide_eq_true_iff)
  exact (Bool.or_eq_true_iff.trans (or_congr Text.isAlpha_iff hdigit)).trans or_comm

theorem isMailboxChar_iff {c : Char} : IsMailboxChar c ↔
    c.toNat = 33 ∨ (35 ≤ c.toNat ∧ c.toNat ≤ 39) ∨ (42 ≤ c.toNat ∧ c.toNat ≤ 43) ∨
      (45 ≤ c.toNat ∧ c.toNat ≤ 57) ∨ c.toNat = 61 ∨ c.toNat = 63 ∨
      (65 ≤ c.toNat ∧ c.toNat ≤ 90) ∨ (94 ≤ c.toNat ∧ c.toNat ≤ 126) := by
  simp only [IsMailboxChar, isAlphanum_iff, String.reduceToList, List.mem_cons, ← Char.toNat_inj,
    Char.reduceToNat, List.not_mem_nil, or_false]
  omega

theorem IsLabel.not_mem_dot {cs : List Char} (h : IsLabel cs) : '.' ∉ cs :=
  fun hmem => absurd (h.chars '.' hmem) (by decide)

theorem IsMailbox.not_mem_at {cs : List Char} (h : IsMailbox cs) : '@' ∉ cs :=
  fun hmem => absurd (h.chars '@' hmem) (by decide)

theorem isLabel_iff {cs : List Char} : isLabel cs = true ↔ IsLabel cs := by
  simp only [isLabel, Bool.and_eq_true, decide_eq_true_eq, List.length_pos_iff, List.all_eq_true,
    Bool.or_eq_true, beq_iff_eq, bne_iff_ne]
  exact ⟨fun ⟨⟨⟨⟨h₁, h₂⟩, h₃⟩, h₄⟩, h₅⟩ => ⟨h₁, h₂, h₃, h₄, h₅⟩,
    fun h => ⟨⟨⟨⟨h.nonempty, h.length_le⟩, h.chars⟩, h.head_ne⟩, h.last_ne⟩⟩

theorem isDomain_iff {cs : List Char} : isDomain cs = true ↔ IsDomain cs := by
  simp only [isDomain, List.all_eq_true, isLabel_iff]
  constructor
  · exact fun h => ⟨_, Text.split_ne_nil _ cs, h, (Text.intercalate_split '.' cs).symm⟩
  · rintro ⟨labels, hne, hlabels, rfl⟩
    rwa [Text.split_intercalate hne fun l hl => (hlabels l hl).not_mem_dot]

theorem IsDomain.chars {cs : List Char} (h : IsDomain cs) :
    ∀ c ∈ cs, c = '.' ∨ c.isAlphanum = true ∨ c = '-' := by
  obtain ⟨labels, hne, hlabels, rfl⟩ := h
  obtain ⟨label, labels, rfl⟩ := List.exists_cons_of_ne_nil hne
  intro c hc
  rw [Text.intercalate_cons, List.mem_append, List.mem_flatten] at hc
  rcases hc with hc | ⟨_, hl, hc⟩
  · exact .inr ((hlabels label List.mem_cons_self).chars c hc)
  · obtain ⟨l, hmem, rfl⟩ := List.mem_map.mp hl
    exact (List.mem_cons.mp hc).imp_right
      ((hlabels l (List.mem_cons_of_mem label hmem)).chars c)

theorem IsDomain.not_mem_at {cs : List Char} (h : IsDomain cs) : '@' ∉ cs :=
  fun hmem => absurd (h.chars '@' hmem) (by decide)

theorem isMailbox_iff {cs : List Char} :
    (cs != [] && cs.all isMailboxChar) = true ↔ IsMailbox cs := by
  simp only [isMailboxChar, Bool.and_eq_true, bne_iff_ne, List.all_eq_true, Bool.or_eq_true,
    List.contains_iff_mem]
  exact ⟨fun ⟨hne, hchars⟩ => ⟨hne, hchars⟩, fun h => ⟨h.nonempty, h.chars⟩⟩

/-- What is read as an email address is an address, and every address is read. -/
theorem isEmail_iff {cs : List Char} : isEmail cs = true ↔ IsAddress cs := by
  unfold isEmail
  constructor
  · intro h
    split at h
    · rename_i mailbox domain hsplit
      obtain ⟨hmailbox, hdomain⟩ := Bool.and_eq_true_iff.mp h
      obtain ⟨_, _, hat, rfl, hrest⟩ := Text.exists_of_split_cons_cons hsplit
      obtain rfl := eq_of_beq hat
      rw [Text.eq_of_split_singleton hrest]
      exact ⟨mailbox, domain, isMailbox_iff.mp hmailbox, isDomain_iff.mp hdomain, rfl⟩
    · cases h
  · rintro ⟨mailbox, domain, hmailbox, hdomain, rfl⟩
    have hsplit : Text.split (· == '@') (mailbox ++ '@' :: domain) = [mailbox, domain] := by
      have hfirst : ∀ c ∈ mailbox, (c == '@') = false := fun c hc =>
        beq_false_of_ne (ne_of_mem_of_not_mem hc hmailbox.not_mem_at)
      have hrest : ∀ c ∈ domain, (c == '@') = false := fun c hc =>
        beq_false_of_ne (ne_of_mem_of_not_mem hc hdomain.not_mem_at)
      rw [Text.split_append hfirst (beq_self_eq_true '@'), Text.split_eq_self hrest]
    rw [hsplit]
    exact Bool.and_eq_true_iff.mpr ⟨isMailbox_iff.mpr hmailbox, isDomain_iff.mpr hdomain⟩

instance (cs : List Char) : Decidable (IsAddress cs) := decidable_of_iff _ isEmail_iff

/-- An address has only visible characters of ASCII. -/
theorem IsAddress.visible {cs : List Char} (h : IsAddress cs) :
    ∀ c ∈ cs, 33 ≤ c.toNat ∧ c.toNat ≤ 126 := by
  obtain ⟨mailbox, domain, hmailbox, hdomain, rfl⟩ := h
  intro c hc
  rcases List.mem_append.mp hc with hc | hc
  · have hchar := isMailboxChar_iff.mp (hmailbox.chars c hc)
    omega
  · rcases List.mem_cons.mp hc with rfl | hc
    · decide
    · rcases hdomain.chars c hc with rfl | hletter | rfl
      · decide
      · have hchar := isAlphanum_iff.mp hletter
        omega
      · decide

theorem IsAddress.count_at {cs : List Char} (h : IsAddress cs) : cs.count '@' = 1 := by
  obtain ⟨mailbox, domain, hmailbox, hdomain, rfl⟩ := h
  rw [List.count_append, List.count_cons_self, List.count_eq_zero.mpr hmailbox.not_mem_at,
    List.count_eq_zero.mpr hdomain.not_mem_at]

/-- The regular expression for addresses. -/
def emailExpression : String :=
  "^[a-zA-Z0-9.!#$%&\x27*+/=?^_\x60\x7b|\x7d~-]+@" ++
    "[a-zA-Z0-9](?:[a-zA-Z0-9-]\x7b0,61\x7d[a-zA-Z0-9])?" ++
    "(?:\\.[a-zA-Z0-9](?:[a-zA-Z0-9-]\x7b0,61\x7d[a-zA-Z0-9])?)*$"

/-- Characters of a mailbox, as the bracket is read. -/
def mailboxSet : Unicode.CodeSet :=
  ⟨[33, 34, 35, 40, 42, 44, 45, 58, 61, 62, 63, 64, 65, 91, 94, 127]⟩

def endSet : Unicode.CodeSet := ⟨[48, 58, 65, 91, 97, 123]⟩

def innerSet : Unicode.CodeSet := ⟨[45, 46, 48, 58, 65, 91, 97, 123]⟩

open Pattern (set group times concat look)

/-- Letters, digits and hyphens up to a letter or digit. -/
def labelRest : Pattern :=
  group .plain (concat [times 0 (some 61) (set innerSet 2), set endSet 2])

def labelParts : List Pattern := [set endSet 2, times 0 (some 1) labelRest]

/-- A label behind a dot. -/
def nextLabel : Pattern :=
  group .plain (concat (set (Unicode.CodeSet.single '.') 0 :: labelParts))

def addressParts : List Pattern :=
  times 1 none (set mailboxSet 2) :: set (Unicode.CodeSet.single '@') 0 ::
    (labelParts ++ [times 0 none nextLabel])

set_option maxRecDepth 10000 in
theorem ofText?_emailExpression : Pattern.ofText? emailExpression.toList =
    some (concat (look .textStart :: addressParts ++ [look .textEnd])) := by
  with_unfolding_all rfl

theorem contains_mailboxSet_iff {c : Char} : mailboxSet.contains c = true ↔ IsMailboxChar c := by
  simp only [isMailboxChar_iff, mailboxSet, Unicode.CodeSet.contains_pair_iff,
    Unicode.CodeSet.contains_nil, Bool.false_eq_true, or_false]
  omega

theorem contains_endSet_iff {c : Char} : endSet.contains c = true ↔ c.isAlphanum = true := by
  simp only [isAlphanum_iff, endSet, Unicode.CodeSet.contains_pair_iff,
    Unicode.CodeSet.contains_nil, Bool.false_eq_true, or_false]
  omega

theorem contains_innerSet_iff {c : Char} :
    innerSet.contains c = true ↔ c.isAlphanum = true ∨ c = '-' := by
  simp only [isAlphanum_iff, ← Char.toNat_inj, innerSet, Unicode.CodeSet.contains_pair_iff,
    Unicode.CodeSet.contains_nil, Bool.false_eq_true, or_false, Char.reduceToNat]
  omega

/-- What goes on after the first character of a label: at most 61 characters and a last one. -/
structure EndsLabel (inner : List Char) (last : Char) : Prop where
  length_le : inner.length ≤ 61
  inner : ∀ c ∈ inner, c.isAlphanum = true ∨ c = '-'
  last : last.isAlphanum = true

theorem ne_of_isAlphanum {c : Char} (h : c.isAlphanum = true) : c ≠ '-' := by
  rintro rfl
  cases h

/-- A label is its first character, and perhaps others up to a last one. -/
theorem isLabel_iff_exists_ends {cs : List Char} : IsLabel cs ↔
    ∃ first, first.isAlphanum = true ∧
      (cs = [first] ∨ ∃ inner last, EndsLabel inner last ∧ cs = first :: (inner ++ [last])) := by
  constructor
  · intro h
    obtain ⟨first, rest, rfl⟩ := List.exists_cons_of_ne_nil h.nonempty
    have hfirst : first.isAlphanum = true :=
      (h.chars first List.mem_cons_self).resolve_right fun heq => h.head_ne (congrArg some heq)
    refine ⟨first, hfirst, ?_⟩
    rcases List.eq_nil_or_concat' rest with rfl | ⟨inner, last, rfl⟩
    · exact .inl rfl
    · refine .inr ⟨inner, last, ⟨?_, fun c hc => h.chars c (by simp [hc]), ?_⟩, rfl⟩
      · have hlength := h.length_le
        simp only [List.length_cons, List.length_append, List.length_nil] at hlength
        omega
      · refine (h.chars last (by simp)).resolve_right fun heq => h.last_ne ?_
        rw [← List.cons_append, List.getLast?_append, heq]
        rfl
  · rintro ⟨first, hfirst, rfl | ⟨inner, last, hends, rfl⟩⟩
    · have hne := ne_of_isAlphanum hfirst
      exact ⟨by simp, by simp, by simp [hfirst], by simp [hne], by simp [hne]⟩
    · have hlength := hends.length_le
      refine ⟨by simp, by simp; omega, ?_, by simp [ne_of_isAlphanum hfirst], ?_⟩
      · intro c hc
        simp only [List.mem_cons, List.mem_append, List.not_mem_nil, or_false] at hc
        rcases hc with rfl | hc | rfl
        · exact .inl hfirst
        · exact hends.inner c hc
        · exact .inl hends.last
      · rw [← List.cons_append, List.getLast?_append]
        simp [ne_of_isAlphanum hends.last]

theorem mem_labelRest_language_iff {w : List Char} :
    w ∈ labelRest.language ↔ ∃ inner last, EndsLabel inner last ∧ w = inner ++ [last] := by
  change w ∈ Pattern.languageOfAll [times 0 (some 61) (set innerSet 2), set endSet 2] ↔ _
  rw [Pattern.mem_languageOfAll_cons_iff, Pattern.languageOfAll_singleton]
  simp only [Pattern.mem_times_set_language_iff, contains_innerSet_iff]
  constructor
  · rintro ⟨inner, ⟨hinner, -, hlength⟩, _, ⟨last, hlast, rfl⟩, rfl⟩
    exact ⟨inner, last, ⟨hlength 61 rfl, hinner, contains_endSet_iff.mp hlast⟩, rfl⟩
  · rintro ⟨inner, last, hends, rfl⟩
    have hmax : ∀ m ∈ some 61, inner.length - 0 ≤ m - 0 := by
      rintro _ ⟨⟩
      exact hends.length_le
    exact ⟨inner, ⟨hends.inner, Nat.zero_le _, hmax⟩, [last],
      ⟨last, contains_endSet_iff.mpr hends.last, rfl⟩, rfl⟩

theorem mem_labelParts_language_iff {w : List Char} :
    w ∈ Pattern.languageOfAll labelParts ↔ IsLabel w := by
  rw [labelParts, Pattern.mem_languageOfAll_set_cons_iff, Pattern.languageOfAll_singleton,
    isLabel_iff_exists_ends]
  simp only [contains_endSet_iff, Pattern.mem_optional_language_iff, mem_labelRest_language_iff]
  constructor
  · rintro ⟨first, hfirst, _, rfl | ⟨inner, last, hends, rfl⟩, rfl⟩
    · exact ⟨first, hfirst, .inl rfl⟩
    · exact ⟨first, hfirst, .inr ⟨inner, last, hends, rfl⟩⟩
  · rintro ⟨first, hfirst, rfl | ⟨inner, last, hends, rfl⟩⟩
    · exact ⟨first, hfirst, [], .inl rfl, rfl⟩
    · exact ⟨first, hfirst, _, .inr ⟨inner, last, hends, rfl⟩, rfl⟩

theorem mem_nextLabel_language_iff {w : List Char} :
    w ∈ nextLabel.language ↔ ∃ l, IsLabel l ∧ w = '.' :: l := by
  change w ∈ Pattern.languageOfAll (set (Unicode.CodeSet.single '.') 0 :: labelParts) ↔ _
  simp only [Pattern.mem_languageOfAll_set_cons_iff, Unicode.CodeSet.contains_single_iff,
    mem_labelParts_language_iff, exists_eq_left]

/-- Words of the rest of a domain are labels with a dot before each. -/
theorem mem_star_nextLabel_language_iff {w : List Char} :
    w ∈ (times 0 none nextLabel).language ↔
      ∃ ls : List (List Char), (∀ l ∈ ls, IsLabel l) ∧ w = (ls.map ('.' :: ·)).flatten := by
  rw [Pattern.mem_star_language_iff]
  simp only [mem_nextLabel_language_iff]
  constructor
  · rintro ⟨ws, rfl, hws⟩
    have hback : (ws.map List.tail).map ('.' :: ·) = ws := by
      rw [List.map_map]
      refine (List.map_congr_left fun v hv => ?_).trans (List.map_id ws)
      obtain ⟨l, -, rfl⟩ := hws v hv
      rfl
    refine ⟨ws.map List.tail, fun l hl => ?_, by rw [hback]⟩
    obtain ⟨v, hv, rfl⟩ := List.mem_map.mp hl
    obtain ⟨l, hlabel, rfl⟩ := hws v hv
    exact hlabel
  · rintro ⟨ls, hls, rfl⟩
    refine ⟨_, rfl, fun v hv => ?_⟩
    obtain ⟨l, hl, rfl⟩ := List.mem_map.mp hv
    exact ⟨l, hls l hl, rfl⟩

theorem mem_domainParts_language_iff {w : List Char} :
    w ∈ Pattern.languageOfAll (labelParts ++ [times 0 none nextLabel]) ↔ IsDomain w := by
  rw [Pattern.languageOfAll_append, Language.mem_mul, Pattern.languageOfAll_singleton]
  simp only [mem_labelParts_language_iff, mem_star_nextLabel_language_iff]
  constructor
  · rintro ⟨l, hl, _, ⟨ls, hls, rfl⟩, rfl⟩
    exact ⟨l :: ls, List.cons_ne_nil l ls, List.forall_mem_cons.mpr ⟨hl, hls⟩,
      (Text.intercalate_cons '.' l ls).symm⟩
  · rintro ⟨labels, hne, hlabels, rfl⟩
    obtain ⟨l, ls, rfl⟩ := List.exists_cons_of_ne_nil hne
    obtain ⟨hl, hls⟩ := List.forall_mem_cons.mp hlabels
    exact ⟨l, hl, _, ⟨ls, hls, rfl⟩, (Text.intercalate_cons '.' l ls).symm⟩

/-- The words between the ends of the text are the addresses. -/
theorem mem_addressParts_language_iff {w : List Char} :
    w ∈ Pattern.languageOfAll addressParts ↔ IsAddress w := by
  rw [addressParts, Pattern.mem_languageOfAll_cons_iff]
  simp only [Pattern.mem_languageOfAll_set_cons_iff, Pattern.mem_times_set_language_iff,
    Unicode.CodeSet.contains_single_iff, contains_mailboxSet_iff, mem_domainParts_language_iff]
  constructor
  · rintro ⟨mailbox, ⟨hchars, hlength, -⟩, _, ⟨_, rfl, domain, hdomain, rfl⟩, rfl⟩
    exact ⟨mailbox, domain, ⟨List.length_pos_iff.mp hlength, hchars⟩, hdomain, rfl⟩
  · rintro ⟨mailbox, domain, hmailbox, hdomain, rfl⟩
    have hlength : 1 ≤ mailbox.length := List.length_pos_iff.mpr hmailbox.nonempty
    exact ⟨mailbox, ⟨hmailbox.chars, hlength, by simp⟩, _, ⟨_, rfl, domain, hdomain, rfl⟩, rfl⟩

theorem isMatch_emailExpression_iff {cs : List Char} :
    (concat (look .textStart :: addressParts ++ [look .textEnd])).isMatch cs = true ↔
      IsAddress cs := by
  rw [Pattern.isMatch_between_ends_iff rfl, mem_addressParts_language_iff]

end Contact

namespace TextVerb

open Contact (IsAddress emailExpression)

/-- A text passes exactly if it is an address, and those are the texts that the expression matches.
An address has one at sign, no blank and nothing beyond ASCII. -/
theorem email_accepts_addresses (now : Instant) (d : Document) {f : Field} {s : String}
    (htext : f.value = some (.text s)) :
    (email.run now d f = .ok f ↔ IsAddress s.toList) ∧
    (email.run now d f = .error (f.fail "string.email") ↔ ¬IsAddress s.toList) ∧
    (∃ r, Pattern.ofText? emailExpression.toList = some r ∧
      (r.isMatch s.toList = true ↔ IsAddress s.toList)) ∧
    (IsAddress s.toList →
      s.toList.count '@' = 1 ∧ ∀ c ∈ s.toList, c.toNat < 0x80 ∧ Text.isBlank c = false) := by
  have hread : f.text = .ok s := by
    rw [Field.text, htext]
    rfl
  have hrun : email.run now d f =
      f.verify (Contact.isEmail s.toList) (f.fail "string.email") := by
    rw [run, check, hread]
    rfl
  refine ⟨?_, ?_, ⟨_, Contact.ofText?_emailExpression, Contact.isMatch_emailExpression_iff⟩,
    fun h => ⟨h.count_at, fun c hc => ?_⟩⟩
  · rw [hrun, ← Contact.isEmail_iff, Field.verify]
    split <;> simp [*]
  · rw [hrun, ← Contact.isEmail_iff, Field.verify]
    split <;> simp [*]
  · have hvisible := h.visible c hc
    simp only [Text.isBlank, Bool.or_eq_false_iff, Bool.and_eq_false_iff, decide_eq_false_iff_not,
      beq_eq_false_iff_ne]
    omega

/-- An address with a label of one character, and a text that ends with its dot. -/
theorem email_accepts_addresses_of_short_label :
    let f : Field := { name := "a", value := some (.text "o\x27x+y@a-1.b") }
    let g : Field := { name := "a", value := some (.text "o\x27x+y@a-1.") }
    f.value = some (.text "o\x27x+y@a-1.b") ∧ email.run ⟨0, 0⟩ [] f = .ok f ∧
      email.run ⟨0, 0⟩ [] g = .error (g.fail "string.email") := by
  intro f g
  have haddress : IsAddress "o\x27x+y@a-1.b".toList := by decide
  have hnone : ¬IsAddress "o\x27x+y@a-1.".toList := by decide
  exact ⟨rfl, (email_accepts_addresses ⟨0, 0⟩ [] (f := f) rfl).1.mpr haddress,
    (email_accepts_addresses ⟨0, 0⟩ [] (f := g) rfl).2.1.mpr hnone⟩

end TextVerb
end FieldRules
