import FieldRules.Config
import Mathlib.Data.List.Basic

namespace FieldRules

namespace Text

variable {p : Char → Bool} {cs : List Char}

theorem split_eq_self (h : ∀ c ∈ cs, p c = false) : split p cs = [cs] := by
  induction cs with
  | nil => rfl
  | cons c cs ih =>
    have hc : p c = false := h c List.mem_cons_self
    have hcs : split p cs = [cs] := ih fun d hd => h d (List.mem_cons_of_mem c hd)
    simp [split, hc, hcs]

theorem split_append {xs ys : List Char} {c : Char} (hxs : ∀ x ∈ xs, p x = false)
    (hc : p c = true) : split p (xs ++ c :: ys) = xs :: split p ys := by
  induction xs with
  | nil => simp [split, hc]
  | cons x xs ih =>
    have hx : p x = false := hxs x List.mem_cons_self
    have hrest := ih fun d hd => hxs d (List.mem_cons_of_mem x hd)
    simp [split, hx, hrest]

theorem split_cons_of_not {c : Char} {piece : List Char} {pieces : List (List Char)}
    (hc : p c = false) (h : split p cs = piece :: pieces) :
    split p (c :: cs) = (c :: piece) :: pieces := by
  simp [split, hc, h]

theorem exists_split_eq_cons (p : Char → Bool) (cs : List Char) :
    ∃ piece pieces, split p cs = piece :: pieces :=
  List.exists_cons_of_ne_nil (split_ne_nil p cs)

theorem eq_of_split_singleton {x : List Char} (h : split p cs = [x]) : cs = x := by
  induction cs generalizing x with
  | nil => exact (List.cons.inj h).1
  | cons c cs ih =>
    obtain ⟨piece, pieces, hcs⟩ := exists_split_eq_cons p cs
    cases hc : p c with
    | true =>
      rw [split, if_pos hc, hcs] at h
      cases h
    | false =>
      rw [split_cons_of_not hc hcs] at h
      obtain ⟨rfl, rfl⟩ := List.cons.inj h
      rw [ih hcs]

theorem exists_of_split_cons_cons {x y : List Char} {pieces : List (List Char)}
    (h : split p cs = x :: y :: pieces) :
    ∃ c ys, p c = true ∧ cs = x ++ c :: ys ∧ split p ys = y :: pieces := by
  induction cs generalizing x with
  | nil => cases h
  | cons c cs ih =>
    cases hc : p c with
    | true =>
      rw [split, if_pos hc] at h
      obtain ⟨rfl, hrest⟩ := List.cons.inj h
      exact ⟨c, cs, hc, rfl, hrest⟩
    | false =>
      obtain ⟨piece, more, hcs⟩ := exists_split_eq_cons p cs
      rw [split_cons_of_not hc hcs] at h
      obtain ⟨rfl, rfl⟩ := List.cons.inj h
      obtain ⟨d, ys, hd, rfl, hys⟩ := ih hcs
      exact ⟨d, ys, hd, rfl, hys⟩

theorem dropWhile_eq_self (h : ∀ c ∈ cs, p c = false) : cs.dropWhile p = cs := by
  cases cs with
  | nil => rfl
  | cons c cs =>
    have hc : p c = false := h c List.mem_cons_self
    rw [List.dropWhile_cons_of_neg (by simp [hc])]

theorem trim_eq_self (h : ∀ c ∈ cs, p c = false) : trim p cs = cs := by
  have hrev : ∀ c ∈ cs.reverse, p c = false := fun c hc => h c (List.mem_reverse.mp hc)
  rw [trim, dropWhile_eq_self h, dropWhileEnd, dropWhile_eq_self hrev, List.reverse_reverse]

theorem isUpper_iff {c : Char} : c.isUpper = true ↔ 65 ≤ c.toNat ∧ c.toNat ≤ 90 :=
  decide_eq_true_iff

theorem isLower_iff {c : Char} : c.isLower = true ↔ 97 ≤ c.toNat ∧ c.toNat ≤ 122 :=
  Bool.and_eq_true_iff.trans (and_congr decide_eq_true_iff decide_eq_true_iff)

theorem isAlpha_iff {c : Char} :
    c.isAlpha = true ↔ 65 ≤ c.toNat ∧ c.toNat ≤ 90 ∨ 97 ≤ c.toNat ∧ c.toNat ≤ 122 :=
  Bool.or_eq_true_iff.trans (or_congr isUpper_iff isLower_iff)

theorem toNat_toLower (c : Char) :
    c.toLower.toNat = if 65 ≤ c.toNat ∧ c.toNat ≤ 90 then c.toNat + 32 else c.toNat := by
  unfold Char.toLower
  split
  · rename_i h
    have hrange : 65 ≤ c.toNat ∧ c.toNat ≤ 90 := h
    rw [if_pos hrange]
    change (c.toNat + 32) % 2 ^ 32 = c.toNat + 32
    omega
  · rename_i h
    have hrange : ¬(65 ≤ c.toNat ∧ c.toNat ≤ 90) := h
    rw [if_neg hrange]

theorem toNat_toUpper (c : Char) :
    c.toUpper.toNat = if 97 ≤ c.toNat ∧ c.toNat ≤ 122 then c.toNat - 32 else c.toNat := by
  unfold Char.toUpper
  split
  · rename_i h
    have hrange : 97 ≤ c.toNat ∧ c.toNat ≤ 122 := h
    rw [if_pos hrange]
    have hdown : ('A'.val - 'a'.val).toNat = 2 ^ 32 - 32 := by decide
    change (c.val + ('A'.val - 'a'.val)).toNat = c.toNat - 32
    rw [UInt32.toNat_add, hdown]
    change (c.toNat + _) % _ = _
    omega
  · rename_i h
    have hrange : ¬(97 ≤ c.toNat ∧ c.toNat ≤ 122) := h
    rw [if_neg hrange]

theorem isBlank_of_isAlpha {c : Char} (h : c.isAlpha = true) : isBlank c = false := by
  have hrange := isAlpha_iff.mp h
  simp only [isBlank, Bool.or_eq_false_iff, Bool.and_eq_false_iff, decide_eq_false_iff_not,
    beq_eq_false_iff_ne]
  omega

section Case

variable {c : Char} (h : c.isAlpha = true)
include h

theorem isLower_toLower : c.toLower.isLower = true := by
  simp only [isLower_iff, isAlpha_iff, toNat_toLower] at h ⊢
  grind

theorem isUpper_toUpper : c.toUpper.isUpper = true := by
  simp only [isUpper_iff, isAlpha_iff, toNat_toUpper] at h ⊢
  grind

theorem isAlpha_toLower : c.toLower.isAlpha = true :=
  Bool.or_eq_true_iff.mpr (.inr (isLower_toLower h))

theorem isAlpha_toUpper : c.toUpper.isAlpha = true :=
  Bool.or_eq_true_iff.mpr (.inl (isUpper_toUpper h))

end Case

theorem lower_lower (cs : List Char) : lower (lower cs) = lower cs := by
  simp only [lower, List.map_map, List.map_inj_left, Function.comp_apply, ← Char.toNat_inj,
    toNat_toLower]
  grind

theorem upper_upper (cs : List Char) : upper (upper cs) = upper cs := by
  simp only [upper, List.map_map, List.map_inj_left, Function.comp_apply, ← Char.toNat_inj,
    toNat_toUpper]
  grind

theorem upper_lower (cs : List Char) : upper (lower cs) = upper cs := by
  simp only [lower, upper, List.map_map, List.map_inj_left, Function.comp_apply, ← Char.toNat_inj,
    toNat_toLower, toNat_toUpper]
  grind

theorem lower_upper (cs : List Char) : lower (upper cs) = lower cs := by
  simp only [lower, upper, List.map_map, List.map_inj_left, Function.comp_apply, ← Char.toNat_inj,
    toNat_toLower, toNat_toUpper]
  grind

end Text

namespace Locale

def IsSeparator (c : Char) : Prop := c = '-' ∨ c = '_'

/-- Two or three letters. -/
structure IsLanguage (cs : List Char) : Prop where
  length : cs.length = 2 ∨ cs.length = 3
  letters : ∀ c ∈ cs, c.isAlpha = true

/-- Two letters. -/
structure IsRegion (cs : List Char) : Prop where
  length : cs.length = 2
  letters : ∀ c ∈ cs, c.isAlpha = true

/-- The ways to spell a locale: its language in any case, and its region, if it has one, in any case
behind a separator. -/
inductive Spells : List Char → Locale → Prop
  | language {w : List Char} (hw : IsLanguage w) : Spells w ⟨String.ofList (Text.lower w), none⟩
  | region {w r : List Char} {sep : Char} (hw : IsLanguage w) (hsep : IsSeparator sep)
      (hr : IsRegion r) :
      Spells (w ++ sep :: r) ⟨String.ofList (Text.lower w), some (String.ofList (Text.upper r))⟩

/-- What two spellings of one locale have in common. -/
def foldSpelling (cs : List Char) : List Char :=
  cs.map fun c => if c = '_' then '-' else c.toLower

/-- The language is in lower case, the region in upper case. -/
structure IsCanonical (l : Locale) : Prop where
  language : ∀ c ∈ l.language.toList, c.isLower = true
  region : ∀ r, l.region = some r → ∀ c ∈ r.toList, c.isUpper = true

theorem not_isSeparator {c : Char} (h : c.isAlpha = true) : ¬IsSeparator c := by
  rintro (rfl | rfl) <;> revert h <;> decide

theorem isLanguage_iff {cs : List Char} : ofTag?.isLanguage cs = true ↔ IsLanguage cs := by
  simp only [ofTag?.isLanguage, Bool.and_eq_true, decide_eq_true_eq, List.all_eq_true]
  exact ⟨fun ⟨hlen, hletters⟩ => ⟨hlen, hletters⟩, fun h => ⟨h.length, h.letters⟩⟩

theorem isLanguage_lower {w : List Char} (h : IsLanguage w) : IsLanguage (Text.lower w) := by
  refine ⟨by simpa [Text.lower] using h.length, fun c hc => ?_⟩
  obtain ⟨d, hd, rfl⟩ := List.mem_map.mp hc
  exact Text.isAlpha_toLower (h.letters d hd)

theorem isRegion_lower {r : List Char} (h : IsRegion r) : IsRegion (Text.lower r) := by
  refine ⟨by simpa [Text.lower] using h.length, fun c hc => ?_⟩
  obtain ⟨d, hd, rfl⟩ := List.mem_map.mp hc
  exact Text.isAlpha_toLower (h.letters d hd)

theorem isRegion_upper {r : List Char} (h : IsRegion r) : IsRegion (Text.upper r) := by
  refine ⟨by simpa [Text.upper] using h.length, fun c hc => ?_⟩
  obtain ⟨d, hd, rfl⟩ := List.mem_map.mp hc
  exact Text.isAlpha_toUpper (h.letters d hd)

theorem foldSpelling_letters {w : List Char} (h : ∀ c ∈ w, c.isAlpha = true) :
    foldSpelling w = Text.lower w := by
  apply List.map_congr_left
  intro c hc
  have hne : c ≠ '_' := fun heq => not_isSeparator (h c hc) (.inr heq)
  rw [if_neg hne]

theorem foldSpelling_region {w r : List Char} {sep : Char} (hw : IsLanguage w)
    (hsep : IsSeparator sep) (hr : IsRegion r) :
    foldSpelling (w ++ sep :: r) = Text.lower w ++ '-' :: Text.lower r := by
  have hdash : foldSpelling (sep :: r) = '-' :: Text.lower r := by
    rcases hsep with rfl | rfl <;>
      exact congrArg (List.cons '-') (foldSpelling_letters hr.letters)
  rw [← foldSpelling_letters hw.letters, ← hdash]
  exact List.map_append

namespace Spells

variable {cs ds : List Char} {l m : Locale}

/-- A tag spells its locale. -/
theorem tag (h : Spells cs l) : Spells l.tag.toList l := by
  cases h with
  | language hw =>
    have htag := Spells.language (isLanguage_lower hw)
    rw [Text.lower_lower] at htag
    simpa [Locale.tag] using htag
  | region hw hsep hr =>
    have htag := Spells.region (isLanguage_lower hw) (.inl rfl) (isRegion_upper hr)
    rw [Text.lower_lower, Text.upper_upper] at htag
    simpa [Locale.tag] using htag

/-- Neither the case nor the separator matters. -/
theorem fold (h : Spells cs l) : Spells (foldSpelling cs) l := by
  cases h with
  | language hw =>
    have hfold := Spells.language (isLanguage_lower hw)
    rw [Text.lower_lower] at hfold
    rwa [foldSpelling_letters hw.letters]
  | region hw hsep hr =>
    have hfold := Spells.region (isLanguage_lower hw) (.inl rfl) (isRegion_lower hr)
    rw [Text.lower_lower, Text.upper_lower] at hfold
    rwa [foldSpelling_region hw hsep hr]

theorem foldSpelling_tag (h : Spells cs l) : foldSpelling l.tag.toList = foldSpelling cs := by
  cases h with
  | language hw =>
    have htag : foldSpelling (Text.lower cs) = foldSpelling cs := by
      rw [foldSpelling_letters (isLanguage_lower hw).letters, Text.lower_lower,
        foldSpelling_letters hw.letters]
    simpa [Locale.tag] using htag
  | region hw hsep hr =>
    have htag := foldSpelling_region (isLanguage_lower hw) (.inl rfl) (isRegion_upper hr)
    rw [Text.lower_lower, Text.lower_upper, ← foldSpelling_region hw hsep hr] at htag
    simpa [Locale.tag] using htag

theorem isCanonical (h : Spells cs l) : l.IsCanonical := by
  have hlower {w : List Char} (hw : ∀ c ∈ w, c.isAlpha = true) :
      ∀ c ∈ (String.ofList (Text.lower w)).toList, c.isLower = true := by
    intro c hc
    rw [String.toList_ofList] at hc
    obtain ⟨d, hd, rfl⟩ := List.mem_map.mp hc
    exact Text.isLower_toLower (hw d hd)
  cases h with
  | language hw => exact ⟨hlower hw.letters, fun r hr => nomatch hr⟩
  | region hw hsep hr =>
    refine ⟨hlower hw.letters, ?_⟩
    rintro _ ⟨⟩ c hc
    rw [String.toList_ofList] at hc
    obtain ⟨d, hd, rfl⟩ := List.mem_map.mp hc
    exact Text.isUpper_toUpper (hr.letters d hd)

theorem no_blank (h : Spells cs l) : ∀ c ∈ cs, Text.isBlank c = false := by
  cases h with
  | language hw => exact fun c hc => Text.isBlank_of_isAlpha (hw.letters c hc)
  | region hw hsep hr =>
    intro c hc
    rcases List.mem_append.mp hc with hc | hc
    · exact Text.isBlank_of_isAlpha (hw.letters c hc)
    · rcases List.mem_cons.mp hc with rfl | hc
      · rcases hsep with rfl | rfl <;> decide
      · exact Text.isBlank_of_isAlpha (hr.letters c hc)

end Spells

theorem ofTag?_eq_some_iff {t : String} {l : Locale} :
    ofTag? t = some l ↔ Spells (Text.trimBlanks t.toList) l := by
  generalize htext : Text.trimBlanks t.toList = cs
  have hletters {w : List Char} (hw : ∀ c ∈ w, c.isAlpha = true) :
      ∀ c ∈ w, decide (c = '-' ∨ c = '_') = false := fun c hc =>
    decide_eq_false (not_isSeparator (hw c hc))
  constructor
  · intro h
    unfold ofTag? at h
    rw [htext] at h
    split at h
    · rename_i w hsplit
      split at h
      · rename_i hw
        cases h
        rw [Text.eq_of_split_singleton hsplit]
        exact .language (isLanguage_iff.mp hw)
      · cases h
    · rename_i w r hsplit
      split at h
      · rename_i hparts
        obtain ⟨hw, hlen, hr⟩ := hparts
        cases h
        obtain ⟨sep, ys, hsep, rfl, hys⟩ := Text.exists_of_split_cons_cons hsplit
        have hor : sep = '-' ∨ sep = '_' := of_decide_eq_true hsep
        rw [Text.eq_of_split_singleton hys]
        exact .region (isLanguage_iff.mp hw) hor ⟨hlen, List.all_eq_true.mp hr⟩
      · cases h
    · cases h
  · intro h
    unfold ofTag?
    rw [htext]
    cases h with
    | language hw =>
      rw [Text.split_eq_self (hletters hw.letters)]
      exact if_pos (isLanguage_iff.mpr hw)
    | @region _ _ sep hw hsep hr =>
      have hor : sep = '-' ∨ sep = '_' := hsep
      have hparts : decide (sep = '-' ∨ sep = '_') = true := decide_eq_true hor
      rw [Text.split_append (hletters hw.letters) hparts, Text.split_eq_self (hletters hr.letters)]
      exact if_pos ⟨isLanguage_iff.mpr hw, hr.length, List.all_eq_true.mpr hr.letters⟩

theorem Spells.ofTag? {cs : List Char} {l : Locale} (h : Spells cs l) :
    Locale.ofTag? (String.ofList cs) = some l := by
  rw [ofTag?_eq_some_iff, String.toList_ofList, Text.trimBlanks, Text.trim_eq_self h.no_blank]
  exact h

theorem Spells.ofTag?_tag {cs : List Char} {l : Locale} (h : Spells cs l) :
    Locale.ofTag? l.tag = some l := by
  have htag := h.tag.ofTag?
  rwa [String.ofList_toList] at htag

/-- Two spellings are of one locale exactly when they differ in case and separator only. -/
theorem Spells.eq_iff {cs ds : List Char} {l m : Locale} (hl : Spells cs l) (hm : Spells ds m) :
    l = m ↔ foldSpelling cs = foldSpelling ds := by
  constructor
  · rintro rfl
    rw [← hl.foldSpelling_tag, hm.foldSpelling_tag]
  · intro hfold
    have hboth := hm.fold.ofTag?
    rw [← hfold, hl.fold.ofTag?] at hboth
    exact Option.some.inj hboth

/-- A text is read as a locale exactly when, without the blanks around it, it spells that locale.
The locale is canonical and read back from its tag, so different ones have different tags; two texts
give the same one exactly when their spellings differ in case and separator only; and a text that is
refused is in the error as it was given. -/
theorem ofTag?_reads_spellings (t : String) :
    (∀ l, ofTag? t = some l ↔ Spells (Text.trimBlanks t.toList) l) ∧
    (∀ l, ofTag? t = some l → l.IsCanonical ∧ ofTag? l.tag = some l) ∧
    (∀ u l m, ofTag? t = some l → ofTag? u = some m →
      (l = m ↔ foldSpelling (Text.trimBlanks t.toList) = foldSpelling (Text.trimBlanks u.toList)) ∧
      (l.tag = m.tag ↔ l = m)) ∧
    (∀ e, Config.locale? t = .error e ↔
      (∀ l, ¬Spells (Text.trimBlanks t.toList) l) ∧ e = .invalidLocale t) := by
  refine ⟨fun l => ofTag?_eq_some_iff, fun l hl => ?_, fun u l m hl hm => ?_, fun e => ?_⟩
  · have hspells := ofTag?_eq_some_iff.mp hl
    exact ⟨hspells.isCanonical, hspells.ofTag?_tag⟩
  · have hspells := ofTag?_eq_some_iff.mp hl
    have hspells' := ofTag?_eq_some_iff.mp hm
    refine ⟨hspells.eq_iff hspells', fun htag => ?_, congrArg Locale.tag⟩
    have hback := hspells.ofTag?_tag
    rw [htag, hspells'.ofTag?_tag] at hback
    exact (Option.some.inj hback).symm
  · simp only [← ofTag?_eq_some_iff, Config.locale?]
    cases hread : ofTag? t with
    | none => simp [eq_comm]
    | some l => simp

/-- Blanks are dropped, and one separator only is read. -/
example : ofTag? " FA_ir\n" = some ⟨"fa", some "IR"⟩ ∧ ofTag? "en-US-x" = none := by
  decide +kernel

end Locale
end FieldRules
