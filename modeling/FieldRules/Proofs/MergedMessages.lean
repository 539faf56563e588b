import FieldRules.Proofs.LoadedShelf

namespace FieldRules

namespace Shelf

theorem firstText?_eq_none_iff (s : Shelf) (ls : List Locale) (key : String) :
    s.firstText? ls key = none ↔ ∀ l ∈ ls, s.text? l.tag key = none :=
  List.findSome?_eq_none_iff

section Merge

variable (s : Shelf) (m : Locale) {b : Bundle} (hb : Entries.Sorted b)
include hb

theorem text?_mergeBundle_cases (tag key : String) :
    (s.mergeBundle m b).text? tag key = s.text? tag key ∨
      tag = m.tag ∧ ∃ t, b.get? key = some t ∧ (s.mergeBundle m b).text? tag key = some t := by
  rw [text?_mergeBundle s m hb]
  by_cases htag : m.tag = tag
  · rw [if_pos htag]
    cases hkey : b.get? key with
    | none => exact .inl rfl
    | some t => exact .inr ⟨htag.symm, t, rfl, rfl⟩
  · rw [if_neg htag]
    exact .inl rfl

/-- The locales before the first that answers stay silent, and that one answers as it did or with
the new text. -/
theorem firstText?_mergeBundle (ls : List Locale) (key : String) :
    (s.mergeBundle m b).firstText? ls key = s.firstText? ls key ∨
      (∃ l ∈ ls, l.tag = m.tag) ∧
        ∃ t, b.get? key = some t ∧ (s.mergeBundle m b).firstText? ls key = some t := by
  induction ls with
  | nil => exact .inl rfl
  | cons l ls ih =>
    rw [firstText?_cons, firstText?_cons]
    rcases s.text?_mergeBundle_cases m hb l.tag key with hsame | ⟨htag, t, ht, hnew⟩
    · rw [hsame]
      cases s.text? l.tag key with
      | some u => exact .inl rfl
      | none =>
        rcases ih with hrest | ⟨⟨l', hl', htag⟩, hrest⟩
        · exact .inl hrest
        · exact .inr ⟨⟨l', List.mem_cons_of_mem l hl', htag⟩, hrest⟩
    · rw [hnew]
      exact .inr ⟨⟨l, List.mem_cons_self, htag⟩, t, ht, rfl⟩

end Merge

end Shelf

namespace Catalog

/-- The bundle of the tag is looked into for a locale. -/
def Tries (c : Catalog) (l : Locale) (tag : String) : Prop :=
  tag = l.tag ∨ tag = l.languageOnly.tag ∨ (∃ f, c.fallback = some f ∧ tag = f.tag) ∨
    tag = c.defaultLocale.tag

theorem tries_iff {c : Catalog} {l : Locale} {tag : String} :
    c.Tries l tag ↔ ∃ t ∈ c.candidates l, t.tag = tag := by
  cases hfallback : c.fallback <;>
    simp [Tries, candidates, hfallback, eq_comm]

section Merge

variable (c : Catalog) (s : Shelf) (m l : Locale) {b : Bundle}

theorem lookup_eq_none_iff (key : String) :
    (c.on s).lookup l key = none ↔ ∀ tag, c.Tries l tag → s.text? tag key = none := by
  rw [Shelf.lookup_on, Shelf.firstText?_eq_none_iff]
  constructor
  · intro h tag htag
    obtain ⟨t, ht, rfl⟩ := tries_iff.mp htag
    exact h t ht
  · intro h t ht
    exact h t.tag (tries_iff.mpr ⟨t, ht, rfl⟩)

theorem lookup_mergeBundle (hb : Entries.Sorted b) (key : String) :
    (c.on (s.mergeBundle m b)).lookup l key = (c.on s).lookup l key ∨
      c.Tries l m.tag ∧
        ∃ t, b.get? key = some t ∧ (c.on (s.mergeBundle m b)).lookup l key = some t := by
  rcases s.firstText?_mergeBundle m hb (c.candidates l) key with hsame | ⟨htried, hnew⟩
  · exact .inl hsame
  · exact .inr ⟨tries_iff.mpr htried, hnew⟩

theorem template_mergeBundle (hb : Entries.Sorted b) (kind : String) :
    (c.on (s.mergeBundle m b)).template l kind = (c.on s).template l kind ∨
      c.Tries l m.tag ∧ ∃ t, (c.on (s.mergeBundle m b)).template l kind = t ∧
        (b.get? kind = some t ∨ (c.on s).lookup l kind = none ∧ b.get? "none" = some t) := by
  rcases c.lookup_mergeBundle s m l hb kind with hsame | ⟨htried, t, ht, hnew⟩
  · cases hkind : (c.on s).lookup l kind with
    | some u =>
      left
      rw [template, template, hsame, hkind]
    | none =>
      rcases c.lookup_mergeBundle s m l hb "none" with hgeneral | ⟨htried, t, ht, hnew⟩
      · left
        rw [template, template, hsame, hkind, hgeneral]
      · refine .inr ⟨htried, t, ?_, .inr ⟨rfl, ht⟩⟩
        rw [template, hsame, hkind, hnew]
        rfl
  · refine .inr ⟨htried, t, ?_, .inl ht⟩
    rw [template, hnew]

/-- A locale's own bundle is tried first, so what is merged into it is heard. -/
theorem template_merged_own (hb : Entries.Sorted b) (htag : m.tag = l.tag) {kind t : String}
    (ht : b.get? kind = some t) : (c.on (s.mergeBundle m b)).template l kind = t := by
  have hown : (s.mergeBundle m b).text? l.tag kind = some t := by
    rw [Shelf.text?_mergeBundle s m hb, if_pos htag, ht]
    rfl
  have hcandidates : c.candidates l = l :: (c.candidates l).tail := rfl
  rw [template, Shelf.lookup_on, hcandidates, Shelf.firstText?_cons, hown]
  rfl

/-- A merge touches only what the bundle lists. Whichever catalog on the shelf it is made through,
on each of them a message changes only where the tag is tried and the bundle has the kind, or has a
general template and nothing that is tried had the kind; a label changes only where the tag is tried
and the bundle has the label. What is new comes from the bundle, and a kind that is merged into a
locale's own bundle is rendered from there. -/
theorem merge_touches_listed (hb : Entries.Sorted b) (kind field : String) (args : List String) :
    ((c.on (s.mergeBundle m b)).formatIn l kind args = (c.on s).formatIn l kind args ∨
      c.Tries l m.tag ∧ ∃ t,
        (c.on (s.mergeBundle m b)).formatIn l kind args = interpolate t args ∧
        (b.get? kind = some t ∨
          (∀ tag, c.Tries l tag → s.text? tag kind = none) ∧ b.get? "none" = some t)) ∧
    ((c.on (s.mergeBundle m b)).labelIn l field = (c.on s).labelIn l field ∨
      c.Tries l m.tag ∧
        b.label? field = some ((c.on (s.mergeBundle m b)).labelIn l field)) ∧
    (m.tag = l.tag → ∀ t, b.get? kind = some t →
      (c.on (s.mergeBundle m b)).formatIn l kind args = interpolate t args) := by
  refine ⟨?_, ?_, fun htag t ht => ?_⟩
  · rw [← lookup_eq_none_iff]
    rcases c.template_mergeBundle s m l hb kind with hsame | ⟨htried, t, hnew, ht⟩
    · left
      rw [formatIn, formatIn, hsame]
    · refine .inr ⟨htried, t, ?_, ht⟩
      rw [formatIn, hnew]
  · rcases c.lookup_mergeBundle s m l hb (Bundle.labelKey field) with
      hsame | ⟨htried, t, ht, hnew⟩
    · left
      rw [labelIn, labelIn, hsame]
    · refine .inr ⟨htried, ?_⟩
      rw [labelIn, hnew]
      exact ht
  · rw [formatIn, c.template_merged_own s m l hb htag ht]

end Merge

/-- A general template in German, and the label of a field. -/
def germanExtras : Bundle := [("attributes.age", "Alter"), ("none", "\x7b0\x7d geht nicht.")]

/-- There was no German bundle. A kind that is missing everywhere is rendered from the new general
template, for a region too; one that the fallback has stays in English. -/
theorem merge_touches_listed_of_new_language :
    Entries.Sorted germanExtras ∧
    (builtin.on (Shelf.builtin.mergeBundle ⟨"de", none⟩ germanExtras)).formatIn ⟨"de", some "AT"⟩
        "required" ["a"] = builtin.formatIn ⟨"de", some "AT"⟩ "required" ["a"] ∧
    ∃ t, (builtin.on (Shelf.builtin.mergeBundle ⟨"de", none⟩ germanExtras)).formatIn
        ⟨"de", some "AT"⟩ "string.unknown" ["a"] = interpolate t ["a"] ∧
      germanExtras.get? "none" = some t := by
  have hb : Entries.Sorted germanExtras := by
    unfold Entries.Sorted
    decide
  have hmerge (kind : String) := merge_touches_listed builtin Shelf.builtin ⟨"de", none⟩
    ⟨"de", some "AT"⟩ hb kind "age" ["a"]
  refine ⟨hb, ?_, ?_⟩
  · rcases (hmerge "required").1 with hsame | ⟨-, t, -, hnew | ⟨hnone, -⟩⟩
    · exact hsame
    · exact absurd hnew (by simp [germanExtras, Entries.get?])
    · have henglish := hnone "en" (.inr (.inr (.inl ⟨Locale.en, rfl, rfl⟩)))
      exact absurd henglish (by decide +kernel)
  · rcases (hmerge "string.unknown").1 with hsame | ⟨-, t, ht, hnew | ⟨-, hgeneral⟩⟩
    · exact absurd hsame (by decide +kernel)
    · exact absurd hnew (by simp [germanExtras, Entries.get?])
    · exact ⟨t, ht, hgeneral⟩

end Catalog
end FieldRules
