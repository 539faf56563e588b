import FieldRules.Proofs.Placeholder
import FieldRules.Proofs.StandIn

namespace FieldRules

/-- Templates that read the same with any arguments are the same. -/
theorem interpolate_eq_iff {t u : String} :
    (∀ args, interpolate t args = interpolate u args) ↔ t = u := by
  have hnone (template : String) : interpolate template [] = template := by
    rw [interpolate, List.map_nil, Template.interpolate_no_args, String.ofList_toList]
  constructor
  · intro h
    have hsame := h []
    rwa [hnone, hnone] at hsame
  · rintro rfl args
    rfl

namespace Catalog

variable {c : Catalog} {l f : Locale} {kind t : String}

/-- The template that comes behind those of a locale, its language and the fallback. -/
def lastResort (c : Catalog) (l : Locale) (kind : String) : String :=
  (c.shelf.text? c.defaultLocale.tag kind).getD ((c.lookup l "none").getD genericTemplate)

theorem supports_of_own? (h : c.shelf.own? f kind = some t) : c.supports f := by
  have hcontains {tag : String} (htext : c.shelf.text? tag kind = some t) :
      c.shelf.contains tag := by
    obtain ⟨b, hb, -⟩ := Option.bind_eq_some_iff.mp htext
    rw [Entries.contains, hb]
    rfl
  rw [supports, Bool.or_eq_true]
  rcases Option.or_eq_some_iff.mp h with htag | ⟨-, hlanguage⟩
  · exact .inl (hcontains htag)
  · exact .inr (hcontains hlanguage)

theorem template_of_fallback (hfallback : c.fallback = some f)
    (hown : c.shelf.own? l kind = none) :
    c.template l kind = (c.shelf.text? f.tag kind).getD (c.lastResort l kind) := by
  rw [template, lookup_eq, hown, hfallback, Option.none_or, Option.bind_some, lastResort]
  cases c.shelf.text? f.tag kind with
  | some t => rfl
  | none => cases c.shelf.text? c.defaultLocale.tag kind <;> rfl

/-- A kind that neither a locale nor its language has is rendered from the bundle of the fallback
locale. Where only the language of the fallback has it, the fallback is supported, but its text
comes out exactly when the template behind it is the same. -/
theorem fallback_speaks_iff (hfallback : c.fallback = some f)
    (hown : c.shelf.own? l kind = none) (ht : c.shelf.own? f kind = some t) :
    c.supports f ∧
    (∀ args, c.formatIn l kind args =
      interpolate ((c.shelf.text? f.tag kind).getD (c.lastResort l kind)) args) ∧
    ((∀ args, c.formatIn l kind args = interpolate t args) ↔
      c.shelf.text? f.tag kind = some t ∨ c.lastResort l kind = t) := by
  have hformat (args : List String) : c.formatIn l kind args =
      interpolate ((c.shelf.text? f.tag kind).getD (c.lastResort l kind)) args := by
    rw [formatIn, template_of_fallback hfallback hown]
  refine ⟨supports_of_own? ht, hformat, ?_⟩
  simp only [hformat, interpolate_eq_iff]
  rcases Option.or_eq_some_iff.mp ht with htag | ⟨hnone, -⟩
  · simp [htag]
  · simp [hnone]

/-- English messages, to which a catalog of Persian ones falls back by a region. -/
def regional : Catalog where
  shelf := [("en", [("required", "\x7b0\x7d is required.")])]
  defaultLocale := Locale.fa
  fallback := some ⟨"en", some "US"⟩

theorem fallback_speaks_iff_of_region :
    regional.shelf.own? ⟨"de", none⟩ "required" = none ∧
    regional.shelf.own? ⟨"en", some "US"⟩ "required" = some "\x7b0\x7d is required." ∧
    ((∀ args, regional.formatIn ⟨"de", none⟩ "required" args =
        interpolate "\x7b0\x7d is required." args) ↔
      regional.shelf.text? "en-US" "required" = some "\x7b0\x7d is required." ∨
        regional.lastResort ⟨"de", none⟩ "required" = "\x7b0\x7d is required.") := by
  have hown : regional.shelf.own? ⟨"de", none⟩ "required" = none := by decide
  have ht : regional.shelf.own? ⟨"en", some "US"⟩ "required" = some "\x7b0\x7d is required." := by
    decide
  exact ⟨hown, ht, (fallback_speaks_iff rfl hown ht).2.2⟩

/-- The fallback is supported, and its language has the kind, but the generic template is taken. -/
theorem fallback_language_unheard :
    regional.fallback = some ⟨"en", some "US"⟩ ∧
    regional.supports ⟨"en", some "US"⟩ ∧
    regional.shelf.own? ⟨"de", none⟩ "required" = none ∧
    regional.shelf.own? ⟨"en", some "US"⟩ "required" = some "\x7b0\x7d is required." ∧
    interpolate "\x7b0\x7d is required." ["a"] = "a is required." ∧
    regional.formatIn ⟨"de", none⟩ "required" ["a"] = "a is invalid." := by
  decide +kernel

end Catalog
end FieldRules
