import FieldRules.Config
import FieldRules.Proofs.LoadedShelf

namespace FieldRules

namespace Shelf

/-- The text that a locale has under a key, or else its language. -/
def own? (s : Shelf) (l : Locale) (key : String) : Option String :=
  (s.text? l.tag key).or (s.text? l.languageOnly.tag key)

/-- The template of a kind when nothing stands in for the locale. -/
def ownTemplate (s : Shelf) (l : Locale) (kind : String) : String :=
  ((s.own? l kind).or (s.own? l "none")).getD Catalog.genericTemplate

/-- The English template that comes before a general one of the locale's own, or in the place of
one that the locale does not have. -/
def standIn? (s : Shelf) (l : Locale) (kind : String) : Option String :=
  (s.text? Locale.en.tag kind).or
    (if (s.own? l "none").isSome then none else s.text? Locale.en.tag "none")

end Shelf

namespace Catalog

/-- A locale, its language, the fallback and the default locale are tried in turn. -/
theorem lookup_eq (c : Catalog) (l : Locale) (key : String) :
    c.lookup l key = ((c.shelf.own? l key).or
      (c.fallback.bind fun l => c.shelf.text? l.tag key)).or
        (c.shelf.text? c.defaultLocale.tag key) := by
  have hfirst : c.lookup l key = c.shelf.firstText? (c.candidates l) key :=
    Shelf.lookup_on c _ l key
  have hnil : c.shelf.firstText? [] key = none := rfl
  cases hfallback : c.fallback <;>
    simp [hfirst, hnil, candidates, hfallback, Shelf.own?, Shelf.firstText?_cons, Option.or_assoc]

/-- With English as the fallback the default locale itself is not tried again to any effect. -/
theorem template_of_english {c : Catalog} (hfallback : c.fallback = some Locale.en)
    (kind : String) :
    c.template c.defaultLocale kind =
      ((c.shelf.own? c.defaultLocale kind).or (c.shelf.standIn? c.defaultLocale kind)).getD
        (c.shelf.ownTemplate c.defaultLocale kind) := by
  have hlookup (key : String) : c.lookup c.defaultLocale key =
      (c.shelf.own? c.defaultLocale key).or (c.shelf.text? Locale.en.tag key) := by
    rw [lookup_eq, hfallback]
    cases hown : c.shelf.text? c.defaultLocale.tag key <;> simp [Shelf.own?, hown]
  rw [template, hlookup, hlookup, Shelf.ownTemplate, Shelf.standIn?]
  cases c.shelf.own? c.defaultLocale kind with
  | some t => rfl
  | none =>
    cases c.shelf.text? Locale.en.tag kind with
    | some t => rfl
    | none => cases c.shelf.own? c.defaultLocale "none" <;> simp

end Catalog

namespace Config

variable {dirs : Directories} {c : Config} {v : Validator}

/-- Settings without a fallback leave the catalog the one that the built-in messages have. -/
theorem validator_of_no_fallback (hoff : c.fallback = none) (hv : c.validator dirs = .ok v) :
    Locale.ofTag? c.locale = some v.catalog.defaultLocale ∧
      v.catalog.fallback = some Locale.en ∧
      v.catalog.shelf = (c.loadInto dirs Shelf.builtin).shelf := by
  cases hl : Locale.ofTag? c.locale with
  | none => simp [validator, catalog, locale?, hl, bind, Except.bind] at hv
  | some l =>
    simp only [validator, catalog, locale?, hl, hoff, bind, Except.bind, pure, Except.pure] at hv
    split at hv
    · cases hv
    · split at hv
      · cases hv
        exact ⟨rfl, rfl, rfl⟩
      · cases hv

theorem loadInto_keeps {s : Shelf} {tag key : String} (h : (s.text? tag key).isSome) :
    ((c.loadInto dirs s).shelf.text? tag key).isSome := by
  unfold loadInto
  split
  · exact h
  · split
    · exact h
    · rw [Shelf.text?_load, Option.isSome_or, h, Bool.or_true]

/-- A validator without a fallback renders a kind of message from its locale and the language of
that alone exactly when one of them has a template of the kind, or the English template that stands
in for it reads the same. An English one always stands in for a locale without a general
template. -/
theorem unset_fallback_iff (hoff : c.fallback = none) (hv : c.validator dirs = .ok v)
    (kind : String) :
    let s := v.catalog.shelf
    let l := v.catalog.defaultLocale
    Locale.ofTag? c.locale = some l ∧
    (∀ args, v.catalog.format kind args =
      interpolate (((s.own? l kind).or (s.standIn? l kind)).getD (s.ownTemplate l kind)) args) ∧
    ((s.own? l "none").isNone → (s.standIn? l kind).isSome) ∧
    ((∀ args, v.catalog.format kind args = interpolate (s.ownTemplate l kind) args) ↔
      (s.own? l kind).isSome ∨ ∀ t ∈ s.standIn? l kind, ∀ args,
        interpolate t args = interpolate (s.ownTemplate l kind) args) := by
  obtain ⟨hlocale, hfallback, hshelf⟩ := validator_of_no_fallback hoff hv
  have hformat (args : List String) : v.catalog.format kind args =
      interpolate (((v.catalog.shelf.own? v.catalog.defaultLocale kind).or
        (v.catalog.shelf.standIn? v.catalog.defaultLocale kind)).getD
          (v.catalog.shelf.ownTemplate v.catalog.defaultLocale kind)) args := by
    rw [Catalog.format, Catalog.formatIn, Catalog.template_of_english hfallback]
  refine ⟨hlocale, hformat, fun hnone => ?_, ?_⟩
  · have hbuiltin : (Shelf.builtin.text? Locale.en.tag "none").isSome := by decide +kernel
    have henglish : (v.catalog.shelf.text? Locale.en.tag "none").isSome := by
      rw [hshelf]
      exact loadInto_keeps hbuiltin
    rw [Option.isNone_iff_eq_none] at hnone
    simp [Shelf.standIn?, hnone, henglish]
  · simp only [hformat]
    cases hown : v.catalog.shelf.own? v.catalog.defaultLocale kind with
    | some t => simp [Shelf.ownTemplate, hown]
    | none => cases v.catalog.shelf.standIn? v.catalog.defaultLocale kind <;> simp

/-- Settings for a locale whose only message is in the file of its language. -/
def sparse : Config := { locale := "de-AT", localesDir := some "messages", fallback := none }

def sparseMessages : Directories := fun _ =>
  some [⟨"de.json", .ok "\x7b\"present\":\"\x7b0\x7d fehlt.\"\x7d"⟩]

theorem exists_of_toOption {α β : Type} {x : Except Message.Error α} {see : α → β} {b : β}
    (h : x.toOption.map see = some b) : ∃ a, x = .ok a ∧ see a = b := by
  cases x with
  | error e => cases h
  | ok a => exact ⟨a, rfl, Option.some.inj h⟩

/-- The language has the kind, so nothing stands in. -/
theorem unset_fallback_iff_of_language : ∃ v, sparse.validator sparseMessages = .ok v ∧
    (v.catalog.shelf.own? v.catalog.defaultLocale "present").isSome ∧
    ((∀ args, v.catalog.format "present" args =
        interpolate (v.catalog.shelf.ownTemplate v.catalog.defaultLocale "present") args) ↔
      (v.catalog.shelf.own? v.catalog.defaultLocale "present").isSome ∨
        ∀ t ∈ v.catalog.shelf.standIn? v.catalog.defaultLocale "present", ∀ args,
          interpolate t args =
            interpolate (v.catalog.shelf.ownTemplate v.catalog.defaultLocale "present") args) := by
  have hrun : ((sparse.validator sparseMessages).toOption.map fun v =>
      v.catalog.shelf.own? v.catalog.defaultLocale "present") =
        some (some "\x7b0\x7d fehlt.") := by decide +kernel
  obtain ⟨v, hv, hown⟩ := exists_of_toOption hrun
  exact ⟨v, hv, by rw [hown]; rfl, (unset_fallback_iff rfl hv "present").2.2.2⟩

/-- Neither the locale nor its language has the kind or a general template, and the message is in
English. -/
theorem unset_fallback_speaks_english : ∃ v, sparse.validator sparseMessages = .ok v ∧
    v.catalog.defaultLocale = ⟨"de", some "AT"⟩ ∧
    v.catalog.shelf.own? v.catalog.defaultLocale "required" = none ∧
    v.catalog.shelf.own? v.catalog.defaultLocale "none" = none ∧
    interpolate (v.catalog.shelf.ownTemplate v.catalog.defaultLocale "required") ["a"] =
      "a is invalid." ∧
    v.catalog.format "required" ["a"] = "The a field is required." := by
  have hrun : ((sparse.validator sparseMessages).toOption.map fun v =>
      (v.catalog.defaultLocale, v.catalog.shelf.own? v.catalog.defaultLocale "required",
        v.catalog.shelf.own? v.catalog.defaultLocale "none",
        interpolate (v.catalog.shelf.ownTemplate v.catalog.defaultLocale "required") ["a"],
        v.catalog.format "required" ["a"])) =
      some (⟨"de", some "AT"⟩, none, none, "a is invalid.", "The a field is required.") := by
    decide +kernel
  obtain ⟨v, hv, hsees⟩ := exists_of_toOption hrun
  simp only [Prod.mk.injEq] at hsees
  exact ⟨v, hv, hsees⟩

end Config

end FieldRules
