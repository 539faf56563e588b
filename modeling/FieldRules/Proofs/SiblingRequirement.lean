import FieldRules.Proofs.VerbEffect
import Mathlib.Tactic.Tauto

namespace FieldRules.SharedVerb

/-- The verb passes on the field, with the arguments. -/
def Passes (v : SharedVerb) (now : Instant) (d : Document) (f : Field) (args : List String) :
    Prop :=
  ∃ g, v.run now d (f.begin v.name args) = .ok g

variable (now : Instant) (d : Document) (f : Field)

/-- Whether the field is missing is a matter of its name and of null being allowed. -/
theorem isMissing_begin (verb : String) (args : List String) :
    isMissing d (f.begin verb args) = isMissing d f := rfl

theorem required_passes_iff (args : List String) :
    required.Passes now d f args ↔ isMissing d f = false := by
  simp only [Passes, run, Field.exists_verify_ok_iff, isMissing_begin, Bool.not_eq_true']

theorem requiredWith_passes_iff {names : List String} (hnames : names ≠ []) :
    requiredWith.Passes now d f names ↔
      (∃ name ∈ names, isFilled d name = false) ∨ isMissing d f = false := by
  have hargs : (f.begin requiredWith.name names).args ≠ [] := hnames
  simp only [Passes, run, if_neg hargs, Field.exists_verify_ok_iff, isMissing_begin, Bool.not_and,
    Bool.or_eq_true, Bool.not_eq_true', List.all_eq_false, Bool.not_eq_true]
  rfl

theorem requiredWithout_passes_iff {names : List String} (hnames : names ≠ []) :
    requiredWithout.Passes now d f names ↔
      (∀ name ∈ names, isFilled d name = true) ∨ isMissing d f = false := by
  have hargs : (f.begin requiredWithout.name names).args ≠ [] := hnames
  simp only [Passes, run, if_neg hargs, Field.exists_verify_ok_iff, isMissing_begin, Bool.not_and,
    Bool.or_eq_true, Bool.not_eq_true', List.any_eq_false, Bool.not_eq_false]
  rfl

theorem ne_nil_of_subset {names more : List String} (hnames : names ≠ []) (hmore : names ⊆ more) :
    more ≠ [] := by
  rintro rfl
  exact hnames (List.subset_nil.mp hmore)

/-- More names can only help `requiredWith`. -/
theorem requiredWith_passes_mono {names more : List String} (hnames : names ≠ [])
    (hmore : names ⊆ more) (h : requiredWith.Passes now d f names) :
    requiredWith.Passes now d f more := by
  have hne : more ≠ [] := ne_nil_of_subset hnames hmore
  rw [requiredWith_passes_iff now d f hnames] at h
  rw [requiredWith_passes_iff now d f hne]
  exact h.imp_left fun ⟨name, hname, hempty⟩ => ⟨name, hmore hname, hempty⟩

/-- More names can only hurt `requiredWithout`. -/
theorem requiredWithout_passes_anti {names more : List String} (hnames : names ≠ [])
    (hmore : names ⊆ more) (h : requiredWithout.Passes now d f more) :
    requiredWithout.Passes now d f names := by
  have hne : more ≠ [] := ne_nil_of_subset hnames hmore
  rw [requiredWithout_passes_iff now d f hne] at h
  rw [requiredWithout_passes_iff now d f hnames]
  exact h.imp_left fun hfilled name hname => hfilled name (hmore hname)

/-- On every document and field, and for every list of other fields that is not empty: one of the
two conditional requirements passes, both pass exactly when `required` does, the same names in
another order or number change neither, and more names can make only `requiredWith` pass and only
`requiredWithout` fail. -/
theorem conditional_requirements_consistent {names : List String} (hnames : names ≠ []) :
    (requiredWith.Passes now d f names ∨ requiredWithout.Passes now d f names) ∧
    (requiredWith.Passes now d f names ∧ requiredWithout.Passes now d f names ↔
      required.Passes now d f []) ∧
    (∀ same : List String, (∀ name, name ∈ same ↔ name ∈ names) →
      (requiredWith.Passes now d f same ↔ requiredWith.Passes now d f names) ∧
      (requiredWithout.Passes now d f same ↔ requiredWithout.Passes now d f names)) ∧
    (∀ more : List String, names ⊆ more →
      (requiredWith.Passes now d f names → requiredWith.Passes now d f more) ∧
      (requiredWithout.Passes now d f more → requiredWithout.Passes now d f names)) := by
  have hwith := requiredWith_passes_iff now d f hnames
  have hwithout := requiredWithout_passes_iff now d f hnames
  have hsome : (∃ name ∈ names, isFilled d name = false) ↔
      ¬∀ name ∈ names, isFilled d name = true := by
    simp
  refine ⟨?_, ?_, ?_, ?_⟩
  · rw [hwith, hwithout, hsome]
    tauto
  · rw [hwith, hwithout, required_passes_iff, hsome]
    tauto
  · intro same hsame
    have hforth : names ⊆ same := fun name => (hsame name).mpr
    have hback : same ⊆ names := fun name => (hsame name).mp
    have hne : same ≠ [] := ne_nil_of_subset hnames hforth
    exact ⟨⟨requiredWith_passes_mono now d f hne hback,
        requiredWith_passes_mono now d f hnames hforth⟩,
      ⟨requiredWithout_passes_anti now d f hnames hforth,
        requiredWithout_passes_anti now d f hne hback⟩⟩
  · intro more hmore
    exact ⟨requiredWith_passes_mono now d f hnames hmore,
      requiredWithout_passes_anti now d f hnames hmore⟩

/-- A field that is null, where null is not allowed, with a filled and an empty field beside it, and
then with itself as a third. -/
theorem conditional_requirements_consistent_of_null :
    let d : Document := [("a", .null), ("b", .text "x"), ("c", .text "")]
    let f : Field := { name := "a", value := some .null }
    ["b", "c"] ≠ [] ∧ requiredWith.Passes ⟨0, 0⟩ d f ["b", "c"] ∧
      ¬requiredWithout.Passes ⟨0, 0⟩ d f ["b", "c"] ∧ ¬required.Passes ⟨0, 0⟩ d f [] ∧
      requiredWith.Passes ⟨0, 0⟩ d f ["c", "b", "b"] ∧
      ¬requiredWithout.Passes ⟨0, 0⟩ d f ["a", "b", "c"] := by
  intro d f
  have hnames : ["b", "c"] ≠ [] := by decide
  obtain ⟨hone, hboth, hsame, hmore⟩ := conditional_requirements_consistent ⟨0, 0⟩ d f hnames
  have hwithout : ¬requiredWithout.Passes ⟨0, 0⟩ d f ["b", "c"] := by
    rw [requiredWithout_passes_iff ⟨0, 0⟩ d f hnames]
    decide
  have hwith : requiredWith.Passes ⟨0, 0⟩ d f ["b", "c"] := hone.resolve_right hwithout
  refine ⟨hnames, hwith, hwithout, fun h => hwithout (hboth.mpr h).2, ?_, fun h => hwithout ?_⟩
  · exact (hsame ["c", "b", "b"] (by grind)).1.mpr hwith
  · exact (hmore ["a", "b", "c"] (by decide)).2 h

end FieldRules.SharedVerb
