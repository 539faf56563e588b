import FieldRules.Proofs.Placeholder
import FieldRules.Proofs.Signature
import Mathlib.Data.List.Forall2

namespace FieldRules

/-- The entry has a template for failures of the signature: the kind is its key, and no index in it
is beyond the parameters. -/
def Answers (s : String × Nat) (entry : String × String) : Prop :=
  entry.1 = s.1 ∧ ∀ i ∈ Template.indices entry.2.toList, i < s.2

theorem answers_ofList {kind text : String} {n : Nat} {cs : List Char}
    (htext : text = String.ofList cs) (h : ∀ i ∈ Template.indices cs, i < n) :
    Answers (kind, n) (kind, text) := by
  rw [htext]
  exact ⟨rfl, by rwa [String.toList_ofList]⟩

namespace Builtin

theorem english_answers : List.SublistForall₂ Answers Failure.signatures english := by
  unfold Failure.signatures english
  repeat refine .cons (answers_ofList rfl (by decide +kernel)) ?_
  exact .nil

/-- The labels of three fields stand before the templates. -/
theorem persian_answers : List.SublistForall₂ Answers Failure.signatures persian := by
  unfold Failure.signatures persian
  refine .cons_right (.cons_right (.cons_right ?_))
  repeat refine .cons (answers_ofList rfl (by decide +kernel)) ?_
  exact .nil

end Builtin

theorem exists_answer {signatures : List (String × Nat)} {texts : List (String × String)}
    (h : List.SublistForall₂ Answers signatures texts) :
    ∀ s ∈ signatures, ∃ entry ∈ texts, Answers s entry := by
  induction h with
  | nil => simp
  | @cons s entry signatures texts hanswers _ ih =>
    intro s' hs'
    rcases List.mem_cons.mp hs' with rfl | hs'
    · exact ⟨entry, List.mem_cons_self, hanswers⟩
    · obtain ⟨entry', hentry', hanswers'⟩ := ih s' hs'
      exact ⟨entry', List.mem_cons_of_mem _ hentry', hanswers'⟩
  | cons_right _ ih =>
    intro s hs
    obtain ⟨entry, hentry, hanswers⟩ := ih s hs
    exact ⟨entry, List.mem_cons_of_mem _ hentry, hanswers⟩

/-- A bundle that answers every signature has a fitting template for each listed failure. -/
theorem exists_template {texts : List (String × String)} {e : Failure}
    (hkeys : (texts.map Prod.fst).Nodup)
    (h : List.SublistForall₂ Answers Failure.signatures texts) (he : e.Listed) :
    ∃ t, (Entries.ofList texts).get? e.kind = some t ∧
      ∀ i ∈ Template.indices t.toList, i < e.params.length := by
  obtain ⟨⟨kind, t⟩, hmem, hkind, hfit⟩ := exists_answer h _ he
  have hkind : kind = e.kind := hkind
  rw [hkind] at hmem
  exact ⟨t, (Entries.get?_ofList_eq_some hkeys).mpr hmem, hfit⟩

theorem Shelf.builtin_en : builtin.get? Locale.en.tag = some (Entries.ofList Builtin.english) := by
  simp [builtin, Locale.tag, Locale.en, Entries.get?_insert]

theorem Shelf.builtin_fa : builtin.get? Locale.fa.tag = some (Entries.ofList Builtin.persian) := by
  simp [builtin, Locale.tag, Locale.fa, Entries.get?_insert]

/-- The bundle of a locale in which the library speaks. -/
theorem Shelf.exists_builtin {l : Locale} {e : Failure} (hl : l = Locale.en ∨ l = Locale.fa)
    (he : e.Listed) :
    ∃ b t, builtin.get? l.tag = some b ∧ b.get? e.kind = some t ∧
      ∀ i ∈ Template.indices t.toList, i < e.params.length := by
  rcases hl with rfl | rfl
  · obtain ⟨t, ht, hfit⟩ := exists_template (by decide +kernel) Builtin.english_answers he
    exact ⟨_, t, builtin_en, ht, hfit⟩
  · obtain ⟨t, ht, hfit⟩ := exists_template (by decide +kernel) Builtin.persian_answers he
    exact ⟨_, t, builtin_fa, ht, hfit⟩

/-- The bundle of the locale itself is asked first. -/
theorem Catalog.template_of_own {c : Catalog} {l : Locale} {b : Bundle} {kind t : String}
    (hb : c.shelf.get? l.tag = some b) (ht : b.get? kind = some t) : c.template l kind = t := by
  have hlookup : c.lookup l kind = some t := by
    simp [lookup, candidates, hb, ht]
  rw [template, hlookup]

/-- Every failure of a rule has a message of its own in English and in Persian: the bundle of the
locale has a template for its kind, and the catalog uses that one. The template is a row of pieces,
and the message the same row with a parameter of the failure in the place of each placeholder. -/
theorem Registry.failure_has_own_message {now : Instant} {d : Document} {rule : String}
    {e : Failure} (h : standard.outcome now d rule = some (.error e)) {l : Locale}
    (hl : l = Locale.en ∨ l = Locale.fa) :
    let c := Catalog.builtin.withDefault l
    let args := e.params.map fun p => (p.render c).toList
    ∃ b t, Shelf.builtin.get? l.tag = some b ∧ b.get? e.kind = some t ∧
      (∀ i ∈ Template.indices t.toList, i < e.params.length) ∧
      c.template l e.kind = t ∧
      t.toList = (Template.pieces t.toList).flatMap Template.Piece.write ∧
      (e.render c).toList = (Template.pieces t.toList).flatMap (Template.Piece.fill args) := by
  intro c args
  obtain ⟨b, t, hb, ht, hfit⟩ := Shelf.exists_builtin hl (outcome_listed h)
  have htemplate : c.template l e.kind = t := Catalog.template_of_own hb ht
  refine ⟨b, t, hb, ht, hfit, htemplate, (Template.flatMap_write_pieces t.toList).symm, ?_⟩
  have hrender : e.render c = interpolate t (e.params.map (Param.render c)) := by
    rw [← htemplate]
    rfl
  rw [hrender, interpolate, String.toList_ofList, Template.interpolate_eq_fill, List.map_map]
  rfl

/-- A field that is wanted beside two others, and whose kind is put together from two words. -/
theorem Registry.failure_has_own_message_of_required_with_all :
    ∃ e, standard.outcome ⟨0, 0⟩ [("b", .text "x"), ("c", .text "y")]
        "a string requiredWith(b, c)" = some (.error e) ∧
      e.kind = "requiredWithAll" ∧
      ∃ b t, Shelf.builtin.get? Locale.fa.tag = some b ∧ b.get? e.kind = some t ∧
        (∀ i ∈ Template.indices t.toList, i < e.params.length) ∧
        (Catalog.builtin.withDefault Locale.fa).template Locale.fa e.kind = t ∧
        t.toList = (Template.pieces t.toList).flatMap Template.Piece.write ∧
        (e.render (Catalog.builtin.withDefault Locale.fa)).toList =
          (Template.pieces t.toList).flatMap (Template.Piece.fill
            (e.params.map fun p => (p.render (Catalog.builtin.withDefault Locale.fa)).toList)) := by
  have h : standard.outcome ⟨0, 0⟩ [("b", .text "x"), ("c", .text "y")]
      "a string requiredWith(b, c)" =
        some (.error ⟨"requiredWithAll", [.fields ["b", "c"], .field "a"]⟩) := rfl
  exact ⟨_, h, rfl, failure_has_own_message h (.inr rfl)⟩

end FieldRules
