import FieldRules.Message.Catalog
import FieldRules.Proofs.MessageTree

namespace FieldRules

/-- A message file: the locale that its name gives, and its bundle. -/
abbrev MessageFile := Locale × Bundle

namespace DirEntry

theorem sorted_bundle? {e : DirEntry} {f : MessageFile} (h : e.bundle? = .ok (some f)) :
    Entries.Sorted f.2 := by
  unfold bundle? at h
  split at h
  · cases h
  · split at h
    · cases h
    · obtain ⟨text, -, h⟩ := bind_ok.mp h
      obtain ⟨b, hb, h⟩ := bind_ok.mp h
      cases h
      exact Bundle.sorted_ofText hb

/-- The message files that stand before the first entry that cannot be used. -/
def filesRead : List DirEntry → List MessageFile
  | [] => []
  | e :: es => match e.bundle? with
    | .error _ => []
    | .ok none => filesRead es
    | .ok (some f) => f :: filesRead es

theorem exists_of_mem_filesRead {f : MessageFile} {es : List DirEntry} (h : f ∈ filesRead es) :
    ∃ e ∈ es, e.bundle? = .ok (some f) := by
  induction es with
  | nil => cases h
  | cons e es ih =>
    have hlater (h : f ∈ filesRead es) : ∃ d ∈ e :: es, d.bundle? = .ok (some f) := by
      obtain ⟨d, hd, hf⟩ := ih h
      exact ⟨d, List.mem_cons_of_mem e hd, hf⟩
    cases he : e.bundle? with
    | error err => simp [filesRead, he] at h
    | ok file =>
      cases file with
      | none => exact hlater (by simpa [filesRead, he] using h)
      | some g =>
        simp only [filesRead, he, List.mem_cons] at h
        rcases h with rfl | h
        · exact ⟨e, List.mem_cons_self, he⟩
        · exact hlater h

end DirEntry

/-- The text that files give for a tag under a key: the last that has one decides. -/
def given? (tag key : String) : List MessageFile → Option String
  | [] => none
  | f :: fs => (given? tag key fs).or (if f.1.tag = tag then f.2.get? key else none)

theorem given?_append (tag key : String) (fs gs : List MessageFile) :
    given? tag key (fs ++ gs) = (given? tag key gs).or (given? tag key fs) := by
  induction fs with
  | nil => simp [given?]
  | cons f fs ih => simp only [List.cons_append, given?, ih, Option.or_assoc]

theorem exists_of_given? {tag key t : String} {fs : List MessageFile}
    (h : given? tag key fs = some t) : ∃ f ∈ fs, f.1.tag = tag ∧ f.2.get? key = some t := by
  induction fs with
  | nil => cases h
  | cons f fs ih =>
    rcases Option.or_eq_some_iff.mp h with h | ⟨-, h⟩
    · obtain ⟨g, hg, hfound⟩ := ih h
      exact ⟨g, List.mem_cons_of_mem f hg, hfound⟩
    · split at h
      · rename_i htag
        exact ⟨f, List.mem_cons_self, htag, h⟩
      · cases h

namespace Shelf

/-- The text under a key in the bundle of a tag. -/
def text? (s : Shelf) (tag key : String) : Option String := (s.get? tag).bind fun b => b.get? key

/-- The first text under a key when locales are tried in turn. -/
def firstText? (s : Shelf) (ls : List Locale) (key : String) : Option String :=
  ls.findSome? fun l => s.text? l.tag key

theorem firstText?_cons (s : Shelf) (l : Locale) (ls : List Locale) (key : String) :
    s.firstText? (l :: ls) key = (s.text? l.tag key).or (s.firstText? ls key) := by
  rw [firstText?, List.findSome?_cons]
  cases s.text? l.tag key <;> rfl

theorem text?_mergeBundle (s : Shelf) (l : Locale) {b : Bundle} (hb : Entries.Sorted b)
    (tag key : String) :
    (s.mergeBundle l b).text? tag key =
      (if l.tag = tag then b.get? key else none).or (s.text? tag key) := by
  rw [text?, mergeBundle, Entries.get?_insert]
  by_cases htag : tag = l.tag
  · subst htag
    simp only [if_true, Option.bind_some, Entries.get?_merge, Entries.ofList_of_sorted hb, text?]
    cases s.get? l.tag <;> rfl
  · rw [if_neg htag, if_neg (Ne.symm htag)]
    rfl

theorem contains_mergeBundle (s : Shelf) (l : Locale) (b : Bundle) (tag : String) :
    (s.mergeBundle l b).contains tag ↔ l.tag = tag ∨ s.contains tag := by
  rw [Entries.contains, mergeBundle, Entries.get?_insert]
  by_cases htag : tag = l.tag
  · simp [htag]
  · simp [htag, Ne.symm htag, Entries.contains]

/-- Merges the bundles of files in turn. -/
def addFiles (s : Shelf) (fs : List MessageFile) : Shelf :=
  fs.foldl (fun s f => s.mergeBundle f.1 f.2) s

theorem text?_addFiles (s : Shelf) {fs : List MessageFile}
    (hfs : ∀ f ∈ fs, Entries.Sorted f.2) (tag key : String) :
    (s.addFiles fs).text? tag key = (given? tag key fs).or (s.text? tag key) := by
  induction fs generalizing s with
  | nil => rfl
  | cons f fs ih =>
    have htail := ih (s.mergeBundle f.1 f.2) fun g hg => hfs g (List.mem_cons_of_mem f hg)
    rw [text?_mergeBundle s f.1 (hfs f List.mem_cons_self), ← Option.or_assoc] at htail
    exact htail

theorem contains_addFiles (s : Shelf) (fs : List MessageFile) (tag : String) :
    (s.addFiles fs).contains tag ↔ (∃ f ∈ fs, f.1.tag = tag) ∨ s.contains tag := by
  induction fs generalizing s with
  | nil => simp [addFiles]
  | cons f fs ih =>
    have htail := ih (s.mergeBundle f.1 f.2)
    rw [contains_mergeBundle] at htail
    simpa [addFiles, or_assoc, or_left_comm] using htail

theorem load_shelf (s : Shelf) (es : List DirEntry) :
    (s.load es).shelf = s.addFiles (DirEntry.filesRead es) := by
  induction es generalizing s with
  | nil => rfl
  | cons e es ih =>
    cases he : e.bundle? with
    | error err => simp [load, DirEntry.filesRead, he, addFiles]
    | ok file =>
      cases file with
      | none => simpa [load, DirEntry.filesRead, he] using ih s
      | some f => simpa [load, DirEntry.filesRead, he, addFiles] using ih (s.mergeBundle f.1 f.2)

theorem text?_load (s : Shelf) (es : List DirEntry) (tag key : String) :
    (s.load es).shelf.text? tag key =
      (given? tag key (DirEntry.filesRead es)).or (s.text? tag key) := by
  rw [load_shelf]
  refine s.text?_addFiles (fun f hf => ?_) tag key
  obtain ⟨e, -, he⟩ := DirEntry.exists_of_mem_filesRead hf
  exact DirEntry.sorted_bundle? he

theorem contains_load (s : Shelf) (es : List DirEntry) (tag : String) :
    (s.load es).shelf.contains tag ↔
      (∃ f ∈ DirEntry.filesRead es, f.1.tag = tag) ∨ s.contains tag := by
  rw [load_shelf, contains_addFiles]

/-- Both shelves have bundles of the same tags, and the same texts in them. -/
def Alike (s t : Shelf) : Prop :=
  (∀ tag, s.contains tag = t.contains tag) ∧ ∀ tag key, s.text? tag key = t.text? tag key

/-- Every catalog gives the same answers on both shelves. -/
def AnswerAlike (s t : Shelf) : Prop :=
  ∀ (c : Catalog) (l : Locale),
    (∀ kind args, (c.on s).formatIn l kind args = (c.on t).formatIn l kind args) ∧
    (∀ field, (c.on s).labelIn l field = (c.on t).labelIn l field) ∧
    (c.on s).supports l = (c.on t).supports l

theorem lookup_on (c : Catalog) (s : Shelf) (l : Locale) (key : String) :
    (c.on s).lookup l key = s.firstText? (c.candidates l) key := rfl

theorem Alike.answerAlike {s t : Shelf} (h : Alike s t) : AnswerAlike s t := by
  intro c l
  have hlookup (key : String) : (c.on s).lookup l key = (c.on t).lookup l key := by
    simp only [lookup_on, firstText?, h.2]
  refine ⟨fun kind args => ?_, fun field => ?_, ?_⟩
  · rw [Catalog.formatIn, Catalog.formatIn, Catalog.template, Catalog.template, hlookup, hlookup]
  · rw [Catalog.labelIn, Catalog.labelIn, hlookup]
  · change (s.contains _ || s.contains _) = (t.contains _ || t.contains _)
    rw [h.1, h.1]

end Shelf
end FieldRules
