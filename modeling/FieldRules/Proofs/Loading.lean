import FieldRules.Proofs.LoadedShelf

namespace FieldRules

/-- Two of the files that are of one locale never give a key different texts. -/
def Agreeing (fs : List MessageFile) : Prop :=
  ∀ f ∈ fs, ∀ g ∈ fs, f.1.tag = g.1.tag →
    ∀ key t u, f.2.get? key = some t → g.2.get? key = some u → t = u

theorem agreeing_of_nodup {fs : List MessageFile} (h : (fs.map fun f => f.1.tag).Nodup) :
    Agreeing fs := by
  intro f hf g hg htag key t u ht hu
  have hfg : f = g := List.inj_on_of_nodup_map h hf hg htag
  rw [hfg, hu] at ht
  exact (Option.some.inj ht).symm

theorem given?_isSome {f : MessageFile} {fs : List MessageFile} {key : String} (hf : f ∈ fs)
    (hkey : (f.2.get? key).isSome) : (given? f.1.tag key fs).isSome := by
  induction fs with
  | nil => cases hf
  | cons g fs ih =>
    rw [given?, Option.isSome_or, Bool.or_eq_true]
    rcases List.mem_cons.mp hf with rfl | hf
    · right
      rwa [if_pos rfl]
    · exact .inl (ih hf)

theorem Agreeing.given?_eq_some {fs : List MessageFile} (h : Agreeing fs) {tag key t : String} :
    given? tag key fs = some t ↔ ∃ f ∈ fs, f.1.tag = tag ∧ f.2.get? key = some t := by
  refine ⟨exists_of_given?, ?_⟩
  rintro ⟨f, hf, rfl, ht⟩
  have hgiven : (given? f.1.tag key fs).isSome := given?_isSome hf (by simp [ht])
  obtain ⟨u, hu⟩ := Option.isSome_iff_exists.mp hgiven
  obtain ⟨g, hg, htag, hgu⟩ := exists_of_given? hu
  rw [hu, h f hf g hg htag.symm key t u ht hgu]

theorem Agreeing.perm {fs gs : List MessageFile} (h : Agreeing fs) (hp : fs.Perm gs) :
    Agreeing gs :=
  fun f hf g hg => h f (hp.mem_iff.mpr hf) g (hp.mem_iff.mpr hg)

theorem Agreeing.given?_perm {fs gs : List MessageFile} (h : Agreeing fs) (hp : fs.Perm gs)
    (tag key : String) : given? tag key fs = given? tag key gs := by
  apply Option.ext
  intro t
  rw [h.given?_eq_some, (h.perm hp).given?_eq_some]
  simp only [hp.mem_iff]

namespace DirEntry

/-- The entry does not end a load: it is a message file that can be read, or none at all. -/
def Usable (e : DirEntry) : Prop := ∃ file, e.bundle? = .ok file

/-- The message file that a usable entry is. -/
def file? (e : DirEntry) : Option MessageFile := e.bundle?.toOption.join

theorem filesRead_eq {es : List DirEntry} (h : ∀ e ∈ es, e.Usable) :
    filesRead es = es.filterMap file? := by
  induction es with
  | nil => rfl
  | cons e es ih =>
    obtain ⟨file, he⟩ := h e List.mem_cons_self
    have htail := ih fun d hd => h d (List.mem_cons_of_mem e hd)
    cases file with
    | none => simp [filesRead, he, file?, Except.toOption, htail]
    | some f => simp [filesRead, he, file?, Except.toOption, htail]

theorem filesRead_perm {xs ys : List DirEntry} (h : ∀ e ∈ xs, e.Usable) (hp : xs.Perm ys) :
    (filesRead xs).Perm (filesRead ys) := by
  rw [filesRead_eq h, filesRead_eq fun e he => h e (hp.mem_iff.mpr he)]
  exact hp.filterMap file?

theorem filesRead_concat {es : List DirEntry} {e : DirEntry} {f : MessageFile}
    (h : ∀ d ∈ es, d.Usable) (he : e.bundle? = .ok (some f)) :
    filesRead (es ++ [e]) = filesRead es ++ [f] := by
  have hall : ∀ d ∈ es ++ [e], d.Usable := by
    intro d hd
    rcases List.mem_append.mp hd with hd | hd
    · exact h d hd
    · rw [List.mem_singleton.mp hd]
      exact ⟨some f, he⟩
  rw [filesRead_eq hall, filesRead_eq h, List.filterMap_append]
  simp [file?, he, Except.toOption]

end DirEntry

namespace Shelf

theorem load_error_eq_none (s : Shelf) (es : List DirEntry) :
    (s.load es).error = none ↔ ∀ e ∈ es, e.Usable := by
  induction es generalizing s with
  | nil => simp [load]
  | cons e es ih =>
    cases he : e.bundle? with
    | error err => simp [load, he, DirEntry.Usable]
    | ok file =>
      have husable : e.Usable := ⟨file, he⟩
      cases file with
      | none => simp [load, he, ih, husable]
      | some f => simp [load, he, ih, husable]

/-- A load that fails is the load of the entries before the first one that cannot be used. -/
theorem exists_split_of_load_error {s : Shelf} {es : List DirEntry} {err : Message.Error}
    (h : (s.load es).error = some err) :
    ∃ before bad after, es = before ++ bad :: after ∧ bad.bundle? = .error err ∧
      (s.load before).error = none ∧ (s.load es).shelf = (s.load before).shelf := by
  induction es generalizing s with
  | nil => cases h
  | cons e es ih =>
    cases he : e.bundle? with
    | error err' =>
      have herr : err' = err := by simpa [load, he] using h
      subst herr
      exact ⟨[], e, es, rfl, he, rfl, by simp [load, he]⟩
    | ok file =>
      cases file with
      | none =>
        obtain ⟨before, bad, after, rfl, hbad, hnone, hshelf⟩ := ih (by simpa [load, he] using h)
        exact ⟨e :: before, bad, after, rfl, hbad, by simpa [load, he] using hnone,
          by simpa [load, he] using hshelf⟩
      | some f =>
        obtain ⟨before, bad, after, rfl, hbad, hnone, hshelf⟩ := ih (by simpa [load, he] using h)
        exact ⟨e :: before, bad, after, rfl, hbad, by simpa [load, he] using hnone,
          by simpa [load, he] using hshelf⟩

/-- Nothing is changed by files that have nothing new to say. -/
theorem alike_load_iff (s : Shelf) (es : List DirEntry) :
    Alike (s.load es).shelf s ↔ ∀ f ∈ DirEntry.filesRead es, s.contains f.1.tag ∧
      ∀ key t, given? f.1.tag key (DirEntry.filesRead es) = some t →
        s.text? f.1.tag key = some t := by
  constructor
  · intro h f hf
    refine ⟨?_, fun key t ht => ?_⟩
    · rw [← h.1, contains_load]
      exact .inl ⟨f, hf, rfl⟩
    · rw [← h.2, text?_load, ht]
      rfl
  · intro h
    refine ⟨fun tag => ?_, fun tag key => ?_⟩
    · rw [Bool.eq_iff_iff, contains_load]
      refine ⟨?_, .inr⟩
      rintro (⟨f, hf, rfl⟩ | hs)
      · exact (h f hf).1
      · exact hs
    · rw [text?_load]
      cases ht : given? tag key (DirEntry.filesRead es) with
      | none => rfl
      | some t =>
        obtain ⟨f, hf, rfl, -⟩ := exists_of_given? ht
        rw [(h f hf).2 key t ht]
        rfl

/-- A load goes unseen on every shelf only if it reads no message file. -/
theorem answerAlike_load_iff (es : List DirEntry) :
    (∀ s : Shelf, AnswerAlike (s.load es).shelf s) ↔ DirEntry.filesRead es = [] := by
  constructor
  · intro h
    by_contra hne
    obtain ⟨f, hf⟩ := List.exists_mem_of_ne_nil _ hne
    have hsupports : ((Shelf.load [] es).shelf.contains f.1.tag ||
        (Shelf.load [] es).shelf.contains f.1.languageOnly.tag) = false := (h [] {} f.1).2.2
    rw [(contains_load [] es f.1.tag).mpr (.inl ⟨f, hf, rfl⟩)] at hsupports
    cases hsupports
  · intro h s
    rw [load_shelf, h]
    exact fun c l => ⟨fun _ _ => rfl, fun _ => rfl, rfl⟩

/-- A load that fails leaves the files before the first bad entry merged, and nothing else. No text
and no tag is new then exactly when the shelf had all that those files give; and the load goes
unseen whatever the shelf holds exactly when no message file stands before the bad entry. -/
theorem failed_load_keeps_iff {s : Shelf} {es : List DirEntry} {err : Message.Error}
    (h : (s.load es).error = some err) :
    (∃ before bad after, es = before ++ bad :: after ∧ bad.bundle? = .error err ∧
      (s.load before).error = none ∧ (s.load es).shelf = (s.load before).shelf) ∧
    (Alike (s.load es).shelf s → AnswerAlike (s.load es).shelf s) ∧
    (Alike (s.load es).shelf s ↔ ∀ f ∈ DirEntry.filesRead es, s.contains f.1.tag ∧
      ∀ key t, given? f.1.tag key (DirEntry.filesRead es) = some t →
        s.text? f.1.tag key = some t) ∧
    ((∀ t : Shelf, AnswerAlike (t.load es).shelf t) ↔ DirEntry.filesRead es = []) :=
  ⟨exists_split_of_load_error h, Alike.answerAlike, s.alike_load_iff es,
    answerAlike_load_iff es⟩

/-- A good file, and after it one whose name is no locale. -/
def halfGood : List DirEntry :=
  [⟨"de.json", .ok "\x7b\"required\":\"\x7b0\x7d fehlt.\"\x7d"⟩, ⟨"english.json", .ok "\x7b\x7d"⟩]

/-- The good file has been read, so the load is seen on some shelf. -/
theorem failed_load_keeps_iff_of_half_good : ∃ err,
    (Shelf.builtin.load halfGood).error = some err ∧ DirEntry.filesRead halfGood ≠ [] ∧
    ¬∀ t : Shelf, AnswerAlike (t.load halfGood).shelf t := by
  have hfails : (Shelf.builtin.load halfGood).error.isSome = true := by decide +kernel
  have hread : (DirEntry.filesRead halfGood).isEmpty = false := by decide +kernel
  obtain ⟨err, herr⟩ := Option.isSome_iff_exists.mp hfails
  have hne : DirEntry.filesRead halfGood ≠ [] := by
    intro hnil
    rw [hnil] at hread
    cases hread
  exact ⟨err, herr, hne, fun hall => hne ((failed_load_keeps_iff herr).2.2.2.mp hall)⟩

/-- A catalog on the shelf speaks German after a load that failed, and did not before. -/
theorem failed_load_shows : ∃ err, (Shelf.builtin.load halfGood).error = some err ∧
    Catalog.builtin.supports ⟨"de", none⟩ = false ∧
    (Catalog.builtin.on (Shelf.builtin.load halfGood).shelf).supports ⟨"de", none⟩ = true ∧
    Catalog.builtin.formatIn ⟨"de", none⟩ "required" ["a"] = "The a field is required." ∧
    (Catalog.builtin.on (Shelf.builtin.load halfGood).shelf).formatIn ⟨"de", none⟩ "required"
      ["a"] = "a fehlt." := by
  have hfails : (Shelf.builtin.load halfGood).error.isSome = true := by decide +kernel
  obtain ⟨err, herr⟩ := Option.isSome_iff_exists.mp hfails
  exact ⟨err, herr, by decide +kernel⟩

theorem text?_load_concat (s : Shelf) {es : List DirEntry} {e : DirEntry} {f : MessageFile}
    {key t : String} (h : ∀ d ∈ es, d.Usable) (he : e.bundle? = .ok (some f))
    (ht : f.2.get? key = some t) : (s.load (es ++ [e])).shelf.text? f.1.tag key = some t := by
  rw [text?_load, DirEntry.filesRead_concat h he, given?_append]
  simp [given?, ht]

/-- Any entry can be listed last. -/
theorem exists_perm_concat {es : List DirEntry} {e : DirEntry} (h : e ∈ es) :
    ∃ ds, es.Perm (ds ++ [e]) := by
  obtain ⟨xs, ys, rfl⟩ := List.append_of_mem h
  exact ⟨xs ++ ys, List.perm_middle.trans (List.perm_append_singleton e (xs ++ ys)).symm⟩

/-- The order in which a directory lists its files does not show in what catalogs answer as long as
no two files of one locale give a key different texts. If two do, then some order leaves another
text under the key. -/
theorem load_order_iff (s : Shelf) {xs : List DirEntry} (hvalid : ∀ e ∈ xs, e.Usable) :
    (∀ ys, xs.Perm ys → (s.load ys).error = none) ∧
    (Agreeing (DirEntry.filesRead xs) → ∀ ys, xs.Perm ys →
      AnswerAlike (s.load xs).shelf (s.load ys).shelf) ∧
    ((∀ ys, xs.Perm ys → Alike (s.load xs).shelf (s.load ys).shelf) ↔
      Agreeing (DirEntry.filesRead xs)) := by
  have hvalid' {ys : List DirEntry} (hp : xs.Perm ys) : ∀ e ∈ ys, e.Usable :=
    fun e he => hvalid e (hp.mem_iff.mpr he)
  have halike (hagree : Agreeing (DirEntry.filesRead xs)) (ys : List DirEntry)
      (hp : xs.Perm ys) : Alike (s.load xs).shelf (s.load ys).shelf := by
    have hfiles := DirEntry.filesRead_perm hvalid hp
    refine ⟨fun tag => ?_, fun tag key => ?_⟩
    · rw [Bool.eq_iff_iff, contains_load, contains_load]
      simp only [hfiles.mem_iff]
    · rw [text?_load, text?_load, hagree.given?_perm hfiles]
  refine ⟨fun ys hp => (load_error_eq_none s ys).mpr (hvalid' hp),
    fun hagree ys hp => (halike hagree ys hp).answerAlike, ?_, halike⟩
  intro h f hf g hg htag key t u ht hu
  -- Each of the two files comes last in some order, and has its text there.
  have hlast {f : MessageFile} {t : String} (hf : f ∈ DirEntry.filesRead xs)
      (ht : f.2.get? key = some t) : (s.load xs).shelf.text? f.1.tag key = some t := by
    obtain ⟨e, he, hbundle⟩ := DirEntry.exists_of_mem_filesRead hf
    obtain ⟨ds, hp⟩ := exists_perm_concat he
    rw [(h _ hp).2]
    exact s.text?_load_concat (fun d hd => hvalid' hp d (List.mem_append_left _ hd)) hbundle ht
  have htu : some t = some u := by rw [← hlast hf ht, htag, hlast hg hu]
  exact Option.some.inj htu

/-- Files of a language and of a region of it, which have a key in common. -/
def twoLocales : List DirEntry :=
  [⟨"de.json",
      .ok "\x7b\"required\":\"\x7b0\x7d fehlt.\",\"same\":\"\x7b0\x7d und \x7b1\x7d\"\x7d"⟩,
    ⟨"de_AT.json", .ok "\x7b\"required\":\"\x7b0\x7d ist leer.\"\x7d"⟩]

theorem load_order_iff_of_two_locales : (∀ e ∈ twoLocales, e.Usable) ∧
    Agreeing (DirEntry.filesRead twoLocales) ∧
    AnswerAlike (Shelf.builtin.load twoLocales).shelf
      (Shelf.builtin.load twoLocales.reverse).shelf := by
  have hload : (Shelf.builtin.load twoLocales).error.isNone = true := by decide +kernel
  have hvalid : ∀ e ∈ twoLocales, e.Usable :=
    (load_error_eq_none Shelf.builtin twoLocales).mp (Option.isNone_iff_eq_none.mp hload)
  have hagree : Agreeing (DirEntry.filesRead twoLocales) :=
    agreeing_of_nodup (by decide +kernel)
  exact ⟨hvalid, hagree,
    (load_order_iff Shelf.builtin hvalid).2.1 hagree _ (List.reverse_perm twoLocales).symm⟩

/-- Two names of one locale, whose files give a key different texts. -/
def twoNames : List DirEntry :=
  [⟨"DE.json", .ok "\x7b\"required\":\"eins\"\x7d"⟩,
    ⟨"de.json", .ok "\x7b\"required\":\"zwei\"\x7d"⟩]

/-- Both orders of the two files load, and the message is that of the file listed last. -/
theorem load_order_shows : (twoNames.map DirEntry.name).Nodup ∧
    twoNames.Perm twoNames.reverse ∧
    (Shelf.builtin.load twoNames).error.isNone = true ∧
    (Shelf.builtin.load twoNames.reverse).error.isNone = true ∧
    (Catalog.builtin.on (Shelf.builtin.load twoNames).shelf).formatIn ⟨"de", none⟩ "required"
      ["a"] = "zwei" ∧
    (Catalog.builtin.on (Shelf.builtin.load twoNames.reverse).shelf).formatIn ⟨"de", none⟩
      "required" ["a"] = "eins" :=
  ⟨by decide, (List.reverse_perm twoNames).symm, by decide +kernel⟩

end Shelf
end FieldRules
