import FieldRules.Proofs.Entries
import FieldRules.Proofs.VerbEffect

namespace FieldRules

namespace VerbTable

/-- The table of the verbs `vs`, each under its name. -/
def ofVerbs {ι : Type} (name : ι → String) (entry : ι → TableEntry) (vs : List ι) : VerbTable :=
  Entries.ofList (vs.map fun v => (name v, entry v))

theorem get?_ofVerbs {ι : Type} {name : ι → String} {entry : ι → TableEntry} {vs : List ι}
    {k : String} {e : TableEntry} (hn : (vs.map name).Nodup) :
    (ofVerbs name entry vs).get? k = some e ↔ ∃ v ∈ vs, name v = k ∧ entry v = e := by
  have hkeys : ((vs.map fun v => (name v, entry v)).map Prod.fst).Nodup := by
    rw [List.map_map]
    exact hn
  rw [ofVerbs, Entries.get?_ofList_eq_some hkeys, List.mem_map]
  simp only [Prod.mk.injEq]

theorem verb?_ofVerbs {ι : Type} {name : ι → String} {entry : ι → TableEntry} {vs : List ι}
    {k : String} {run : Handler} (hn : (vs.map name).Nodup) (hall : ∀ v, v ∈ vs) :
    (ofVerbs name entry vs).verb? k = some run ↔ ∃ v, name v = k ∧ (entry v).run = run := by
  rw [verb?, Option.map_eq_some_iff]
  constructor
  · rintro ⟨e, he, rfl⟩
    obtain ⟨v, _, hname, rfl⟩ := (get?_ofVerbs hn).mp he
    exact ⟨v, hname, rfl⟩
  · rintro ⟨v, hname, rfl⟩
    exact ⟨entry v, (get?_ofVerbs hn).mpr ⟨v, hall v, hname, rfl⟩, rfl⟩

theorem ofVerbs_eq_foldl {ι : Type} (name : ι → String) (entry : ι → TableEntry) (vs : List ι) :
    ofVerbs name entry vs = vs.foldl (fun t v => Entries.insert (name v) (entry v) t) [] :=
  List.foldl_map

end VerbTable

namespace Registry

theorem shared_standard :
    standard.shared = VerbTable.ofVerbs SharedVerb.name (⟨·.run, false⟩) SharedVerb.all :=
  (VerbTable.ofVerbs_eq_foldl _ _ _).symm

theorem textTable_eq :
    standard.typed .string =
      VerbTable.ofVerbs TextVerb.name (fun v => ⟨v.run, v.readsDocument⟩) TextVerb.all := by
  rw [VerbTable.ofVerbs_eq_foldl]
  simp only [standard, textTable]
  congr 1
  funext t v
  cases v.readsDocument <;> simp [VerbTable.register, VerbTable.registerEager]

theorem numberTable_eq :
    standard.typed .number =
      VerbTable.ofVerbs NumberVerb.name (⟨·.run, false⟩) NumberVerb.all :=
  (VerbTable.ofVerbs_eq_foldl _ _ _).symm

theorem dateTable_eq :
    standard.typed .date = VerbTable.ofVerbs DateVerb.name (⟨·.run, false⟩) DateVerb.all :=
  (VerbTable.ofVerbs_eq_foldl _ _ _).symm

theorem shared?_standard {name : String} {run : Handler} :
    standard.shared? name = some run ↔ ∃ v : SharedVerb, v.name = name ∧ v.run = run := by
  rw [shared?, shared_standard]
  exact VerbTable.verb?_ofVerbs (by decide) fun v => by cases v <;> decide

theorem typed?_string {name : String} {run : Handler} :
    standard.typed? .string name = some run ↔ ∃ v : TextVerb, v.name = name ∧ v.run = run := by
  rw [typed?, textTable_eq]
  exact VerbTable.verb?_ofVerbs (by decide) fun v => by cases v <;> decide

theorem typed?_number {name : String} {run : Handler} :
    standard.typed? .number name = some run ↔ ∃ v : NumberVerb, v.name = name ∧ v.run = run := by
  rw [typed?, numberTable_eq]
  exact VerbTable.verb?_ofVerbs (by decide) fun v => by cases v <;> decide

theorem typed?_date {name : String} {run : Handler} :
    standard.typed? .date name = some run ↔ ∃ v : DateVerb, v.name = name ∧ v.run = run := by
  rw [typed?, dateTable_eq]
  exact VerbTable.verb?_ofVerbs (by decide) fun v => by cases v <;> decide

end Registry

/-- No verb of the registry that passes changes what is seen of the field. -/
def Registry.Keeps {β : Type} (r : Registry) (see : Field → β) : Prop :=
  ∀ name run, (r.shared? name = some run ∨ ∃ type, r.typed? type name = some run) →
    ∀ now d f g, run now d f = .ok g → see g = see f

/-- The verbs of the standard registry change the value and the flags of a field at most. -/
theorem Registry.standard_keeps {β : Type} (see : Field → β)
    (hnullable : ∀ f b, see { f with nullable := b } = see f)
    (hvalue : ∀ f v, see { f with value := v } = see f)
    (hendless : ∀ f b, see { f with endless := b } = see f) : standard.Keeps see := by
  rintro name run (h | ⟨type, h⟩) now d f g hrun
  · obtain ⟨v, -, rfl⟩ := shared?_standard.mp h
    rcases SharedVerb.run_ok hrun with rfl | rfl
    · rfl
    · exact hnullable f true
  · cases type with
    | string =>
      obtain ⟨v, -, rfl⟩ := typed?_string.mp h
      rw [TextVerb.run_ok hrun]
    | number =>
      obtain ⟨v, -, rfl⟩ := typed?_number.mp h
      rcases NumberVerb.run_ok hrun with rfl | ⟨-, n, rfl⟩ | ⟨-, -, rfl⟩
      · rfl
      · exact hvalue f _
      · exact hendless f true
    | date =>
      obtain ⟨v, -, rfl⟩ := typed?_date.mp h
      rw [DateVerb.run_ok hrun]
    | _ => cases h

theorem Registry.standard_keeps_name : standard.Keeps Field.name :=
  standard_keeps _ (fun _ _ => rfl) (fun _ _ => rfl) fun _ _ => rfl

theorem Registry.standard_keeps_type : standard.Keeps Field.type :=
  standard_keeps _ (fun _ _ => rfl) (fun _ _ => rfl) fun _ _ => rfl

theorem Registry.standard_keeps_failure : standard.Keeps Field.failure :=
  standard_keeps _ (fun _ _ => rfl) (fun _ _ => rfl) fun _ _ => rfl

/-- The verbs of every type all come to their ends. -/
def Registry.SharedEnd (r : Registry) : Prop :=
  ∀ name run, r.shared? name = some run →
    ∀ now d f g, run now d f = .ok g → g.endless = f.endless

theorem Registry.standard_sharedEnd : standard.SharedEnd := by
  intro name run hrun now d f g h
  obtain ⟨v, -, rfl⟩ := shared?_standard.mp hrun
  rcases SharedVerb.run_ok h with rfl | rfl <;> rfl

end FieldRules
