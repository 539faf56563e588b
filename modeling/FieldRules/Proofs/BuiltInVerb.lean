import FieldRules.Proofs.StandardTables

namespace FieldRules

/-- The handler comes to the same whatever the value of the field is, and passes the value on. -/
def Handler.IgnoresValue (run : Handler) : Prop :=
  ∀ now d f v, run now d { f with value := v } =
    (run now d f).map fun g => { g with value := v }

theorem Field.verify_value (f : Field) (v : Option Value) (ok : Bool) (e : Failure) :
    Field.verify { f with value := v } ok e =
      (f.verify ok e).map fun g => { g with value := v } := by
  cases ok <;> rfl

inductive Verb where
  | shared (v : SharedVerb)
  | text (v : TextVerb)
  | number (v : NumberVerb)
  | date (v : DateVerb)

namespace Verb

def name : Verb → String
  | shared v => v.name
  | text v => v.name
  | number v => v.name
  | date v => v.name

def run : Verb → Handler
  | shared v => v.run
  | text v => v.run
  | number v => v.run
  | date v => v.run

/-- Fields of the type have the verb in a table of theirs. -/
def Serves (type : TypeTag) : Verb → Prop
  | shared _ => True
  | text _ => type = .string
  | number _ => type = .number
  | date _ => type = .date

/-- The verb looks at the value of its field, and so has to be given one. -/
def readsValue : Verb → Bool
  | shared _ => false
  | text v => !v.readsDocument
  | number _ => true
  | date _ => true

theorem run_ignoresValue {v : Verb} (h : v.readsValue = false) :
    Handler.IgnoresValue v.run := by
  intro now d f w
  cases v with
  | number v => cases h
  | date v => cases h
  | shared v =>
    cases v with
    | nullable => rfl
    | present => exact f.verify_value w _ _
    | required => exact f.verify_value w _ _
    | requiredWith =>
      simp only [run, SharedVerb.run]
      split
      · rfl
      · exact f.verify_value w _ _
    | requiredWithout =>
      simp only [run, SharedVerb.run]
      split
      · rfl
      · exact f.verify_value w _ _
    | confirmed =>
      have hconfirmation : SharedVerb.confirmation { f with value := w } =
          SharedVerb.confirmation f := rfl
      simp only [run, SharedVerb.run, hconfirmation]
      cases d.get? f.name with
      | none => rfl
      | some a =>
        cases d.get? (SharedVerb.confirmation f) with
        | none => rfl
        | some b => exact f.verify_value w _ _
  | text v =>
    have hpair : TextVerb.pair d { f with value := w } = TextVerb.pair d f := rfl
    cases v with
    | same =>
      simp only [run, TextVerb.run, hpair]
      cases TextVerb.pair d f with
      | error e => rfl
      | ok values => exact f.verify_value w _ _
    | different =>
      simp only [run, TextVerb.run, hpair]
      cases TextVerb.pair d f with
      | error e => rfl
      | ok values => exact f.verify_value w _ _
    | _ => cases h

/-- A verb that passes leaves the value as it is, unless it is `integer`. -/
theorem run_value {v : Verb} {now : Instant} {d : Document} {f g : Field}
    (h : v.run now d f = .ok g) :
    g.value = f.value ∨
      v = .number .integer ∧ (∃ x, f.number = .ok x) ∧ ∃ n, g.value = some (.integer n) := by
  cases v with
  | shared v => rcases SharedVerb.run_ok h with rfl | rfl <;> exact .inl rfl
  | text v => exact .inl (by rw [TextVerb.run_ok h])
  | date v => exact .inl (by rw [DateVerb.run_ok h])
  | number v =>
    rcases NumberVerb.run_ok h with rfl | ⟨rfl, n, hg⟩ | ⟨-, -, hg⟩
    · exact .inl rfl
    · obtain ⟨x, hx, -⟩ := bind_ok.mp h
      exact .inr ⟨rfl, ⟨x, hx⟩, n, by rw [hg]⟩
    · exact .inl (by rw [hg])

end Verb

namespace Registry

theorem exists_verb_of_entry {type : TypeTag} {name : String} {entry : TableEntry}
    (h : (standard.typed type).get? name = some entry) :
    ∃ v : Verb, v.name = name ∧ v.Serves type ∧ entry = ⟨v.run, !v.readsValue⟩ := by
  cases type with
  | string =>
    rw [textTable_eq] at h
    obtain ⟨v, -, hname, rfl⟩ := (VerbTable.get?_ofVerbs (by decide)).mp h
    exact ⟨.text v, hname, rfl, by simp [Verb.run, Verb.readsValue]⟩
  | number =>
    rw [numberTable_eq] at h
    obtain ⟨v, -, hname, rfl⟩ := (VerbTable.get?_ofVerbs (by decide)).mp h
    exact ⟨.number v, hname, rfl, rfl⟩
  | date =>
    rw [dateTable_eq] at h
    obtain ⟨v, -, hname, rfl⟩ := (VerbTable.get?_ofVerbs (by decide)).mp h
    exact ⟨.date v, hname, rfl, rfl⟩
  | _ => cases h

/-- The verbs of a type are eager when they do not look at the value. -/
theorem exists_verb_of_typed? {type : TypeTag} {name : String} {run : Handler}
    (h : standard.typed? type name = some run) :
    ∃ v : Verb, v.name = name ∧ v.Serves type ∧ v.run = run ∧
      standard.isEager type name = !v.readsValue := by
  obtain ⟨entry, hentry, rfl⟩ := Option.map_eq_some_iff.mp h
  obtain ⟨v, hname, hserves, rfl⟩ := exists_verb_of_entry hentry
  exact ⟨v, hname, hserves, rfl, by simp [isEager, VerbTable.isEager, hentry]⟩

theorem exists_verb {type : TypeTag} {name : String} {run : Handler}
    (h : standard.shared? name = some run ∨ standard.typed? type name = some run) :
    ∃ v : Verb, v.name = name ∧ v.Serves type ∧ v.run = run := by
  rcases h with h | h
  · obtain ⟨v, hname, hrun⟩ := shared?_standard.mp h
    exact ⟨.shared v, hname, trivial, hrun⟩
  · obtain ⟨v, hname, hserves, hrun, -⟩ := exists_verb_of_typed? h
    exact ⟨v, hname, hserves, hrun⟩

end Registry
end FieldRules
