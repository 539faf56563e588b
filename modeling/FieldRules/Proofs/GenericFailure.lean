import FieldRules.Proofs.ArgumentForm
import FieldRules.Proofs.CanonicalValue
import FieldRules.Proofs.Run

namespace FieldRules

/-- A verb of the call's name, for fields of the type, has an argument missing or malformed. -/
def Call.Misused (now : Instant) (type : TypeTag) (c : Call) : Prop :=
  ∃ v : Verb, v.name = c.verb ∧ v.Serves type ∧
    Argument.fit now (v.forms c.args.length) c.args = false

/-- The call compares the field `name`, a text, with the one that its first argument names, and the
document lacks one of the two. -/
def Call.LacksField (d : Document) (name : String) (type : TypeTag) (c : Call) : Prop :=
  type = .string ∧ (c.verb = "same" ∨ c.verb = "different") ∧
    (d.get? name = none ∨ ∃ other ∈ c.args.head?, d.get? other = none)

theorem TextVerb.name_of_readsDocument {v : TextVerb} (h : v.readsDocument = true) :
    v.name = "same" ∨ v.name = "different" := by
  cases v with
  | same => exact .inl rfl
  | different => exact .inr rfl
  | _ => cases h

variable {now : Instant} {d : Document} {f : Field} {c : Call} {e : Failure}

/-- A verb fails generically only through the call that it is run for. -/
theorem Verb.misused_of_generic {v : Verb} (hname : v.name = c.verb) (hargs : f.args = c.args)
    (hserves : v.Serves f.type) (hvalue : v.readsValue = true → f.HoldsTyped)
    (h : v.run now d f = .error e) (he : e.kind = Failure.genericKind) :
    c.Misused now f.type ∨ c.LacksField d f.name f.type := by
  cases hfit : Argument.fit now (v.forms c.args.length) c.args with
  | false => exact .inl ⟨v, hname, hserves, hfit⟩
  | true =>
    -- The arguments are as asked and the value can be read, so only a missing field is left.
    rw [← hargs] at hfit
    cases v with
    | shared v => exact absurd he (SharedVerb.run_specific hfit e h)
    | number v =>
      obtain ⟨x, hx⟩ := (hvalue rfl).number hserves
      exact absurd he (NumberVerb.run_specific hfit hx e h)
    | date v =>
      obtain ⟨t, ht⟩ := (hvalue rfl).instant hserves
      exact absurd he (DateVerb.run_specific hfit ht e h)
    | text v =>
      cases hreads : v.readsDocument with
      | true =>
        have hmissing := TextVerb.compare_error hreads hfit h he
        rw [hargs] at hmissing
        exact .inr ⟨hserves, hname ▸ TextVerb.name_of_readsDocument hreads, hmissing⟩
      | false =>
        obtain ⟨s, hs⟩ := (hvalue (by simp [readsValue, hreads])).text hserves
        exact absurd he (TextVerb.run_specific hfit hreads hs e h)

namespace Registry

theorem standard_keeps_args : standard.Keeps Field.args :=
  standard_keeps _ (fun _ _ => rfl) (fun _ _ => rfl) fun _ _ => rfl

theorem performShared_generic (h : standard.performShared now d f c = .error e)
    (he : e.kind = Failure.genericKind) :
    c.Misused now f.type ∨ c.LacksField d f.name f.type := by
  unfold performShared at h
  split at h
  · cases h
  · rename_i run hrun
    obtain ⟨v, hname, rfl⟩ := shared?_standard.mp hrun
    have hverb : (Verb.shared v).name = c.verb := hname
    have hserves : (Verb.shared v).Serves (f.begin c.verb c.args).type := trivial
    exact Verb.misused_of_generic (f := f.begin c.verb c.args) hverb rfl hserves
      (fun hreads => nomatch hreads) h he

theorem performShared_args {m : Field} (h : standard.performShared now d f c = .ok m) :
    m.args = c.args := by
  unfold performShared at h
  split at h
  · cases h
    rfl
  · rename_i run hrun
    exact standard_keeps_args _ _ (.inl hrun) _ _ _ _ h

theorem performTyped_generic (hargs : f.args = c.args)
    (hvalue : f.hasValue = true → f.HoldsTyped)
    (h : standard.performTyped now d f.type f c.verb = .error e)
    (he : e.kind = Failure.genericKind) :
    c.Misused now f.type ∨ c.LacksField d f.name f.type := by
  unfold performTyped at h
  split at h
  · cases h
  · rename_i run hrun
    obtain ⟨v, hname, hserves, rfl, heager⟩ := exists_verb_of_typed? hrun
    split at h
    · rename_i hruns
      refine Verb.misused_of_generic hname hargs hserves (fun hreads => hvalue ?_) h he
      simpa [heager, hreads] using hruns
    · cases h

end Registry
end FieldRules
