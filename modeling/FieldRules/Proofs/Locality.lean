import FieldRules.Proofs.BuiltInVerb
import FieldRules.Proofs.Declaration
import FieldRules.Proofs.Run

namespace FieldRules

/-- The documents have the same under each of the names, or both nothing. -/
def Document.AgreeOn (names : List String) (d₁ d₂ : Document) : Prop :=
  ∀ name ∈ names, d₁.get? name = d₂.get? name

/-- The fields of the document that the verb at hand may look at. -/
def Field.sources (f : Field) : List String :=
  f.name :: (f.name ++ "Confirmation") :: f.args

/-- The fields that calls on the field `name` may look at. -/
def callSources (name : String) (calls : List Call) : List String :=
  name :: (name ++ "Confirmation") :: calls.flatMap Call.args

/-- The fields of the document that a rule may look at. -/
def ruleSources (rule : String) : List String :=
  match scan rule with
  | [] => []
  | head :: rest => callSources head.verb (head :: rest)

theorem sources_begin (f : Field) (c : Call) :
    (f.begin c.verb c.args).sources = callSources f.name [c] := by
  simp [Field.sources, Field.begin, callSources]

theorem callSources_subset (name : String) {xs ys : List Call} (h : xs ⊆ ys) :
    callSources name xs ⊆ callSources name ys := by
  have hargs : xs.flatMap Call.args ⊆ ys.flatMap Call.args := by
    intro arg harg
    obtain ⟨c, hc, harg⟩ := List.mem_flatMap.mp harg
    exact List.mem_flatMap.mpr ⟨c, h hc, harg⟩
  exact List.cons_subset_cons _ (List.cons_subset_cons _ hargs)

theorem declaredType_subset (head : Call) (calls : List Call) :
    (declaredType head calls).2 ⊆ calls := by
  unfold declaredType
  split
  · exact List.Subset.refl calls
  · split
    · exact List.Subset.refl []
    · split
      · exact List.subset_cons_self _ _
      · exact List.Subset.refl _

theorem Document.AgreeOn.mono {names fewer : List String} {d₁ d₂ : Document}
    (h : AgreeOn names d₁ d₂) (hsub : fewer ⊆ names) : AgreeOn fewer d₁ d₂ :=
  fun name hname => h name (hsub hname)

section Verbs

variable {d₁ d₂ : Document} {f : Field} (now : Instant) (h : Document.AgreeOn f.sources d₁ d₂)
include h

theorem agree_name : d₁.get? f.name = d₂.get? f.name := h _ List.mem_cons_self

theorem agree_arg {i : Nat} {other : String} (harg : f.arg i = .ok other) :
    d₁.get? other = d₂.get? other := by
  have hmem : other ∈ f.args := by
    unfold Field.arg Field.require at harg
    split at harg
    · rename_i a ha
      cases harg
      exact List.mem_of_getElem? ha
    · cases harg
  exact h _ (by simp [Field.sources, hmem])

namespace SharedVerb

theorem isMissing_agree : isMissing d₁ f = isMissing d₂ f := by
  rw [isMissing, isMissing, agree_name h]

theorem isFilled_agree {other : String} (hother : other ∈ f.args) :
    isFilled d₁ other = isFilled d₂ other := by
  rw [isFilled, isFilled, h other (by simp [Field.sources, hother])]

omit h in
theorem confirmation_mem_sources (f : Field) : confirmation f ∈ f.sources := by
  unfold confirmation
  cases hargs : f.args with
  | nil => simp [Field.sources]
  | cons other rest =>
    by_cases hother : other = ""
    · simp [Field.sources, hother]
    · simp [Field.sources, hargs, hother]

theorem run_agree (v : SharedVerb) : v.run now d₁ f = v.run now d₂ f := by
  have hmissing : isMissing d₁ f = isMissing d₂ f := isMissing_agree h
  have hfilled : ∀ other ∈ f.args, isFilled d₁ other = isFilled d₂ other :=
    fun _ hother => isFilled_agree h hother
  cases v with
  | nullable => rfl
  | present => simp only [run, Entries.contains, agree_name h]
  | required => simp only [run, hmissing]
  | requiredWith =>
    have hall : f.args.all (isFilled d₁) = f.args.all (isFilled d₂) := by
      rw [Bool.eq_iff_iff, List.all_eq_true, List.all_eq_true]
      exact forall₂_congr fun other hother => by rw [hfilled other hother]
    simp only [run, hmissing, hall]
  | requiredWithout =>
    have hany : f.args.any (fun s => !isFilled d₁ s) = f.args.any (fun s => !isFilled d₂ s) := by
      rw [Bool.eq_iff_iff, List.any_eq_true, List.any_eq_true]
      exact exists_congr fun other => and_congr_right fun hother => by rw [hfilled other hother]
    simp only [run, hmissing, hany]
  | confirmed =>
    have hconfirmation := h (confirmation f) (confirmation_mem_sources f)
    simp only [run, agree_name h, hconfirmation]

end SharedVerb

namespace TextVerb

theorem pair_agree : pair d₁ f = pair d₂ f := by
  refine bind_congr_ok fun other harg => ?_
  simp only [agree_name h, agree_arg h harg]

theorem run_agree (v : TextVerb) : v.run now d₁ f = v.run now d₂ f := by
  cases v with
  | inArray =>
    refine bind_congr_ok fun other harg => ?_
    simp only [agree_arg h harg]
  | same => simp only [run, pair_agree h]
  | different => simp only [run, pair_agree h]
  | _ => rfl

end TextVerb

theorem Verb.run_agree (v : Verb) : v.run now d₁ f = v.run now d₂ f := by
  cases v with
  | shared v => exact v.run_agree now h
  | text v => exact v.run_agree now h
  | number v => cases v <;> rfl
  | date v => cases v <;> rfl

end Verbs

namespace Registry

variable {d₁ d₂ : Document} (now : Instant)

theorem standard_keeps_sources : standard.Keeps Field.sources :=
  standard_keeps _ (fun _ _ => rfl) (fun _ _ => rfl) fun _ _ => rfl

theorem runTyped_agree {f : Field} (h : Document.AgreeOn f.sources d₁ d₂) (verb : String) :
    standard.runTyped now d₁ f verb = standard.runTyped now d₂ f verb := by
  unfold runTyped
  cases htyped : standard.typed? f.type verb with
  | none => rfl
  | some run =>
    obtain ⟨v, -, -, rfl⟩ := exists_verb (.inr htyped)
    simp only [v.run_agree now h]

theorem dispatch_agree {f : Field} {c : Call}
    (h : Document.AgreeOn (f.begin c.verb c.args).sources d₁ d₂) :
    standard.dispatch now d₁ f c = standard.dispatch now d₂ f c := by
  unfold dispatch
  cases hshared : standard.shared? c.verb with
  | none => simp only [runTyped_agree now h]
  | some run =>
    have hverb : standard.shared? c.verb = some run ∨ standard.typed? f.type c.verb = some run :=
      .inl hshared
    obtain ⟨v, -, -, rfl⟩ := exists_verb hverb
    simp only [v.run_agree now h]
    cases hm : v.run now d₂ (f.begin c.verb c.args) with
    | error e => rfl
    | ok m =>
      have hsources : m.sources = (f.begin c.verb c.args).sources :=
        standard_keeps_sources _ _ (.inl hshared) _ _ _ _ hm
      simp only [runTyped_agree now (hsources ▸ h)]

/-- The step of the calls' run keeps the name of the field, and with it what the next step reads. -/
theorem runCalls_agree {f : Field} {calls : List Call}
    (h : Document.AgreeOn (callSources f.name calls) d₁ d₂) :
    standard.runCalls now d₁ f calls = standard.runCalls now d₂ f calls := by
  induction calls generalizing f with
  | nil => rfl
  | cons c cs ih =>
    have hc : Document.AgreeOn (f.begin c.verb c.args).sources d₁ d₂ := by
      rw [sources_begin]
      exact h.mono (callSources_subset f.name (by simp))
    rw [runCalls, runCalls, dispatch_agree now hc]
    cases hg : standard.dispatch now d₂ f c with
    | stop g => rfl
    | next g =>
      have hname : g.name = f.name := by
        have hkept : (standard.dispatch now d₂ f c).field.name = f.name :=
          dispatch_keeps standard_keeps_name (fun _ _ _ => rfl) (fun _ _ => rfl) f c
        rwa [hg] at hkept
      refine ih ?_
      rw [hname]
      exact h.mono (callSources_subset f.name (List.subset_cons_self c cs))

/-- A rule comes to the same outcome on documents that agree on its field, on the confirmation of
that field and on the fields that arguments of its calls name. -/
theorem outcome_local (now : Instant) (rule : String)
    (h : Document.AgreeOn (ruleSources rule) d₁ d₂) :
    standard.outcome now d₁ rule = standard.outcome now d₂ rule := by
  cases hscan : scan rule with
  | nil => simp [outcome, runRule, start?, hscan]
  | cons head rest =>
    rw [ruleSources, hscan] at h
    have hfield : Field.ofDocument head.verb d₁ = Field.ofDocument head.verb d₂ := by
      rw [Field.ofDocument, Field.ofDocument, h head.verb List.mem_cons_self]
    have hname : ((Field.ofDocument head.verb d₂).declare now (declaredType head rest).1).name =
        head.verb := Field.declare_name rfl
    have hcalls : (declaredType head rest).2 ⊆ head :: rest :=
      List.subset_cons_of_subset head (declaredType_subset head rest)
    rw [outcome_of_start? standard (start?_of_scan now d₁ hscan),
      outcome_of_start? standard (start?_of_scan now d₂ hscan), hfield, runCalls_agree now]
    rw [hname]
    exact h.mono (callSources_subset head.verb hcalls)

/-- The two documents differ on a field that the rule does not name. -/
theorem outcome_local_beside_stranger :
    Document.AgreeOn (ruleSources "a string same(b)")
      [("a", .text "x"), ("b", .text "x"), ("c", .null)] [("a", .text "x"), ("b", .text "x")] ∧
    standard.outcome ⟨0, 0⟩ [("a", .text "x"), ("b", .text "x"), ("c", .null)]
        "a string same(b)" =
      standard.outcome ⟨0, 0⟩ [("a", .text "x"), ("b", .text "x")] "a string same(b)" := by
  have hsources : ruleSources "a string same(b)" = ["a", "aConfirmation", "b"] := by decide
  have h : Document.AgreeOn (ruleSources "a string same(b)")
      [("a", .text "x"), ("b", .text "x"), ("c", .null)] [("a", .text "x"), ("b", .text "x")] := by
    rw [hsources]
    intro name hname
    simp only [List.mem_cons, List.not_mem_nil, or_false] at hname
    rcases hname with rfl | rfl | rfl <;> rfl
  exact ⟨h, outcome_local ⟨0, 0⟩ "a string same(b)" h⟩

end Registry

end FieldRules
