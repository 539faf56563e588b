import FieldRules.Proofs.FirstFailure
import FieldRules.Proofs.GenericFailure

namespace FieldRules

/-- `g` has the name and the type of `f`, and a value of that type exactly when `f` has a value. -/
structure Field.KeepsShape (f g : Field) : Prop where
  name : g.name = f.name
  type : g.type = f.type
  no_value : f.hasValue = false → g.value = f.value
  value : f.hasValue = true → g.HoldsTyped

theorem Field.KeepsShape.holdsTyped {f g : Field} (h : f.KeepsShape g)
    (hvalue : g.hasValue = true) : g.HoldsTyped := by
  cases hf : f.hasValue with
  | true => exact h.value hf
  | false =>
    rw [Field.hasValue_congr (h.no_value hf), hf] at hvalue
    cases hvalue

namespace Registry

/-- The field at a point of the call `c`, which finds it as `f`: as the call begins, when its verb
of every type has passed, when that of the declared type has, or when one of them has failed. -/
inductive Within (r : Registry) (now : Instant) (d : Document) (f : Field) (c : Call) :
    Field → Prop
  | begun : Within r now d f c (f.begin c.verb c.args)
  | shared {m : Field} : r.performShared now d f c = .ok m → Within r now d f c m
  | typed {m g : Field} : r.performShared now d f c = .ok m →
      r.performTyped now d m.type m c.verb = .ok g → Within r now d f c g
  | failed {g : Field} (e : Failure) : Within r now d f c g → Within r now d f c (g.record e)

/-- The field at a point of the run of calls that finds it as `f`. -/
inductive Visits (r : Registry) (now : Instant) (d : Document) : Field → List Call → Field → Prop
  | here (f : Field) (cs : List Call) : Visits r now d f cs f
  | within {f g : Field} {c : Call} (cs : List Call) :
      r.Within now d f c g → Visits r now d f (c :: cs) g
  | later {f g h : Field} {c : Call} {cs : List Call} :
      r.dispatch now d f c = .next g → Visits r now d g cs h → Visits r now d f (c :: cs) h

section Points

variable (r : Registry) (now : Instant) (d : Document)

theorem runTyped_within {f m : Field} {c : Call} (hm : r.performShared now d f c = .ok m) :
    r.Within now d f c (r.runTyped now d m c.verb).field := by
  rw [runTyped_field]
  cases hg : r.performTyped now d m.type m c.verb with
  | ok g => exact .typed hm hg
  | error e => exact .failed e (.shared hm)

theorem dispatch_within (f : Field) (c : Call) :
    r.Within now d f c (r.dispatch now d f c).field := by
  unfold dispatch
  cases hs : r.shared? c.verb with
  | none =>
    have hm : r.performShared now d f c = .ok (f.begin c.verb c.args) := by
      simp [performShared, hs]
    simp only
    split
    · exact .begun
    · exact runTyped_within r now d hm
  | some run =>
    have hperform : r.performShared now d f c = run now d (f.begin c.verb c.args) := by
      simp [performShared, hs]
    simp only
    cases hm : run now d (f.begin c.verb c.args) with
    | error e => exact .failed e .begun
    | ok m =>
      simp only
      split
      · exact .shared (hperform.trans hm)
      · split
        · exact .shared (hperform.trans hm)
        · exact runTyped_within r now d (hperform.trans hm)

theorem runCalls_visited (f : Field) (cs : List Call) :
    r.Visits now d f cs (r.runCalls now d f cs) := by
  induction cs generalizing f with
  | nil => exact .here f []
  | cons c cs ih =>
    rw [runCalls]
    have hpoint := dispatch_within r now d f c
    cases hg : r.dispatch now d f c with
    | next g => exact .later hg (ih g)
    | stop g =>
      rw [hg] at hpoint
      exact .within cs hpoint

end Points

section Standard

variable {now : Instant} {d : Document} {f g m : Field} {c : Call}

theorem performShared_value (h : standard.performShared now d f c = .ok m) :
    m.value = f.value := by
  unfold performShared at h
  split at h
  · cases h
    rfl
  · rename_i run hrun
    obtain ⟨v, -, rfl⟩ := shared?_standard.mp hrun
    rcases SharedVerb.run_ok h with rfl | rfl <;> rfl

/-- Of all verbs only `integer` changes a value, and that of a number. -/
theorem performTyped_value {name : String}
    (h : standard.performTyped now d m.type m name = .ok g) :
    g.value = m.value ∨ m.type = .number ∧ name = "integer" ∧ m.hasValue = true ∧
      ∃ n, g.value = some (.integer n) := by
  unfold performTyped at h
  split at h
  · cases h
    exact .inl rfl
  · rename_i run hrun
    split at h
    · obtain ⟨v, hname, hserves, rfl⟩ := exists_verb (.inr hrun)
      rcases v.run_value h with hv | ⟨rfl, ⟨x, hx⟩, hn⟩
      · exact .inl hv
      · exact .inr ⟨hserves, hname.symm, Field.hasValue_of_number hx, hn⟩
    · cases h
      exact .inl rfl

/-- What a call can do to the shape of the field. -/
theorem Within.effect (h : standard.Within now d f c g) :
    g.name = f.name ∧ g.type = f.type ∧
      (g.value = f.value ∨ f.type = .number ∧ c.verb = "integer" ∧ f.hasValue = true ∧
        ∃ n, g.value = some (.integer n)) := by
  induction h with
  | begun => exact ⟨rfl, rfl, .inl rfl⟩
  | shared hm =>
    exact ⟨performShared_keeps standard_keeps_name (fun _ _ _ => rfl) hm,
      performShared_keeps standard_keeps_type (fun _ _ _ => rfl) hm, .inl (performShared_value hm)⟩
  | typed hm hg =>
    have hname := performShared_keeps standard_keeps_name (fun _ _ _ => rfl) hm
    have htype := performShared_keeps standard_keeps_type (fun _ _ _ => rfl) hm
    have hvalue := performShared_value hm
    refine ⟨(performTyped_keeps standard_keeps_name hg).trans hname,
      (performTyped_keeps standard_keeps_type hg).trans htype, ?_⟩
    rcases performTyped_value hg with hv | ⟨hnumber, hverb, hm, hn⟩
    · exact .inl (hv.trans hvalue)
    · exact .inr ⟨htype ▸ hnumber, hverb, Field.hasValue_congr hvalue ▸ hm, hn⟩
  | failed e _ ih => exact ih

theorem Within.keepsShape {f₀ : Field} (h : standard.Within now d f c g)
    (hf : f₀.KeepsShape f) : f₀.KeepsShape g := by
  obtain ⟨hname, htype, hvalue⟩ := h.effect
  refine ⟨hname.trans hf.name, htype.trans hf.type, fun hnone => ?_, fun hsome => ?_⟩
  · -- `integer` is skipped without a value, so the value is the one that the call found.
    have hfvalue := hf.no_value hnone
    rcases hvalue with hvalue | ⟨-, -, hf', -⟩
    · exact hvalue.trans hfvalue
    · rw [Field.hasValue_congr hfvalue, hnone] at hf'
      cases hf'
  · rcases hvalue with hvalue | ⟨hnumber, -, -, n, hn⟩
    · exact (hf.value hsome).congr hvalue htype
    · exact ⟨.integer n, hn, rfl, by rw [htype, hnumber]; rfl⟩

theorem dispatch_keepsShape {f₀ : Field} (hf : f₀.KeepsShape f)
    (h : standard.dispatch now d f c = .next g) : f₀.KeepsShape g := by
  have hpoint := dispatch_within standard now d f c
  rw [h] at hpoint
  exact hpoint.keepsShape hf

theorem Visits.keepsShape {f₀ : Field} {calls : List Call}
    (h : standard.Visits now d f calls g) (hf : f₀.KeepsShape f) : f₀.KeepsShape g := by
  induction h with
  | here => exact hf
  | within _ hpoint => exact hpoint.keepsShape hf
  | later hnext _ ih => exact ih (dispatch_keepsShape hf hnext)

theorem perform_keepsShape {f₀ : Field} (hf : f₀.KeepsShape f)
    (h : standard.perform now d f₀.type f c = .ok g) : f₀.KeepsShape g := by
  obtain ⟨m, hm, -, hg, -⟩ := perform_ok.mp h
  have htype := (performShared_keeps standard_keeps_type (fun _ _ _ => rfl) hm).trans hf.type
  rw [← htype] at hg
  exact (Within.typed hm hg).keepsShape hf

theorem foldlM_keepsShape {f₀ : Field} {xs : List Call} (hf : f₀.KeepsShape f)
    (h : xs.foldlM (standard.perform now d f₀.type) f = .ok g) : f₀.KeepsShape g := by
  induction xs generalizing f with
  | nil =>
    cases h
    exact hf
  | cons c xs ih =>
    obtain ⟨m, hm, hg⟩ := bind_ok.mp h
    exact ih (perform_keepsShape hf hm) hg

/-- At the point where its typed verb runs, the field has the arguments of the call and a value of
its type, if it has one. -/
theorem perform_generic {f₀ : Field} {e : Failure} (hf : f₀.KeepsShape f)
    (h : standard.perform now d f₀.type f c = .error (.failed e))
    (he : e.kind = Failure.genericKind) :
    c.Misused now f₀.type ∨ c.LacksField d f₀.name f₀.type := by
  rcases perform_failed.mp h with h | ⟨m, hm, -, h⟩
  · rw [← hf.name, ← hf.type]
    exact performShared_generic h he
  · have hshape : f₀.KeepsShape m := (Within.shared hm).keepsShape hf
    rw [← hshape.type] at h
    rw [← hshape.name, ← hshape.type]
    exact performTyped_generic (performShared_args hm) hshape.holdsTyped h he

theorem ignoresValue_of_runs {type : TypeTag} {name : String} {run : Handler}
    (h : standard.shared? name = some run ∨
      standard.typed? type name = some run ∧ standard.isEager type name = true) :
    Handler.IgnoresValue run := by
  rcases h with h | ⟨h, heager⟩
  · obtain ⟨v, -, rfl⟩ := shared?_standard.mp h
    exact Verb.run_ignoresValue (v := .shared v) rfl
  · obtain ⟨v, -, -, rfl, hreads⟩ := exists_verb_of_typed? h
    rw [heager] at hreads
    exact Verb.run_ignoresValue (by simpa using hreads)

/-- The first of the calls to fail does so with `e`, and because one of its arguments is missing or
malformed or because it compares a field that the document lacks. -/
def BlamesCall (now : Instant) (d : Document) (f : Field) (calls : List Call) (e : Failure) :
    Prop :=
  ∃ xs c ys, calls = xs ++ c :: ys ∧
    FailsAfter (standard.perform now d f.type) f xs c (.failed e) ∧
    (c.Misused now f.type ∨ c.LacksField d f.name f.type)

theorem runCalls_generic {calls : List Call} {e : Failure} (hpass : f.failure = none)
    (hends : f.endless = false) (hf : f.KeepsShape f)
    (h : (standard.runCalls now d f calls).failure = some e) (he : e.kind = Failure.genericKind) :
    BlamesCall now d f calls e := by
  rw [runCalls_eq_trail] at h
  rcases trail_of_passing standard_keeps_failure standard_keeps_type calls hpass hends with
    ⟨g, -, hg, -, ht⟩ | ⟨halt, g, hfirst, -, hg, ht⟩
  · rw [ht, Step.field, hg] at h
    cases h
  · rw [ht, Step.field, hg] at h
    obtain ⟨xs, c, ys, rfl, m, hm, hc⟩ := hfirst
    cases halt with
    | endless => cases h
    | failed e' =>
      cases h
      exact ⟨xs, c, ys, rfl, ⟨m, hm, hc⟩, perform_generic (foldlM_keepsShape hf hm) hc he⟩

theorem start?_keepsShape {rule : String} {calls : List Call}
    (hstart : start? now d rule = some (f, calls)) (hpass : f.failure = none) :
    f.KeepsShape f := by
  refine ⟨rfl, rfl, fun _ => rfl, fun hvalue => ?_⟩
  cases hscan : scan rule with
  | nil => simp [start?, hscan] at hstart
  | cons head rest =>
    rw [start?_of_scan now d hscan] at hstart
    cases hstart
    exact Field.holdsTyped_of_declare rfl hpass hvalue

/-- The invariant of the run of `calls` on a field that coercion has left as `f`. -/
structure ShapeInvariant (now : Instant) (d : Document) (f : Field) (calls : List Call) :
    Prop where
  kept : ∀ g, standard.Visits now d f calls g → f.KeepsShape g
  /-- The final state of the field is one of those. -/
  last : standard.Visits now d f calls (standard.runCalls now d f calls)
  /-- No verb but `integer` changes a value. -/
  value : ∀ g c h, standard.Within now d g c h →
    h.value = g.value ∨ g.type = .number ∧ c.verb = "integer"
  /-- A value there is can be read by the verbs of its type. -/
  readable : ∀ g, standard.Visits now d f calls g → g.hasValue = true → g.Readable
  /-- Verbs that run without a value do not read it. -/
  blind : ∀ name run, standard.shared? name = some run ∨
    standard.typed? f.type name = some run ∧ standard.isEager f.type name = true →
      Handler.IgnoresValue run
  generic : ∀ e, (standard.runCalls now d f calls).failure = some e →
    e.kind = Failure.genericKind → BlamesCall now d f calls e

/-- From a successful coercion on the field keeps its shape, and so a verb never meets a value that
it cannot read. -/
theorem shape_kept {rule : String} {calls : List Call}
    (hstart : start? now d rule = some (f, calls)) (hpass : f.failure = none) :
    ShapeInvariant now d f calls := by
  have hf : f.KeepsShape f := start?_keepsShape hstart hpass
  exact {
    kept := fun g hg => hg.keepsShape hf
    last := runCalls_visited standard now d f calls
    value := fun g c h hpoint => hpoint.effect.2.2.imp_right fun hv => ⟨hv.1, hv.2.1⟩
    readable := fun g hg hvalue => ((hg.keepsShape hf).holdsTyped hvalue).readable
    blind := fun name run hrun => ignoresValue_of_runs hrun
    generic := fun e h he => runCalls_generic hpass (start?_endless hstart) hf h he }

/-- The second verb fails generically, as there is no `b` to compare with. -/
theorem shape_kept_without_sibling : ∃ f calls,
    start? ⟨0, 0⟩ [("a", .text "x")] "a string nullable same(b)" = some (f, calls) ∧
    f.failure = none ∧ ShapeInvariant ⟨0, 0⟩ [("a", .text "x")] f calls ∧
    (standard.runCalls ⟨0, 0⟩ [("a", .text "x")] f calls).failure = some (Failure.invalid "a") := by
  have hstart : start? ⟨0, 0⟩ [("a", .text "x")] "a string nullable same(b)" =
      some ({ name := "a", type := .string, value := some (.text "x") },
        [⟨"nullable", [], false⟩, ⟨"same", ["b"], true⟩]) := rfl
  exact ⟨_, _, hstart, rfl, shape_kept hstart rfl, rfl⟩

end Standard

end Registry
end FieldRules
