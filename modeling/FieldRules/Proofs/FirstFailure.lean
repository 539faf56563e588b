import FieldRules.Proofs.Declaration
import FieldRules.Proofs.DigitCount

namespace FieldRules

/-- The calls `xs` pass in turn, each on what the one before leaves, and then `c` fails. -/
def FailsAfter {ε : Type} (p : Field → Call → Except ε Field) (f : Field) (xs : List Call)
    (c : Call) (e : ε) : Prop :=
  ∃ g, xs.foldlM p f = .ok g ∧ p g c = .error e

/-- The first of the calls to fail does so with `e`. -/
def FirstFailure {ε : Type} (p : Field → Call → Except ε Field) (f : Field) (calls : List Call)
    (e : ε) : Prop :=
  ∃ xs c ys, calls = xs ++ c :: ys ∧ FailsAfter p f xs c e

section Calls

variable {ε : Type} {p : Field → Call → Except ε Field} {f g : Field} {c : Call} {cs : List Call}
  {e : ε}

theorem foldlM_cons_of_ok (h : p f c = .ok g) : (c :: cs).foldlM p f = cs.foldlM p g := by
  rw [List.foldlM_cons, h]
  rfl

theorem failsAfter_nil (h : p f c = .error e) : FailsAfter p f [] c e := ⟨f, rfl, h⟩

theorem FailsAfter.cons {b : Call} {xs : List Call} (h : p f b = .ok g)
    (hx : FailsAfter p g xs c e) : FailsAfter p f (b :: xs) c e := by
  obtain ⟨m, hm, hc⟩ := hx
  exact ⟨m, by rw [foldlM_cons_of_ok h, hm], hc⟩

theorem firstFailure_head (h : p f c = .error e) : FirstFailure p f (c :: cs) e :=
  ⟨[], c, cs, rfl, failsAfter_nil h⟩

theorem FirstFailure.cons (h : p f c = .ok g) (hx : FirstFailure p g cs e) :
    FirstFailure p f (c :: cs) e := by
  obtain ⟨xs, b, ys, rfl, hb⟩ := hx
  exact ⟨c :: xs, b, ys, rfl, hb.cons h⟩

/-- Either all calls pass or one is the first to fail, never both. -/
theorem firstFailure_iff : FirstFailure p f cs e ↔ cs.foldlM p f = .error e := by
  constructor
  · rintro ⟨xs, c, ys, rfl, m, hm, hc⟩
    rw [List.foldlM_append, hm]
    change (c :: ys).foldlM p m = _
    rw [List.foldlM_cons, hc]
    rfl
  · intro h
    induction cs generalizing f with
    | nil => cases h
    | cons c cs ih =>
      cases hc : p f c with
      | error e' =>
        rw [List.foldlM_cons, hc] at h
        cases h
        exact firstFailure_head hc
      | ok g =>
        rw [foldlM_cons_of_ok hc] at h
        exact (ih h).cons hc

end Calls

namespace Registry

/-- The calls up to the first whose name is no verb of every type. -/
def sharedPrefix (r : Registry) (calls : List Call) : List Call :=
  calls.takeWhile fun c => (r.shared? c.verb).isSome

section Trail

variable {r : Registry} {now : Instant} {d : Document} {f : Field}

/-- The calls of a coerced field run to the end exactly when none of them halts. -/
theorem trail_of_passing (hfail : r.Keeps Field.failure) (htype : r.Keeps Field.type)
    (cs : List Call) (hf : f.failure = none) (hends : f.endless = false) :
    (∃ g, cs.foldlM (r.perform now d f.type) f = .ok g ∧ g.failure = none ∧ g.endless = false ∧
      r.trail now d f cs = .next g) ∨
    (∃ h g, FirstFailure (r.perform now d f.type) f cs h ∧ g.outcome = h.outcome ∧
      g.failure = h.failure? ∧ r.trail now d f cs = .stop g) := by
  induction cs generalizing f with
  | nil => exact .inl ⟨f, rfl, hf, hends, rfl⟩
  | cons c cs ih =>
    rcases dispatch_of_passing now d hfail htype c hf hends with
      ⟨g, hg, hgf, hge, hgt, hd⟩ | ⟨h, g, hh, hgo, hgf, hd⟩
    · have htail := ih hgf hge
      rw [hgt] at htail
      rcases htail with ⟨m, hm, hmf, hme, ht⟩ | ⟨h, m, hh, hmo, hmf, ht⟩
      · exact .inl ⟨m, by rw [foldlM_cons_of_ok hg, hm], hmf, hme,
          (trail_cons_of_next _ _ _ _ hd).trans ht⟩
      · exact .inr ⟨h, m, hh.cons hg, hmo, hmf, (trail_cons_of_next _ _ _ _ hd).trans ht⟩
    · exact .inr ⟨h, g, firstFailure_head hh, hgo, hgf, trail_cons_of_stop _ _ _ _ hd⟩

/-- The calls of a field that has failed run to the end when all are verbs of every type that pass;
else they stop at the first other name, or at a failure before it. -/
theorem trail_of_failed (hfail : r.Keeps Field.failure) (hshared : r.SharedEnd) (cs : List Call)
    (hf : f.failure.isSome) (hends : f.endless = false) :
    (∃ g, r.sharedPrefix cs = cs ∧ cs.foldlM (r.performShared now d) f = .ok g ∧
      g.failure = f.failure ∧ g.endless = false ∧ r.trail now d f cs = .next g) ∨
    (∃ m g, r.sharedPrefix cs ≠ cs ∧ (r.sharedPrefix cs).foldlM (r.performShared now d) f = .ok m ∧
      g.failure = f.failure ∧ g.endless = false ∧ r.trail now d f cs = .stop g) ∨
    (∃ e g, FirstFailure (r.performShared now d) f (r.sharedPrefix cs) e ∧ g.failure = some e ∧
      g.endless = false ∧ r.trail now d f cs = .stop g) := by
  induction cs generalizing f with
  | nil => exact .inl ⟨f, rfl, rfl, rfl, hends, rfl⟩
  | cons c cs ih =>
    rcases dispatch_of_failed now d hfail hshared c hf hends with
      ⟨hs, hd⟩ | ⟨hs, ⟨g, hg, hgf, hge, hd⟩ | ⟨e, g, he, hgf, hge, hd⟩⟩
    · have hnil : r.sharedPrefix (c :: cs) = [] := by simp [sharedPrefix, hs]
      refine .inr (.inl ⟨f, f.begin c.verb c.args, ?_, ?_, rfl, hends,
        trail_cons_of_stop _ _ _ _ hd⟩)
      · simp [hnil]
      · rw [hnil]
        rfl
    · have hcons : r.sharedPrefix (c :: cs) = c :: r.sharedPrefix cs := by simp [sharedPrefix, hs]
      have hrest : r.trail now d f (c :: cs) = r.trail now d g cs := trail_cons_of_next _ _ _ _ hd
      have htail := ih (hgf ▸ hf) hge
      rw [hgf] at htail
      rw [hcons, hrest]
      rcases htail with ⟨m, hall, hm, hkeep⟩ | ⟨m, k, hall, hm, hkeep⟩ | ⟨e, m, he, hkeep⟩
      · exact .inl ⟨m, by rw [hall], by rw [foldlM_cons_of_ok hg, hm], hkeep⟩
      · exact .inr (.inl ⟨m, k, by simpa using hall, by rw [foldlM_cons_of_ok hg, hm], hkeep⟩)
      · exact .inr (.inr ⟨e, m, he.cons hg, hkeep⟩)
    · have hcons : r.sharedPrefix (c :: cs) = c :: r.sharedPrefix cs := by simp [sharedPrefix, hs]
      rw [hcons]
      exact .inr (.inr ⟨e, g, firstFailure_head he, hgf, hge, trail_cons_of_stop _ _ _ _ hd⟩)

theorem reached_of_passing (hfail : r.Keeps Field.failure) (htype : r.Keeps Field.type)
    {xs : List Call} {c : Call} {h : Halt} (ys : List Call) (hf : f.failure = none)
    (hends : f.endless = false) (hc : FailsAfter (r.perform now d f.type) f xs c h) :
    r.reached now d f (xs ++ c :: ys) = xs ++ [c] := by
  obtain ⟨m, hm, hc⟩ := hc
  induction xs generalizing f with
  | nil =>
    cases hm
    rcases dispatch_of_passing now d hfail htype c hf hends with ⟨g, hg, -⟩ | ⟨h, g, -, -, -, hd⟩
    · rw [hg] at hc
      cases hc
    · simp [reached, hd]
  | cons b xs ih =>
    rcases dispatch_of_passing now d hfail htype b hf hends with
      ⟨g, hg, hgf, hge, hgt, hd⟩ | ⟨h, g, hh, -⟩
    · rw [foldlM_cons_of_ok hg, ← hgt] at hm
      rw [← hgt] at hc
      simp [reached, hd, ih hgf hge hm hc]
    · rw [List.foldlM_cons, hh] at hm
      cases hm

theorem foldlM_perform_keeps (htype : r.Keeps Field.type) {type : TypeTag} {g : Field}
    {xs : List Call} (hends : f.endless = false) (h : xs.foldlM (r.perform now d type) f = .ok g) :
    g.type = f.type ∧ g.endless = false := by
  induction xs generalizing f with
  | nil =>
    cases h
    exact ⟨rfl, hends⟩
  | cons c xs ih =>
    rw [List.foldlM_cons] at h
    obtain ⟨m, hm, hg⟩ := bind_ok.mp h
    obtain ⟨_, _, _, _, hme⟩ := perform_ok.mp hm
    obtain ⟨hgt, hge⟩ := ih hme hg
    exact ⟨hgt.trans (perform_keeps htype (fun _ _ _ => rfl) hm), hge⟩

/-- What calls make of a field coerced to `type`: the failure of the first to fail, or nothing when
one that never ends is before it, and no call after either comes to its turn; or else the value they
leave. -/
def DecidedByCalls (r : Registry) (now : Instant) (d : Document) (type : TypeTag) (f : Field)
    (calls : List Call) (o : Outcome) : Prop :=
  (∃ g, calls.foldlM (r.perform now d type) f = .ok g ∧ o = .ok (g.value.getD .null)) ∨
  ∃ xs c ys, calls = xs ++ c :: ys ∧ r.reached now d f calls = xs ++ [c] ∧
    ((∃ e, FailsAfter (r.perform now d type) f xs c (.failed e) ∧ o = .error e) ∨
      ∃ g, xs.foldlM (r.perform now d type) f = .ok g ∧ c.CountsForever now g ∧ o = .endless)

/-- What calls make of a field that failed with `e` before them: the first failure among the verbs
of every type that stand before any other call, or else `e` itself. -/
def DecidedByPresence (r : Registry) (now : Instant) (d : Document) (f : Field) (e : Failure)
    (calls : List Call) (o : Outcome) : Prop :=
  ((∃ g, (r.sharedPrefix calls).foldlM (r.performShared now d) f = .ok g) ∧ o = .error e) ∨
  ∃ e', FirstFailure (r.performShared now d) f (r.sharedPrefix calls) e' ∧ o = .error e'

theorem runCalls_of_passing (cs : List Call) (hf : f.failure = none) (hends : f.endless = false) :
    standard.DecidedByCalls now d f.type f cs (standard.runCalls now d f cs).outcome := by
  rw [runCalls_eq_trail]
  rcases trail_of_passing standard_keeps_failure standard_keeps_type cs hf hends with
    ⟨g, hg, hgf, hge, ht⟩ | ⟨h, g, hh, hgo, -, ht⟩
  · exact .inl ⟨g, hg, by rw [ht]; exact Field.outcome_of_passed hge hgf⟩
  · obtain ⟨xs, c, ys, rfl, hc⟩ := hh
    refine .inr ⟨xs, c, ys, rfl,
      reached_of_passing standard_keeps_failure standard_keeps_type ys hf hends hc, ?_⟩
    rw [ht]
    cases h with
    | failed e => exact .inl ⟨e, hc, hgo⟩
    | endless =>
      obtain ⟨m, hm, hc⟩ := hc
      obtain ⟨hmt, hme⟩ := foldlM_perform_keeps standard_keeps_type hends hm
      rw [← hmt] at hc
      exact .inr ⟨m, hm, (perform_endless hme).mp hc, hgo⟩

theorem runCalls_of_failed (hfail : r.Keeps Field.failure) (hshared : r.SharedEnd) {e : Failure}
    (cs : List Call) (hf : f.failure = some e) (hends : f.endless = false) :
    r.DecidedByPresence now d f e cs (r.runCalls now d f cs).outcome := by
  rw [runCalls_eq_trail]
  have hsome : f.failure.isSome := by simp [hf]
  rcases trail_of_failed hfail hshared cs hsome hends with
    ⟨g, hall, hg, hgf, hge, ht⟩ | ⟨m, g, -, hm, hgf, hge, ht⟩ | ⟨e', g, he, hgf, hge, ht⟩
  · rw [ht]
    exact .inl ⟨⟨g, by rw [hall, hg]⟩, Field.outcome_of_failed hge (hgf.trans hf)⟩
  · rw [ht]
    exact .inl ⟨⟨m, hm⟩, Field.outcome_of_failed hge (hgf.trans hf)⟩
  · rw [ht]
    exact .inr ⟨e', he, Field.outcome_of_failed hge hgf⟩

theorem DecidedByPresence.failed {e : Failure} {calls : List Call} {o : Outcome}
    (h : r.DecidedByPresence now d f e calls o) : ∃ e', o = .error e' := by
  rcases h with ⟨-, ho⟩ | ⟨e', -, ho⟩
  · exact ⟨e, ho⟩
  · exact ⟨e', ho⟩

end Trail

end Registry

/-- An empty text is no Boolean, yet what is reported is the missing value. -/
example : Registry.standard.outcome ⟨0, 0⟩ [("a", .text "")] "a bool nullable required in(x)" =
    some (.error (Failure.ofField "required" "a")) := rfl

/-- An infinite number has no last digit to count. -/
example : Registry.standard.outcome ⟨0, 0⟩ [("a", .number (1.0 / 0.0))] "a number digits(1)" =
    some .endless := rfl

end FieldRules
