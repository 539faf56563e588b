import FieldRules.Validator
import FieldRules.Proofs.StandardTables

namespace FieldRules

/-- What the field of a rule comes to. -/
inductive Outcome where
  /-- It passed with the value, null for an absent one. -/
  | ok (v : Value)
  | error (e : Failure)
  /-- There is nothing that it comes to, as one of the verbs never ends. -/
  | endless

namespace Field

def outcome (f : Field) : Outcome :=
  if f.endless then .endless
  else match f.failure with
    | some e => .error e
    | none => .ok (f.value.getD .null)

variable {f : Field}

theorem outcome_of_endless (h : f.endless = true) : f.outcome = .endless := by
  simp [outcome, h]

theorem outcome_of_failed {e : Failure} (hends : f.endless = false) (h : f.failure = some e) :
    f.outcome = .error e := by
  simp [outcome, hends, h]

theorem outcome_of_passed (hends : f.endless = false) (h : f.failure = none) :
    f.outcome = .ok (f.value.getD .null) := by
  simp [outcome, hends, h]

theorem outcome_eq_endless : f.outcome = .endless ↔ f.endless = true := by
  cases hends : f.endless with
  | true => simp [outcome_of_endless hends]
  | false => cases h : f.failure <;> simp [outcome, hends, h]

theorem outcome_eq_error {e : Failure} :
    f.outcome = .error e ↔ f.endless = false ∧ f.failure = some e := by
  cases hends : f.endless with
  | true => simp [outcome_of_endless hends]
  | false =>
    cases h : f.failure with
    | none => simp [outcome_of_passed hends h]
    | some e' => simp [outcome_of_failed hends h]

end Field

/-- Outcome of the field of a rule; `none` when the rule names no field. -/
def Registry.outcome (r : Registry) (now : Instant) (d : Document) (rule : String) :
    Option Outcome :=
  (r.runRule now d rule).map Field.outcome

/-- Why a call is the last of its rule. -/
inductive Halt where
  | failed (e : Failure)
  /-- Its verb never ends. -/
  | endless

namespace Halt

def outcome : Halt → Outcome
  | failed e => .error e
  | endless => .endless

def failure? : Halt → Option Failure
  | failed e => some e
  | endless => none

end Halt

/-- The field that a verb passes on at its end. -/
def ended : Except Failure Field → Except Halt Field
  | .error e => .error (.failed e)
  | .ok g => if g.endless then .error .endless else .ok g

theorem ended_ok {x : Except Failure Field} {g : Field} :
    ended x = .ok g ↔ x = .ok g ∧ g.endless = false := by
  cases x with
  | error e => simp [ended]
  | ok m => cases hm : m.endless <;> simp [ended, hm] <;> rintro rfl <;> simp [hm]

theorem ended_failed {x : Except Failure Field} {e : Failure} :
    ended x = .error (.failed e) ↔ x = .error e := by
  cases x with
  | error e' => simp [ended]
  | ok m => cases hm : m.endless <;> simp [ended, hm]

theorem ended_endless {x : Except Failure Field} :
    ended x = .error .endless ↔ ∃ g, x = .ok g ∧ g.endless = true := by
  cases x with
  | error e => simp [ended]
  | ok m => cases hm : m.endless <;> simp [ended, hm]

namespace Registry

theorem outcome_of_start? (r : Registry) {now : Instant} {d : Document} {rule : String} {f : Field}
    {calls : List Call} (h : start? now d rule = some (f, calls)) :
    r.outcome now d rule = some (r.runCalls now d f calls).outcome := by
  simp only [outcome, runRule, h, Option.map_some]

end Registry

namespace Step

def field : Step → Field
  | next f => f
  | stop f => f

/-- Goes on from the next call; what has stopped stays as it is. -/
def bind : Step → (Field → Step) → Step
  | next f, k => k f
  | stop f, _ => stop f

end Step

namespace Registry

variable (r : Registry) (now : Instant) (d : Document)

/-- Runs calls in turn until one stops. -/
def trail : Field → List Call → Step
  | f, [] => .next f
  | f, c :: cs => (r.dispatch now d f c).bind fun g => trail g cs

theorem trail_cons_of_next {f g : Field} {c : Call} (cs : List Call)
    (h : r.dispatch now d f c = .next g) : r.trail now d f (c :: cs) = r.trail now d g cs := by
  rw [trail, h]
  rfl

theorem trail_cons_of_stop {f g : Field} {c : Call} (cs : List Call)
    (h : r.dispatch now d f c = .stop g) : r.trail now d f (c :: cs) = .stop g := by
  rw [trail, h]
  rfl

theorem trail_append (f : Field) (xs ys : List Call) :
    r.trail now d f (xs ++ ys) = (r.trail now d f xs).bind fun g => r.trail now d g ys := by
  induction xs generalizing f with
  | nil => rfl
  | cons c xs ih =>
    rw [List.cons_append]
    cases h : r.dispatch now d f c with
    | next g => rw [trail_cons_of_next _ _ _ _ h, trail_cons_of_next _ _ _ _ h, ih]
    | stop g =>
      rw [trail_cons_of_stop _ _ _ _ h, trail_cons_of_stop _ _ _ _ h]
      rfl

theorem runCalls_eq_trail (f : Field) (cs : List Call) :
    r.runCalls now d f cs = (r.trail now d f cs).field := by
  induction cs generalizing f with
  | nil => rfl
  | cons c cs ih =>
    rw [runCalls]
    cases h : r.dispatch now d f c with
    | next g => rw [trail_cons_of_next _ _ _ _ h, ← ih]
    | stop g =>
      rw [trail_cons_of_stop _ _ _ _ h]
      rfl

theorem runCalls_append_of_next {f g : Field} {xs : List Call} (ys : List Call)
    (h : r.trail now d f xs = .next g) :
    r.runCalls now d f (xs ++ ys) = r.runCalls now d g ys := by
  simp [runCalls_eq_trail, trail_append, h, Step.bind]

theorem runCalls_append_of_stop {f g : Field} {xs : List Call} (ys : List Call)
    (h : r.trail now d f xs = .stop g) : r.runCalls now d f (xs ++ ys) = g := by
  simp [runCalls_eq_trail, trail_append, h, Step.bind, Step.field]

theorem dispatch_begin (f : Field) (verb : String) (args : List String) (c : Call) :
    r.dispatch now d (f.begin verb args) c = r.dispatch now d f c := rfl

/-- The verb at hand and its arguments do not outlive their call. -/
theorem runCalls_begin_outcome (f : Field) (verb : String) (args : List String) (cs : List Call) :
    (r.runCalls now d (f.begin verb args) cs).outcome = (r.runCalls now d f cs).outcome := by
  cases cs with
  | nil => rfl
  | cons c cs => simp only [runCalls, dispatch_begin]

/-- The part of a call that its verb of every type plays, if it has one. -/
def performShared (f : Field) (c : Call) : Except Failure Field :=
  match r.shared? c.verb with
  | none => .ok (f.begin c.verb c.args)
  | some run => run now d (f.begin c.verb c.args)

/-- The part of its verb of the declared type, which an absent or null value skips unless the verb
is eager. -/
def performTyped (type : TypeTag) (f : Field) (verb : String) : Except Failure Field :=
  match r.typed? type verb with
  | none => .ok f
  | some run => if f.hasValue ∨ r.isEager type verb then run now d f else .ok f

/-- A call on a field that has not failed, whose declared type is `type`. -/
def perform (type : TypeTag) (f : Field) (c : Call) : Except Halt Field := do
  let m ← ended (r.performShared now d f c)
  ended (r.performTyped now d type m c.verb)

variable {r now d}

theorem performShared_keeps {β : Type} {see : Field → β} (hr : r.Keeps see)
    (hbegin : ∀ f verb args, see (Field.begin f verb args) = see f) {f g : Field} {c : Call}
    (h : r.performShared now d f c = .ok g) : see g = see f := by
  unfold performShared at h
  split at h
  · cases h
    exact hbegin f _ _
  · rename_i run hrun
    exact (hr _ _ (.inl hrun) _ _ _ _ h).trans (hbegin f _ _)

theorem performTyped_keeps {β : Type} {see : Field → β} (hr : r.Keeps see) {type : TypeTag}
    {f g : Field} {verb : String} (h : r.performTyped now d type f verb = .ok g) :
    see g = see f := by
  unfold performTyped at h
  split at h
  · cases h
    rfl
  · rename_i run hrun
    split at h
    · exact hr _ _ (.inr ⟨type, hrun⟩) _ _ _ _ h
    · cases h
      rfl

theorem performShared_endless (hshared : r.SharedEnd) {f m : Field} {c : Call}
    (h : r.performShared now d f c = .ok m) : m.endless = f.endless := by
  unfold performShared at h
  split at h
  · cases h
    rfl
  · rename_i run hrun
    exact (hshared _ _ hrun _ _ _ _ h).trans rfl

/-- Both parts of a call that passes have passed and come to their ends. -/
theorem perform_ok {type : TypeTag} {f g : Field} {c : Call} :
    r.perform now d type f c = .ok g ↔
      ∃ m, r.performShared now d f c = .ok m ∧ m.endless = false ∧
        r.performTyped now d type m c.verb = .ok g ∧ g.endless = false := by
  rw [perform, bind_ok]
  simp only [ended_ok, and_assoc]

theorem perform_failed {type : TypeTag} {f : Field} {c : Call} {e : Failure} :
    r.perform now d type f c = .error (.failed e) ↔
      r.performShared now d f c = .error e ∨
      ∃ m, r.performShared now d f c = .ok m ∧ m.endless = false ∧
        r.performTyped now d type m c.verb = .error e := by
  rw [perform, bind_error]
  simp only [ended_failed, ended_ok, and_assoc]

theorem perform_keeps {β : Type} {see : Field → β} (hr : r.Keeps see)
    (hbegin : ∀ f verb args, see (Field.begin f verb args) = see f) {type : TypeTag} {f g : Field}
    {c : Call} (h : r.perform now d type f c = .ok g) : see g = see f := by
  obtain ⟨m, hm, -, hg, -⟩ := perform_ok.mp h
  exact (performTyped_keeps hr hg).trans (performShared_keeps hr hbegin hm)

theorem runTyped_eq {f : Field} (verb : String) (hends : f.endless = false) :
    r.runTyped now d f verb = match r.performTyped now d f.type f verb with
      | .ok g => if g.endless then .stop g else .next g
      | .error e => .stop (f.record e) := by
  unfold runTyped performTyped
  cases r.typed? f.type verb with
  | none => simp [hends]
  | some run =>
    cases hrun : run now d f <;> cases f.hasValue <;> cases r.isEager f.type verb <;>
      simp [hrun, hends]

theorem runTyped_field (f : Field) (verb : String) :
    (r.runTyped now d f verb).field = match r.performTyped now d f.type f verb with
      | .ok g => g
      | .error e => f.record e := by
  unfold runTyped performTyped
  cases r.typed? f.type verb with
  | none => simp [Step.field]
  | some run =>
    cases hrun : run now d f with
    | error e => cases f.hasValue <;> cases r.isEager f.type verb <;> simp [hrun, Step.field]
    | ok g =>
      cases hg : g.endless <;> cases f.hasValue <;> cases r.isEager f.type verb <;>
        simp [hrun, hg, Step.field]

section Keeps

variable {β : Type} {see : Field → β} (hr : r.Keeps see)
  (hbegin : ∀ f verb args, see (Field.begin f verb args) = see f)
  (hrecord : ∀ f e, see (Field.record f e) = see f)
include hr hrecord

theorem runTyped_keeps (f : Field) (verb : String) :
    see (r.runTyped now d f verb).field = see f := by
  rw [runTyped_field]
  split
  · rename_i g hg
    exact performTyped_keeps hr hg
  · exact hrecord f _

include hbegin

theorem dispatch_keeps (f : Field) (c : Call) : see (r.dispatch now d f c).field = see f := by
  unfold dispatch
  cases hs : r.shared? c.verb with
  | none =>
    simp only
    split
    · exact hbegin f _ _
    · exact (runTyped_keeps hr hrecord _ _).trans (hbegin f _ _)
  | some run =>
    simp only
    split
    · exact (hrecord _ _).trans (hbegin f _ _)
    · rename_i g hg
      have hgf := (hr _ _ (.inl hs) _ _ _ _ hg).trans (hbegin f _ _)
      split
      · exact hgf
      · split
        · exact hgf
        · exact (runTyped_keeps hr hrecord _ _).trans hgf

/-- What no verb changes is the same at the end of a rule as at its start. -/
theorem trail_keeps (f : Field) (cs : List Call) : see (r.trail now d f cs).field = see f := by
  induction cs generalizing f with
  | nil => rfl
  | cons c cs ih =>
    have hd : see (r.dispatch now d f c).field = see f := dispatch_keeps hr hbegin hrecord f c
    cases hg : r.dispatch now d f c with
    | next g =>
      rw [hg] at hd
      rw [trail_cons_of_next _ _ _ _ hg]
      exact (ih g).trans hd
    | stop g =>
      rw [hg] at hd
      rw [trail_cons_of_stop _ _ _ _ hg]
      exact hd

end Keeps

variable (now d)

section Dispatch

variable {f : Field} {c : Call}

/-- On a field that has not failed the verb of every type goes first, and that of its own type only
after it. -/
theorem dispatch_eq (hfail : r.Keeps Field.failure) (hf : f.failure = none)
    (hends : f.endless = false) :
    r.dispatch now d f c = match r.performShared now d f c with
      | .error e => .stop ((f.begin c.verb c.args).record e)
      | .ok m => if m.endless then .stop m else r.runTyped now d m c.verb := by
  unfold dispatch performShared
  cases hs : r.shared? c.verb with
  | none => simp [Field.begin, hf, hends]
  | some run =>
    cases hg : run now d (f.begin c.verb c.args) with
    | error e => simp [hg]
    | ok m =>
      have hmf : m.failure = none := (hfail _ _ (.inl hs) _ _ _ _ hg).trans hf
      simp [hg, hmf]

/-- A field that has not failed goes on exactly when the call does not halt on it. -/
theorem dispatch_of_passing (hfail : r.Keeps Field.failure) (htype : r.Keeps Field.type)
    (c : Call) (hf : f.failure = none) (hends : f.endless = false) :
    (∃ g, r.perform now d f.type f c = .ok g ∧ g.failure = none ∧ g.endless = false ∧
      g.type = f.type ∧ r.dispatch now d f c = .next g) ∨
    (∃ h g, r.perform now d f.type f c = .error h ∧ g.outcome = h.outcome ∧
      g.failure = h.failure? ∧ r.dispatch now d f c = .stop g) := by
  rw [dispatch_eq now d hfail hf hends]
  cases hm : r.performShared now d f c with
  | error e =>
    refine .inr ⟨.failed e, (f.begin c.verb c.args).record e, ?_,
      Field.outcome_of_failed hends rfl, rfl, rfl⟩
    exact perform_failed.mpr (.inl hm)
  | ok m =>
    have hmt := performShared_keeps htype (fun _ _ _ => rfl) hm
    have hmf := (performShared_keeps hfail (fun _ _ _ => rfl) hm).trans hf
    cases hme : m.endless with
    | true =>
      refine .inr ⟨.endless, m, ?_, Field.outcome_of_endless hme, hmf, by simp [hme]⟩
      exact bind_error.mpr (.inl (ended_endless.mpr ⟨m, hm, hme⟩))
    | false =>
      have hp : r.perform now d f.type f c = ended (r.performTyped now d m.type m c.verb) := by
        simp [perform, hm, ended_ok.mpr ⟨rfl, hme⟩, hmt, bind, Except.bind]
      rw [hp]
      simp only [hme, Bool.false_eq_true, if_false, runTyped_eq _ hme]
      cases hg : r.performTyped now d m.type m c.verb with
      | error e =>
        exact .inr ⟨.failed e, m.record e, rfl, Field.outcome_of_failed hme rfl, rfl, rfl⟩
      | ok g =>
        have hgf := (performTyped_keeps hfail hg).trans hmf
        cases hge : g.endless with
        | true =>
          exact .inr ⟨.endless, g, by simp [ended, hge], Field.outcome_of_endless hge, hgf,
            by simp [hge]⟩
        | false =>
          exact .inl ⟨g, ended_ok.mpr ⟨rfl, hge⟩, hgf, hge, (performTyped_keeps htype hg).trans hmt,
            by simp [hge]⟩

/-- A field that has failed stops at a name that is no verb of every type, and else goes on exactly
when that verb does not fail. -/
theorem dispatch_of_failed (hfail : r.Keeps Field.failure) (hshared : r.SharedEnd) (c : Call)
    (hf : f.failure.isSome) (hends : f.endless = false) :
    (r.shared? c.verb = none ∧ r.dispatch now d f c = .stop (f.begin c.verb c.args)) ∨
    ((r.shared? c.verb).isSome ∧
      ((∃ g, r.performShared now d f c = .ok g ∧ g.failure = f.failure ∧ g.endless = false ∧
        r.dispatch now d f c = .next g) ∨
      (∃ e g, r.performShared now d f c = .error e ∧ g.failure = some e ∧ g.endless = false ∧
        r.dispatch now d f c = .stop g))) := by
  cases hs : r.shared? c.verb with
  | none => exact .inl ⟨rfl, by simp [dispatch, hs, Field.begin, hf]⟩
  | some run =>
    have hrun : r.performShared now d f c = run now d (f.begin c.verb c.args) := by
      simp [performShared, hs]
    refine .inr ⟨rfl, ?_⟩
    rw [hrun]
    cases hg : run now d (f.begin c.verb c.args) with
    | error e =>
      exact .inr ⟨e, (f.begin c.verb c.args).record e, rfl, rfl, hends, by simp [dispatch, hs, hg]⟩
    | ok g =>
      have hgf : g.failure = f.failure :=
        performShared_keeps hfail (fun _ _ _ => rfl) (hrun.trans hg)
      have hge : g.endless = false := (performShared_endless hshared (hrun.trans hg)).trans hends
      exact .inl ⟨g, rfl, hgf, hge, by simp [dispatch, hs, hg, hgf, hf, hge]⟩

end Dispatch

end Registry
end FieldRules
