import FieldRules.Proofs.FirstFailure

namespace FieldRules

namespace Registry

variable {now : Instant} {d : Document}

/-- A call that fails before all others but verbs of every type does so for the presence of a
value, not for its type. -/
theorem firstFailure_kind_ne {f : Field} {calls : List Call} {e : Failure} (type : TypeTag)
    (h : FirstFailure (standard.performShared now d) f calls e) : e.kind ≠ type.mismatchKind := by
  obtain ⟨_, c, _, _, g, _, hc⟩ := h
  unfold performShared at hc
  split at hc
  · cases hc
  · rename_i run hrun
    obtain ⟨v, -, rfl⟩ := shared?_standard.mp hrun
    intro hkind
    exact type.mismatchKind_not_mem (hkind ▸ SharedVerb.run_error_kind hc)

theorem dispatch_unknown (r : Registry) {f : Field} {c : Call}
    (h : r.knows f.type c.verb = false) :
    r.dispatch now d f c =
      if f.failure.isSome then .stop (f.begin c.verb c.args)
      else .next (f.begin c.verb c.args) := by
  have hs : r.shared? c.verb = none := by
    simpa using (Bool.or_eq_false_iff.mp h).1
  have ht : r.typed? f.type c.verb = none := by
    simpa using (Bool.or_eq_false_iff.mp h).2
  have hrun : r.runTyped now d (f.begin c.verb c.args) c.verb = .next (f.begin c.verb c.args) := by
    have ht' : r.typed? (f.begin c.verb c.args).type c.verb = none := ht
    simp [runTyped, ht']
  simp only [dispatch, hs, hrun]
  rfl

/-- Coercion failed, all calls of `xs` are verbs of every type and pass, and of those that come
right after them one fails. -/
def FailsForPresence (r : Registry) (now : Instant) (d : Document) (f : Field)
    (xs ys : List Call) : Prop :=
  f.failure.isSome ∧ r.sharedPrefix xs = xs ∧
    ∃ g e, xs.foldlM (r.performShared now d) f = .ok g ∧
      FirstFailure (r.performShared now d) g (r.sharedPrefix ys) e

theorem runCalls_unknown_of_passed {r : Registry} {f : Field} {u : Call} (ys : List Call)
    (hu : r.knows f.type u.verb = false) (hf : f.failure = none) :
    (r.runCalls now d f (u :: ys)).outcome = (r.runCalls now d f ys).outcome := by
  rw [runCalls, dispatch_unknown r hu, hf]
  exact r.runCalls_begin_outcome now d f u.verb u.args ys

theorem runCalls_unknown_of_failed {r : Registry} {f : Field} {u : Call} {e : Failure}
    (ys : List Call) (hu : r.knows f.type u.verb = false) (hf : f.failure = some e)
    (hends : f.endless = false) : (r.runCalls now d f (u :: ys)).outcome = .error e := by
  rw [runCalls, dispatch_unknown r hu, hf]
  exact Field.outcome_of_failed hends hf

/-- After a failed coercion the calls come to another failure exactly when one of them fails for
presence. -/
theorem runCalls_outcome_ne_iff {f : Field} {e : Failure} {type : TypeTag} (ys : List Call)
    (hf : f.failure = some e) (he : e.kind = type.mismatchKind) (hends : f.endless = false) :
    (standard.runCalls now d f ys).outcome ≠ .error e ↔
      ∃ e', FirstFailure (standard.performShared now d) f (standard.sharedPrefix ys) e' := by
  have hrun : standard.DecidedByPresence now d f e ys (standard.runCalls now d f ys).outcome :=
    runCalls_of_failed standard_keeps_failure standard_sharedEnd ys hf hends
  rcases hrun with ⟨⟨g, hg⟩, ho⟩ | ⟨e', he', ho⟩
  · simp [ho, firstFailure_iff, hg]
  · have hne : e' ≠ e := fun h => firstFailure_kind_ne type he' (h ▸ he)
    rw [ho, ne_eq, Outcome.error.injEq]
    exact ⟨fun _ => ⟨e', he'⟩, fun _ => hne⟩

/-- Whether a name is a verb depends on the declared type, which no call changes. -/
theorem knows_of_trail {f g : Field} {xs : List Call} (name : String)
    (h : standard.trail now d f xs = .next g) :
    standard.knows g.type name = standard.knows f.type name := by
  have htype : (standard.trail now d f xs).field.type = f.type :=
    trail_keeps standard_keeps_type (fun _ _ _ => rfl) (fun _ _ => rfl) f xs
  rw [h] at htype
  exact congrArg (standard.knows · name) htype

theorem runCalls_insert_of_passed {f : Field} {u : Call} (xs ys : List Call)
    (hu : standard.knows f.type u.verb = false) (hf : f.failure = none)
    (hends : f.endless = false) :
    (standard.runCalls now d f (xs ++ u :: ys)).outcome =
      (standard.runCalls now d f (xs ++ ys)).outcome := by
  rcases trail_of_passing standard_keeps_failure standard_keeps_type xs hf hends with
    ⟨g, -, hgf, -, ht⟩ | ⟨e, g, -, -, -, ht⟩
  · rw [runCalls_append_of_next _ _ _ _ ht, runCalls_append_of_next _ _ _ _ ht]
    exact runCalls_unknown_of_passed ys ((knows_of_trail u.verb ht).trans hu) hgf
  · rw [runCalls_append_of_stop _ _ _ _ ht, runCalls_append_of_stop _ _ _ _ ht]

theorem runCalls_insert_of_failed {f : Field} {u : Call} {e : Failure} {type : TypeTag}
    (xs ys : List Call) (hu : standard.knows f.type u.verb = false) (hf : f.failure = some e)
    (he : e.kind = type.mismatchKind) (hends : f.endless = false) :
    (standard.runCalls now d f (xs ++ u :: ys)).outcome =
        (standard.runCalls now d f (xs ++ ys)).outcome ↔
      ¬standard.FailsForPresence now d f xs ys := by
  have hsome : f.failure.isSome := by simp [hf]
  have hstop {g : Field} (ht : standard.trail now d f xs = .stop g) :
      (standard.runCalls now d f (xs ++ u :: ys)).outcome =
        (standard.runCalls now d f (xs ++ ys)).outcome := by
    rw [runCalls_append_of_stop _ _ _ _ ht, runCalls_append_of_stop _ _ _ _ ht]
  rcases trail_of_failed standard_keeps_failure standard_sharedEnd xs hsome hends with
    ⟨g, hall, hg, hgf, hgends, ht⟩ | ⟨m, g, hall, -, -, -, ht⟩ | ⟨e', g, he', -, -, ht⟩
  · -- Only here does `u` come to its turn; it stops the run with the failure of the type.
    have hge : g.failure = some e := hgf.trans hf
    rw [runCalls_append_of_next _ _ _ _ ht, runCalls_append_of_next _ _ _ _ ht,
      runCalls_unknown_of_failed ys ((knows_of_trail u.verb ht).trans hu) hge hgends, eq_comm,
      ← not_iff_not, not_not, ← ne_eq, runCalls_outcome_ne_iff ys hge he hgends]
    constructor
    · rintro ⟨e', he'⟩
      exact ⟨hsome, hall, g, e', hg, he'⟩
    · rintro ⟨-, -, g', e', hg', he'⟩
      have hgg : g' = g := Except.ok.inj (hg'.symm.trans hg)
      exact ⟨e', hgg ▸ he'⟩
  · exact iff_of_true (hstop ht) fun ⟨_, h, _⟩ => hall h
  · refine iff_of_true (hstop ht) ?_
    rintro ⟨-, hall, g', -, hg', -⟩
    rw [firstFailure_iff, hall, hg'] at he'
    cases he'

/-- Where the field stands when its calls reach the place of `u` decides what `u` does. -/
theorem runCalls_insert_iff {f : Field} {u : Call} (xs ys : List Call)
    (hu : standard.knows f.type u.verb = false)
    (hkind : ∀ e, f.failure = some e → ∃ type : TypeTag, e.kind = type.mismatchKind)
    (hends : f.endless = false) :
    (standard.runCalls now d f (xs ++ u :: ys)).outcome =
        (standard.runCalls now d f (xs ++ ys)).outcome ↔
      ¬standard.FailsForPresence now d f xs ys := by
  cases hf : f.failure with
  | none =>
    refine iff_of_true (runCalls_insert_of_passed xs ys hu hf hends) ?_
    rintro ⟨h, -⟩
    simp [hf] at h
  | some e =>
    obtain ⟨type, he⟩ := hkind e hf
    exact runCalls_insert_of_failed xs ys hu hf he hends

/-- A call that names no verb of the field, put anywhere behind the declared type, changes the
outcome of a rule exactly when coercion failed, the calls before it are verbs of every type that
pass, and one of those right behind it fails. -/
theorem insert_unknown_iff (now : Instant) (d : Document) {rule longer : String} {head u : Call}
    {xs ys : List Call} (hrule : scan rule = head :: (xs ++ ys))
    (hlonger : scan longer = head :: (xs ++ u :: ys))
    (hplace : head.parenthesized ∨ xs ≠ [] ∨ ∀ c ∈ ys.head?, c.isTag = false)
    (hword : head.parenthesized ∨ xs ≠ [] ∨ u.isTag = false)
    (hu : standard.knows ((declared? (declaredType head (xs ++ ys)).1).getD .any) u.verb = false) :
    standard.outcome now d longer = standard.outcome now d rule ↔
      ¬standard.FailsForPresence now d
        ((Field.ofDocument head.verb d).declare now (declaredType head xs).1)
        (declaredType head xs).2 ys := by
  have hd := declaredType_append ys hplace
  have hd' := declaredType_append (u :: ys) (by simpa using hword)
  rw [outcome_of_start? standard (start?_of_scan now d hrule),
    outcome_of_start? standard (start?_of_scan now d hlonger), hd, hd', Option.some.injEq]
  apply runCalls_insert_iff
  · rw [Field.declare_type rfl, ← hu, hd]
  · exact fun e he => Field.declare_failure_kind rfl rfl he
  · exact Field.declare_endless rfl

/-- An empty text is no Boolean; the unknown call comes after a verb of every type and before one
that fails. -/
theorem insert_unknown_between_shared :
    scan "a bool nullable required" =
      ⟨"a", [], false⟩ :: ([⟨"bool", [], false⟩, ⟨"nullable", [], false⟩] ++
        [⟨"required", [], false⟩]) ∧
    scan "a bool nullable shiny required" =
      ⟨"a", [], false⟩ :: ([⟨"bool", [], false⟩, ⟨"nullable", [], false⟩] ++
        ⟨"shiny", [], false⟩ :: [⟨"required", [], false⟩]) ∧
    standard.knows .bool "shiny" = false ∧
    (standard.outcome ⟨0, 0⟩ [("a", .text "")] "a bool nullable shiny required" =
        standard.outcome ⟨0, 0⟩ [("a", .text "")] "a bool nullable required" ↔
      ¬standard.FailsForPresence ⟨0, 0⟩ [("a", .text "")]
        ((Field.ofDocument "a" [("a", .text "")]).declare ⟨0, 0⟩ (some "bool"))
        [⟨"nullable", [], false⟩] [⟨"required", [], false⟩]) := by
  have hrule : scan "a bool nullable required" =
      ⟨"a", [], false⟩ :: ([⟨"bool", [], false⟩, ⟨"nullable", [], false⟩] ++
        [⟨"required", [], false⟩]) := by decide
  have hlonger : scan "a bool nullable shiny required" =
      ⟨"a", [], false⟩ :: ([⟨"bool", [], false⟩, ⟨"nullable", [], false⟩] ++
        ⟨"shiny", [], false⟩ :: [⟨"required", [], false⟩]) := by decide
  have hplace : [Call.mk "bool" [] false, Call.mk "nullable" [] false] ≠ [] := by simp
  exact ⟨hrule, hlonger, by decide, insert_unknown_iff ⟨0, 0⟩ [("a", .text "")] hrule hlonger
    (.inr (.inl hplace)) (.inr (.inl hplace)) (by decide)⟩

/-- An unknown call hides a missing value: the failure of the type is reported in its place. -/
theorem unknown_call_hides_required :
    scan "a bool required" =
      ⟨"a", [], false⟩ :: ([⟨"bool", [], false⟩] ++ [⟨"required", [], false⟩]) ∧
    scan "a bool shiny required" =
      ⟨"a", [], false⟩ :: ([⟨"bool", [], false⟩] ++
        ⟨"shiny", [], false⟩ :: [⟨"required", [], false⟩]) ∧
    standard.knows .bool "shiny" = false ∧
    standard.outcome ⟨0, 0⟩ [("a", .text "")] "a bool required" =
      some (.error (Failure.ofField "required" "a")) ∧
    standard.outcome ⟨0, 0⟩ [("a", .text "")] "a bool shiny required" =
      some (.error (Failure.ofField "type.bool" "a")) :=
  ⟨by decide, by decide, by decide, rfl, rfl⟩

end Registry
end FieldRules
