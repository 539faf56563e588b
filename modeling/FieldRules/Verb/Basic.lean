import FieldRules.Field.Basic

namespace FieldRules

/-- What a verb does with a field of a document at an instant: it passes on a field or fails, and a
verb that never ends passes the field on as endless. No verb changes the field and then fails: a
caller's own that leaves another name or value beside its failure is not modelled. -/
abbrev Handler := (now : Instant) → Document → Field → Except Failure Field

/-- Fails with `e` unless `ok`. -/
def Field.verify (f : Field) (ok : Bool) (e : Failure) : Except Failure Field :=
  if ok then .ok f else .error e

end FieldRules
