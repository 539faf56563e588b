import FieldRules.Verb.Basic
import FieldRules.Time.Phrase

namespace FieldRules

inductive DateVerb where
  | after | before | between
  deriving DecidableEq

namespace DateVerb

def all : List DateVerb := [after, before, between]

def name : DateVerb → String
  | after => "after"
  | before => "before"
  | between => "between"

def argInstant (now : Instant) (f : Field) (i : Nat) : Except Failure Instant := do
  f.require (readDatePhrase (← f.arg i) now).toOption

/-- Shows the value, then the bounds. -/
def outOfRange (f : Field) (kind : String) (t : Instant) (bounds : List Instant) : Failure :=
  (t :: bounds).foldl (fun e b => e.withText (formatDate b)) (f.fail kind)

def run : DateVerb → Handler
  | after, now, _, f => do
    let limit ← argInstant now f 0
    let t ← f.instant
    f.verify (limit.lt t) (outOfRange f "date.after" t [limit])
  | before, now, _, f => do
    let limit ← argInstant now f 0
    let t ← f.instant
    f.verify (t.lt limit) (outOfRange f "date.before" t [limit])
  | between, now, _, f => do
    let low ← argInstant now f 0
    let high ← argInstant now f 1
    let t ← f.instant
    f.verify (low.le t && t.le high) (outOfRange f "date.between" t [low, high])

end DateVerb
end FieldRules
