import FieldRules.Time.Calendar

namespace FieldRules

/-- Seconds since 1970 and nanoseconds from there; inside a leap second, which counts as part of
the second before it, the nanoseconds go on from 10 ^ 9. -/
structure Instant where
  secs : Int
  nanos : Nat
  deriving DecidableEq

namespace Instant

def lt (a b : Instant) : Bool := a.secs < b.secs || (a.secs == b.secs && a.nanos < b.nanos)

def le (a b : Instant) : Bool := !lt b a

def secondsPerDay : Int := 86400

def days (t : Instant) : Int := t.secs / secondsPerDay

def secondOfDay (t : Instant) : Nat := (t.secs % secondsPerDay).toNat

def date (t : Instant) : Date := Date.ofDays t.days

/-- Start of the day. -/
def midnight (t : Instant) : Instant := ⟨t.days * secondsPerDay, 0⟩

def billion : Nat := 1000000000

/-- Moves by whole seconds. Moving on from inside a leap second leaves it first: forward from the
second before it, back from the second after it. -/
def addSeconds (t : Instant) (n : Int) : Instant :=
  if t.nanos < billion ∨ n = 0 then ⟨t.secs + n, t.nanos⟩
  else if 0 < n then ⟨t.secs + n, t.nanos - billion⟩
  else ⟨t.secs + 1 + n, t.nanos - billion⟩

def addDays (t : Instant) (n : Int) : Instant := t.addSeconds (n * secondsPerDay)

theorem days_midnight (t : Instant) : t.midnight.days = t.days := by
  simp only [midnight, days, secondsPerDay]; omega

end Instant
end FieldRules
