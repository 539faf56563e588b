namespace FieldRules

structure Date where
  year : Int
  month : Nat
  day : Nat
  deriving DecidableEq

namespace Date

def isLeap (year : Int) : Bool := year % 4 == 0 && (year % 100 != 0 || year % 400 == 0)

def daysInMonth (year : Int) (month : Nat) : Nat :=
  if month = 2 then if isLeap year then 29 else 28
  else if month = 4 ∨ month = 6 ∨ month = 9 ∨ month = 11 then 30
  else 31

def isValid (d : Date) : Bool :=
  1 ≤ d.month && d.month ≤ 12 && 1 ≤ d.day && d.day ≤ daysInMonth d.year d.month

/-- Days from 0000-03-01 to 1970-01-01. -/
def epoch : Int := 719468

/-- Days of a March year before its month `m`, March being 0. -/
def daysBefore (m : Int) : Int := (153 * m + 2) / 5

def toDays (d : Date) : Int :=
  -- Years are taken from March on, so that a leap day ends its year.
  let y := if d.month ≤ 2 then d.year - 1 else d.year
  let m : Int := if d.month ≤ 2 then d.month + 9 else d.month - 3
  365 * y + y / 4 - y / 100 + y / 400 + daysBefore m + d.day - 1 - epoch

def ofDays (n : Int) : Date :=
  let n := n + epoch
  let cycle := n / 146097
  let inCycle := n % 146097
  let century := min 3 (inCycle / 36524)
  let inCentury := inCycle - 36524 * century
  let four := inCentury / 1461
  let inFour := inCentury % 1461
  let one := min 3 (inFour / 365)
  let inYear := inFour - 365 * one
  let y := 400 * cycle + 100 * century + 4 * four + one
  let m := (5 * inYear + 2) / 153
  let day := inYear - daysBefore m + 1
  ⟨if m < 10 then y else y + 1, (if m < 10 then m + 3 else m - 9).toNat, day.toNat⟩

end Date
end FieldRules
