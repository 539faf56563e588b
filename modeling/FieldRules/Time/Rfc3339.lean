import FieldRules.Time.Instant
import FieldRules.Text.Basic
import FieldRules.Text.Numeral

namespace FieldRules.Rfc3339

inductive Error where
  | tooShort | invalid | outOfRange | tooLong
  deriving DecidableEq

def Error.message : Error → String
  | tooShort => "premature end of input"
  | invalid => "input contains invalid characters"
  | outOfRange => "input is out of range"
  | tooLong => "trailing input"

/-- A year in four digits; one outside 0000 to 9999 has a sign. -/
def year (y : Int) : List Char :=
  let ds := Text.padded 4 y.natAbs
  if 0 ≤ y ∧ y ≤ 9999 then ds else (if y < 0 then '-' else '+') :: ds

def dateText (d : Date) : List Char :=
  year d.year ++ '-' :: Text.padded 2 d.month ++ '-' :: Text.padded 2 d.day

def hour (t : Instant) : Nat := t.secondOfDay / 3600

def minute (t : Instant) : Nat := t.secondOfDay / 60 % 60

/-- Fraction of a second, in thousandths, millionths or billionths, whichever first suffice. -/
def fraction (nanos : Nat) : List Char :=
  if nanos = 0 then []
  else if nanos % 1000000 = 0 then '.' :: Text.padded 3 (nanos / 1000000)
  else if nanos % 1000 = 0 then '.' :: Text.padded 6 (nanos / 1000)
  else '.' :: Text.padded 9 nanos

/-- The text of an instant. A leap second is written as second 60. -/
def writeChars (t : Instant) : List Char :=
  let leap := Instant.billion ≤ t.nanos
  let second := t.secondOfDay % 60 + (if leap then 1 else 0)
  let nanos := if leap then t.nanos - Instant.billion else t.nanos
  dateText t.date ++ 'T' :: Text.padded 2 (hour t) ++ ':' :: Text.padded 2 (minute t) ++
    ':' :: Text.padded 2 second ++ fraction nanos ++ ['Z']

def write (t : Instant) : String := String.ofList (writeChars t)

def digit : List Char → Except Error (Nat × List Char)
  | [] => .error .tooShort
  | c :: cs => if c.isDigit then .ok (c.toNat - '0'.toNat, cs) else .error .invalid

def twoDigits (cs : List Char) : Except Error (Nat × List Char) := do
  let (a, cs) ← digit cs
  let (b, cs) ← digit cs
  return (10 * a + b, cs)

def fourDigits (cs : List Char) : Except Error (Nat × List Char) := do
  let (a, cs) ← twoDigits cs
  let (b, cs) ← twoDigits cs
  return (100 * a + b, cs)

def expect (p : Char → Bool) : List Char → Except Error (List Char)
  | [] => .error .tooShort
  | c :: cs => if p c then .ok cs else .error .invalid

def readDate (cs : List Char) : Except Error (Date × List Char) := do
  let (y, cs) ← fourDigits cs
  let cs ← expect (· == '-') cs
  let (m, cs) ← twoDigits cs
  let cs ← expect (· == '-') cs
  let (d, cs) ← twoDigits cs
  let date : Date := ⟨y, m, d⟩
  if date.isValid then return (date, cs) else throw .outOfRange

/-- Nanoseconds of a fraction behind its point; digits after the ninth are dropped. -/
def readFraction (cs : List Char) : Except Error (Nat × List Char) :=
  let ds := cs.takeWhile Char.isDigit
  let nine := ds.take 9
  if ds ≠ [] then
    .ok (Text.digitsValue nine * Nat.pow 10 (9 - nine.length), cs.dropWhile Char.isDigit)
  else if cs = [] then .error .tooShort
  else .error .invalid

/-- Second of the day and nanoseconds. Second 60 is a leap second of any minute. -/
def readTime (cs : List Char) : Except Error (Nat × Nat × List Char) := do
  let (h, cs) ← twoDigits cs
  let cs ← expect (· == ':') cs
  let (m, cs) ← twoDigits cs
  let cs ← expect (· == ':') cs
  let (s, cs) ← twoDigits cs
  let (nanos, cs) ← match cs with
    | '.' :: cs => readFraction cs
    | cs => pure (0, cs)
  let (s, nanos) := if s = 60 then (59, nanos + Instant.billion) else (s, nanos)
  if h < 24 ∧ m < 60 ∧ s < 60 then return (3600 * h + 60 * m + s, nanos, cs) else throw .outOfRange

/-- A pair of digits of an offset; both have to be there before either is looked at. -/
def offsetDigits (cs : List Char) : Except Error (Nat × List Char) :=
  if Text.byteLength cs < 2 then .error .tooShort
  else match twoDigits cs with
    | .ok r => .ok r
    | .error _ => .error .invalid

/-- Seconds east of universal time. The sign may be U+2212. -/
def readOffset (cs : List Char) : Except Error (Int × List Char) :=
  match cs with
  | [] => .error .tooShort
  | c :: cs =>
    if c = 'Z' ∨ c = 'z' then .ok (0, cs)
    else if c = '+' ∨ c = '-' ∨ c = '\u2212' then do
      let (h, cs) ← offsetDigits cs
      let cs ← expect (· == ':') cs
      let (m, cs) ← offsetDigits cs
      let seconds : Int := 3600 * h + 60 * m
      if m < 60 then return (if c = '+' then seconds else -seconds, cs) else throw .outOfRange
    else .error .invalid

/-- A text begins with a date and a time to the second, 19 bytes together. Its offset is less than a
day. -/
def readChars (cs : List Char) : Except Error Instant :=
  if Text.byteLength cs < 19 then .error .tooShort
  else do
    let (date, cs) ← readDate cs
    let cs ← expect (fun c => c == 'T' || c == 't' || c == ' ') cs
    let (second, nanos, cs) ← readTime cs
    let (offset, cs) ← readOffset cs
    if cs ≠ [] then throw .tooLong
    else if offset.natAbs < Instant.secondsPerDay then
      return ⟨date.toDays * Instant.secondsPerDay + second - offset, nanos⟩
    else throw .outOfRange

def read (text : String) : Except Error Instant := readChars text.toList

end FieldRules.Rfc3339

namespace FieldRules

/-- The way messages show an instant. -/
def formatDate (t : Instant) : String :=
  String.ofList (Rfc3339.dateText t.date ++ '/' :: Text.padded 2 (Rfc3339.hour t) ++
    ':' :: Text.padded 2 (Rfc3339.minute t))

end FieldRules
