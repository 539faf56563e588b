import FieldRules.Text.Rest

namespace FieldRules.Url.Punycode

/-- Letters count from 0, digits from 26. -/
def digit? (c : Char) : Option Nat :=
  if c.isLower then some (c.toNat - 'a'.toNat)
  else if c.isUpper then some (c.toNat - 'A'.toNat)
  else if c.isDigit then some (c.toNat - '0'.toNat + 26)
  else none

/-- Where digits below it end a number, for a digit of weight index `k`. -/
def threshold (bias k : Nat) : Nat :=
  if k ≤ bias then 1 else if bias + 26 ≤ k then 26 else k - bias

/-- A number whose digits so far have the value `n`, and the next digit of which weighs `weight`. -/
def readDelta (bias k weight n : Nat) : (cs : List Char) → Option (Nat × Rest cs)
  | [] => none
  | c :: cs => do
    let d ← digit? c
    let t := threshold bias k
    if d < t then return (n + d * weight, .next c cs)
    else do
      let (n, rest) ← readDelta bias (k + 36) (weight * (36 - t)) (n + d * weight) cs
      return (n, rest.cons c)

/-- Divides by 35 until at most 455 is left. -/
def shrink (delta k : Nat) : Nat :=
  if 455 < delta then shrink (delta / 35) (k + 36) else k + 36 * delta / (delta + 38)
termination_by delta

/-- The bias after a distance of `delta`, with `count` characters in place. -/
def adapt (first : Bool) (delta count : Nat) : Nat :=
  let delta := delta / (if first then 700 else 2)
  shrink (delta + delta / count) 0

/-- Puts characters of at least the code point `n` into `out`, the next one `i` places on. -/
def insertAll (first : Bool) (n i bias : Nat) (out cs : List Char) : Option (List Char) :=
  match cs with
  | [] => some out
  | c :: cs => do
    let (delta, ⟨rest, _⟩) ← readDelta bias 36 1 0 (c :: cs)
    let count := out.length + 1
    let n := n + (i + delta) / count
    let i := (i + delta) % count
    if !n.isValidChar then none
    insertAll false n (i + 1) (adapt first delta count)
      (out.take i ++ Char.ofNat n :: out.drop i) rest
termination_by cs.length
decreasing_by simp only [List.length_cons] at *; omega

/-- Reads a label; a hyphen in front of all else is no delimiter. -/
def decode? (cs : List Char) : Option (List Char) :=
  let tail := (cs.reverse.takeWhile (· ≠ '-')).reverse
  if tail.length + 1 < cs.length then
    insertAll true 128 0 72 (cs.take (cs.length - tail.length - 1)) tail
  else insertAll true 128 0 72 [] cs

end FieldRules.Url.Punycode
