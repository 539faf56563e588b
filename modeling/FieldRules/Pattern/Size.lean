import FieldRules.Pattern.Basic

namespace FieldRules.Pattern

open Unicode (CodeSet)

/-- Ranges of bytes at the places of an encoded character, lead byte first. -/
abbrev ByteRanges := List (Nat × Nat)

/-- UTF-8 of a code point of `length` bytes. -/
def encode (length n : Nat) : List Nat :=
  if length = 1 then [n]
  else
    let lead := 256 - Nat.pow 2 (8 - length) + n / Nat.pow 64 (length - 1)
    lead :: (List.range (length - 1)).map fun i => 0x80 + n / Nat.pow 64 (length - 2 - i) % 64

/-- Code points from `first` to `last`, all of `length` bytes, as products of byte ranges. A block
of `64 ^ level` code points is split off where the range does not fill its blocks. -/
def products (length : Nat) : (level first last : Nat) → List ByteRanges
  | 0, first, last => [(encode length first).zip (encode length last)]
  | level + 1, first, last =>
    let block := Nat.pow 64 (level + 1)
    if first / block = last / block then products length level first last
    else
      let low := if first % block = 0 then first else (first / block + 1) * block
      let high := if (last + 1) % block = 0 then last + 1 else last / block * block
      (if first < low then products length level first (low - 1) else []) ++
        (if low < high then
          [(encode length low).zip (encode length (high - 1))] else []) ++
        (if high ≤ last then products length level high last else [])

/-- Code points with encodings of one to four bytes, without the surrogates. -/
def encodedRanges : List (Nat × Nat × Nat) :=
  [(1, 0, 0x7F), (2, 0x80, 0x7FF), (3, 0x800, 0xD7FF), (3, 0xE000, 0xFFFF), (4, 0x10000, 0x10FFFF)]

def rangesFrom : List Nat → List (Nat × Nat)
  | [] => []
  | [first] => [(first, 0x10FFFF)]
  | first :: stop :: flips => (first, stop - 1) :: rangesFrom flips

/-- The encodings of a set's characters. -/
def encodings (s : CodeSet) : List ByteRanges :=
  (rangesFrom s.flips).flatMap fun (first, last) => encodedRanges.flatMap fun (length, low, high) =>
    let (first, last) := (max first low, min last high)
    if first ≤ last then products length (length - 1) first last else []

/-- Steps that a product of byte ranges does not share with the one before it. -/
def newSteps : ByteRanges → ByteRanges → Nat
  | r :: rs, q :: qs => if r = q then newSteps rs qs else (r :: rs).length
  | rs, _ => rs.length

def countSteps (before : ByteRanges) : List ByteRanges → Nat
  | [] => 0
  | r :: rs => newSteps r before + countSteps r rs

/-- Bytes of a state of the automaton. -/
def stateSize : Nat := 32

def setSize (s : CodeSet) : Nat :=
  match s.flips with
  | [first, stop] =>
    if stop = first + 1 then stateSize * (Char.ofNat first).utf8Size else wide s
  | _ => wide s
where
  wide (s : CodeSet) : Nat :=
    let codes := encodings s
    if codes.all (·.length == 1) then 2 * stateSize + 8 * codes.length
    else (countSteps [] codes + 2) * stateSize + 4 * codes.length

mutual
def size : Pattern → Nat
  | flags => stateSize
  | set s _ => setSize s
  | look _ => stateSize
  | group .plain p => p.size
  | group _ p => 2 * stateSize + p.size
  | times min none p => Nat.max min 1 * p.size + 2 * stateSize + 8
  | times min (some max) p => min * p.size + (max - min) * (p.size + stateSize + 8) + stateSize
  | concat ps => sizeOfAll ps
  | either ps => 2 * stateSize + sizeOfAll ps

def sizeOfAll : List Pattern → Nat
  | [] => 0
  | p :: ps => p.size + sizeOfAll ps
end

def sizeLimit : Nat := 10 * 1024 * 1024

end FieldRules.Pattern
