import FieldRules.Unicode.Category
import FieldRules.Unicode.Property

namespace FieldRules.Unicode

/-- Assigned characters that a name cannot hold, or that stand for a delimiter. -/
def refusedTable : List String := [
  "80 21 7 1 6 1 4 1 3 1 21f 6 9c 1 9 2 27a 6 16 1 c0 1 31 1 180 2 50 1 d9d 1 93c 1 1 3 b 3 d 3",
  "d 2 e 2 1 b 3 2 7 1 c 3 1 8 e 1 8 3 15 1 6 4 96 2 3 2 381 14 5d8 1 57b 11 9a 2 152 1 1d2 1",
  "4 1 10 1 ac27 1900 35e 6 196 2 16 2 2 1 2 1 16 1 16 6 5 1 2 2 8 1 4 2 2 1 1 2 4 1 1 1 1 1",
  "1 1 1 1 1 1 1 1 1 1 84 1 1 1 9 1 a 1 1 1 1 3 1a 4 1d 1 86 1 15 5 10bf 1 f 1 2362 10 bcc0 1",
  "c0f00 1 1e 60 ff80 fffe 2 fffe"]

/-- Characters that a name drops. -/
def droppedTable : List String := [
  "ad 1 2a1 1 e0f 2 653 2 55 5 7fb 1 54 5 5 6 10f4 1 cc9b 10 ef 1 a0 1 bcff 4 14cf 8 c2f85 f0"]

/-- Runs of characters that stand for consecutive ASCII characters or sound marks: the first of
them, their number, and the first that they stand for. -/
def shiftTable : List String := [
  "aa 1 61 b2 2 32 b9 1 31 ba 1 6f 17f 1 73 2b0 1 68 2b2 1 6a 2b3 1 72 2b7 1 77 2b8 1 79",
  "2e1 1 6c 2e2 1 73 2e3 1 78 37e 1 3b 1d2c 1 61 1d2e 1 62 1d30 2 64 1d33 8 67 1d3c 1 6f",
  "1d3e 1 70 1d3f 1 72 1d40 2 74 1d42 1 77 1d43 1 61 1d47 1 62 1d48 2 64 1d4d 1 67 1d4f 1 6b",
  "1d50 1 6d 1d52 1 6f 1d56 1 70 1d57 2 74 1d5b 1 76 1d62 1 69 1d63 1 72 1d64 2 75 1d9c 1 63",
  "1da0 1 66 1dbb 1 7a 1fef 1 60 2070 1 30 2071 1 69 2074 6 34 207a 1 2b 207c 1 3d 207d 2 28",
  "207f 1 6e 2080 a 30 208a 1 2b 208c 1 3d 208d 2 28 2090 1 61 2091 1 65 2092 1 6f 2093 1 78",
  "2095 1 68 2096 4 6b 209a 1 70 209b 2 73 2102 1 63 210a 2 67 210c 1 68 210d 1 68 210e 1 68",
  "2110 1 69 2111 1 69 2112 1 6c 2113 1 6c 2115 1 6e 2119 3 70 211c 1 72 211d 1 72 2124 1 7a",
  "2128 1 7a 212a 1 6b 212c 2 62 212f 1 65 2130 2 65 2133 1 6d 2134 1 6f 2139 1 69 2145 1 64",
  "2146 2 64 2148 2 69 2160 1 69 2164 1 76 2169 1 78 216c 1 6c 216d 2 63 216f 1 6d 2170 1 69",
  "2174 1 76 2179 1 78 217c 1 6c 217d 2 63 217f 1 6d 2460 9 31 24b6 1a 61 24d0 1a 61 24ea 1 30",
  "2c7c 1 6a 2c7d 1 76 3002 1 2e a7f2 1 63 a7f3 1 66 a7f4 1 71 fb29 1 2b fe10 1 2c fe14 1 3b",
  "fe15 1 21 fe33 1 5f fe34 1 5f fe35 2 28 fe37 1 7b fe38 1 7d fe4d 1 5f fe4e 1 5f fe4f 1 5f",
  "fe50 1 2c fe54 1 3b fe57 1 21 fe59 2 28 fe5b 1 7b fe5c 1 7d fe60 1 26 fe61 2 2a fe63 1 2d",
  "fe66 1 3d fe69 1 24 ff01 2 21 ff04 1 24 ff06 9 26 ff10 a 30 ff1b 1 3b ff1d 1 3d ff21 1a 61",
  "ff3f 1d 5f ff5d 2 7d ff61 1 2e 107a5 1 71 1ccd6 1a 61 1ccf0 a 30 1d400 1a 61 1d41a 1a 61",
  "1d434 1a 61 1d44e 7 61 1d456 12 69 1d468 1a 61 1d482 1a 61 1d49c 1 61 1d49e 2 63 1d4a2 1 67",
  "1d4a5 2 6a 1d4a9 4 6e 1d4ae 8 73 1d4b6 4 61 1d4bb 1 66 1d4bd 7 68 1d4c5 b 70 1d4d0 1a 61",
  "1d4ea 1a 61 1d504 2 61 1d507 4 64 1d50d 8 6a 1d516 7 73 1d51e 1a 61 1d538 2 61 1d53b 4 64",
  "1d540 5 69 1d546 1 6f 1d54a 7 73 1d552 1a 61 1d56c 1a 61 1d586 1a 61 1d5a0 1a 61 1d5ba 1a 61",
  "1d5d4 1a 61 1d5ee 1a 61 1d608 1a 61 1d622 1a 61 1d63c 1a 61 1d656 1a 61 1d670 1a 61",
  "1d68a 1a 61 1d7ce a 30 1d7d8 a 30 1d7e2 a 30 1d7ec a 30 1d7f6 a 30 1f12b 1 63 1f12c 1 72",
  "1f130 1a 61 1fbf0 a 30 ff9e 2 3099"]

/-- Runs of characters that stand for consecutive numbers of two digits. -/
def numberTable : List String := [
  "2469 b a 3251 f 15 32b1 f 24"]

def refusedSpans : List Span := spans refusedTable

def droppedSpans : List Span := spans droppedTable

structure Shift where
  first : Nat
  size : Nat
  target : Nat

def shiftsFrom : List (List Char) → List Shift
  | a :: b :: c :: rest => ⟨hexValue a, hexValue b, hexValue c⟩ :: shiftsFrom rest
  | _ => []

def shifts : List Shift := shiftsFrom (words shiftTable)

def numberShifts : List Shift := shiftsFrom (words numberTable)

/-- What a code point stands for. -/
def shifted? (runs : List Shift) (n : Nat) : Option Nat :=
  (runs.find? fun s => s.first ≤ n && n < s.first + s.size).map fun s => s.target + (n - s.first)

def isUnassigned (c : Char) : Bool :=
  categoryRuns.any fun r => r.code == "Cn" && r.span.contains c.toNat

def foldedSpans : List Span := propertySpans "Changes_When_NFKC_Casefolded"

/-- Characters that names hold although folding changes them. -/
def isKept (c : Char) : Bool := ['ß', 'ς', '‌', '‍'].contains c

/-- Whether a name can hold a character beyond ASCII as it is. -/
def isDomainChar (c : Char) : Bool :=
  isKept c || (!isUnassigned c && !inSpans refusedSpans c && !inSpans foldedSpans c &&
    (shifted? shifts c.toNat).isNone)

/-- What stands for a character beyond ASCII in a name; other than ASCII it stays as it is. -/
def domainText? (c : Char) : Option (List Char) :=
  if isUnassigned c || inSpans refusedSpans c then none
  else if inSpans droppedSpans c then some []
  else match shifted? shifts c.toNat, shifted? numberShifts c.toNat with
    | some n, _ => some [Char.ofNat n]
    | none, some n => some (Nat.toDigits 10 n)
    | none, none => some [c]

end FieldRules.Unicode
