import FieldRules.Text.Numeral
import FieldRules.Text.Basic

namespace FieldRules.Unicode

/-- Code points from `first` on, `size` of them. -/
structure Span where
  first : Nat
  size : Nat

def Span.contains (s : Span) (n : Nat) : Bool := s.first ≤ n && n < s.first + s.size

def inSpans (spans : List Span) (c : Char) : Bool := spans.any (·.contains c.toNat)

def hexValue (cs : List Char) : Nat :=
  cs.foldl (fun n c => 16 * n + (Text.hexValue? c).getD 0) 0

/-- Spans from pairs of a gap after the span before and a size. -/
def spansFrom (start : Nat) : List (List Char) → List Span
  | gap :: size :: rest =>
    let first := start + hexValue gap
    ⟨first, hexValue size⟩ :: spansFrom (first + hexValue size) rest
  | _ => []

/-- The words of some rows, parted by spaces. -/
def words (rows : List String) : List (List Char) :=
  rows.flatMap fun row => Text.split (· == ' ') row.toList

/-- The spans of a table. All tables are those of Unicode 16. -/
def spans (rows : List String) : List Span := spansFrom 0 (words rows)

/-- A span of code points that share a code. -/
structure Run where
  span : Span
  code : String

/-- Runs from sizes, each with a code of `width` letters behind it; `fuel` bounds their number. -/
def runsFrom (width : Nat) : (fuel start : Nat) → List Char → List Run
  | 0, _, _ => []
  | fuel + 1, start, cs =>
    let isSize (c : Char) : Bool := c.isDigit || ('a' ≤ c && c ≤ 'f')
    let size := hexValue (cs.takeWhile isSize)
    let rest := cs.dropWhile isSize
    match rest with
    | [] => []
    | rest =>
      ⟨⟨start, size⟩, String.ofList (rest.take width)⟩ ::
        runsFrom width fuel (start + size) (rest.drop width)

def runs (width : Nat) (rows : List String) : List Run :=
  let table := rows.flatMap String.toList
  runsFrom width table.length 0 table

/-- Names compare without case, spaces, hyphens, underscores, and an `is` in front. -/
def looseName (name : List Char) : List Char :=
  let lowered := Text.lower name
  let isLed := lowered.take 2 == ['i', 's']
  let body := if isLed then lowered.drop 2 else lowered
  let kept := body.filter fun c => c != ' ' && c != '_' && c != '-' && c.toNat < 0x80
  if isLed && kept == ['c'] then ['i', 's', 'c'] else kept

def isNamed (names : List String) (loose : List Char) : Bool :=
  names.any fun n => looseName n.toList == loose

end FieldRules.Unicode
