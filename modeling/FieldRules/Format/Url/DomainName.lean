import FieldRules.Format.Url.Punycode
import FieldRules.Text.Basic
import FieldRules.Unicode.Direction
import FieldRules.Unicode.Domain

namespace FieldRules.Url

/-- ASCII characters that no name holds: controls, the space and delimiters. -/
def isForbidden (c : Char) : Bool :=
  c.toNat ≤ 0x20 || c.toNat == 0x7F || "%#/:<>?@[\\]^|".toList.contains c

def isWide (c : Char) : Bool := 0x80 ≤ c.toNat

/-- What stands for a character in a name. -/
def nameText? (c : Char) : Option (List Char) := do
  let text ← if isWide c then Unicode.domainText? c else some [c.toLower]
  if text.any isForbidden then none else some text

def joiner : Char := '\u200d'

def nonJoiner : Char := '\u200c'

/-- Whether joiners stand only behind a virama, or the other kind between letters that it parts.
`before` is the text before, its last character first. -/
def joinersFit (before : List Char) : List Char → Bool
  | [] => true
  | c :: cs =>
    let behindVirama := before.head?.any Unicode.isVirama
    let parts :=
      (before.dropWhile Unicode.isTransparent).head?.any Unicode.joinsNext &&
        (cs.dropWhile Unicode.isTransparent).head?.any Unicode.joinsPrevious
    (if c == joiner then behindVirama
      else if c == nonJoiner then behindVirama || parts
      else true) && joinersFit (c :: before) cs

/-- No combining mark begins a label. -/
def isLabel (cs : List Char) : Bool := !cs.head?.any Unicode.isMark && joinersFit [] cs

/-- The prefix of labels that are written in Punycode. -/
def encodedPrefix : List Char := "xn--".toList

/-- The label in its own characters, if it is one. -/
def label? (cs : List Char) : Option (List Char) :=
  match Text.after? encodedPrefix cs with
  | none => if isLabel cs then some cs else none
  | some code => do
    let cs ← Punycode.decode? code
    if cs.any isWide ∧ isLabel cs ∧ (cs.filter isWide).all Unicode.isDomainChar ∧
        Text.after? encodedPrefix cs = none then
      some cs
    else none

/-- Whether a label keeps to the direction that it begins with, numbers and neutral characters
apart, and ends in it or in a number (RFC 5893). -/
def keepsDirection (cs : List Char) : Bool :=
  let ds := cs.map Unicode.direction
  let last := (ds.reverse.dropWhile (· == .mark)).head?
  match ds with
  | [] => true
  | .rightToLeft :: _ =>
    !ds.contains .leftToRight && !(ds.contains .europeanNumber && ds.contains .arabicNumber) &&
      last != some .neutral
  | .leftToRight :: _ =>
    !ds.contains .rightToLeft && !ds.contains .arabicNumber && last != some .neutral
  | _ => false

/-- Whether a label makes direction matter for the whole name. -/
def hasRightToLeft (cs : List Char) : Bool :=
  cs.any fun c => Unicode.direction c == .rightToLeft || Unicode.direction c == .arabicNumber

/-- Labels of a name in lower case; those in Punycode stay so. -/
def labels? (cs : List Char) : Option (List (List Char)) := do
  let parts := Text.split (· == '.') (← cs.mapM nameText?).flatten
  let shown ← parts.mapM label?
  if shown.any hasRightToLeft ∧ !shown.all keepsDirection then none else some parts

end FieldRules.Url
