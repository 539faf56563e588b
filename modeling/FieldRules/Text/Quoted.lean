import FieldRules.Unicode.Category
import FieldRules.Unicode.Property

namespace FieldRules.Text.Quoted

/-- Controls, formats, separators other than the space, and code points without a character. -/
def invisibleSpans : List Unicode.Span :=
  Unicode.categorySpans ["Cc", "Cf", "Cs", "Co", "Cn", "Zl", "Zp", "Zs"]

/-- Marks that are drawn onto the character before. -/
def extendSpans : List Unicode.Span := Unicode.propertySpans "Grapheme_Extend"

def isVisible (c : Char) : Bool :=
  if c.toNat < 0x7F then 0x20 ≤ c.toNat
  else !Unicode.inSpans extendSpans c && !Unicode.inSpans invisibleSpans c

def code (c : Char) : List Char := '\\' :: 'u' :: '{' :: hex c.toNat ++ ['\x7d']

def escape (c : Char) : List Char :=
  match c with
  | '\x00' => ['\\', '0']
  | '\t' => ['\\', 't']
  | '\r' => ['\\', 'r']
  | '\n' => ['\\', 'n']
  | '\\' => ['\\', '\\']
  | '"' => ['\\', '"']
  | c => if isVisible c then [c] else code c

def quote (cs : List Char) : List Char := '"' :: cs.flatMap escape ++ ['"']

end FieldRules.Text.Quoted
