import FieldRules.Text.Numeral
import FieldRules.Text.Basic

namespace FieldRules.Uuid

def isHex (c : Char) : Bool := (Text.hexValue? c).isSome

/-- Hyphens stand after 8, 12, 16 and 20 digits, and nowhere else. -/
def isGrouped (cs : List Char) : Bool :=
  match Text.split (· == '-') cs with
  | [a, b, c, d, e] =>
    (a ++ b ++ c ++ d ++ e).all isHex &&
      [a, b, c, d, e].map List.length == [8, 4, 4, 4, 12]
  | _ => false

def isValid (cs : List Char) : Bool :=
  (cs.length == 32 && cs.all isHex) || isGrouped cs ||
    (match cs with
      | '{' :: inner => inner.getLast? == some '\x7d' && isGrouped inner.dropLast
      | _ => false) ||
    (Text.lower (cs.take 9) == "urn:uuid:".toList && isGrouped (cs.drop 9))

end FieldRules.Uuid
