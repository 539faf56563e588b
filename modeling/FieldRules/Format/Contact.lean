import FieldRules.Text.Blank
import FieldRules.Text.Basic

namespace FieldRules.Contact

def isMailboxChar (c : Char) : Bool :=
  c.isAlphanum || ".!#$%&\x27*+/=?^_\x60\x7b|\x7d~-".toList.contains c

/-- A part of a domain: 1 to 63 letters, digits and inner hyphens. -/
def isLabel (cs : List Char) : Bool :=
  0 < cs.length && cs.length ≤ 63 && cs.all (fun c => c.isAlphanum || c == '-') &&
    cs.head? != some '-' && cs.getLast? != some '-'

def isDomain (cs : List Char) : Bool := (Text.split (· == '.') cs).all isLabel

def isEmail (cs : List Char) : Bool :=
  match Text.split (· == '@') cs with
  | [mailbox, domain] => mailbox != [] && mailbox.all isMailboxChar && isDomain domain
  | _ => false

/-- Eleven digits that begin with 09. -/
def isMobile (cs : List Char) : Bool :=
  cs.length == 11 && cs.all Char.isDigit && cs.take 2 == ['0', '9']

/-- Eleven digits that begin with 01 to 08. -/
def isPhone (cs : List Char) : Bool :=
  cs.length == 11 && cs.all Char.isDigit &&
    (match cs with
      | z :: a :: _ => z == '0' && '1' ≤ a && a ≤ '8'
      | _ => false)

/-- A letter, then one or more letters, digits, hyphens and underscores. -/
def isUsername (cs : List Char) : Bool :=
  match cs with
  | c :: d :: rest => c.isAlpha && (d :: rest).all fun c => c.isAlphanum || c == '-' || c == '_'
  | _ => false

/-- Some character, and all of them accepted by `p` or blank. -/
def isWords (p : Char → Bool) (cs : List Char) : Bool :=
  cs != [] && cs.all fun c => p c || Text.isBlank c

def isArabicBlock (c : Char) : Bool := 0x600 ≤ c.toNat && c.toNat ≤ 0x6FF

end FieldRules.Contact
