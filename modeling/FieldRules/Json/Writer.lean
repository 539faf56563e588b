import FieldRules.Json.Basic
import FieldRules.Decimal.Notation
import FieldRules.Text.Numeral

namespace FieldRules.Json

/-- A character inside quotes. -/
def escapeChar (c : Char) : List Char :=
  match c with
  | '"' => ['\\', '"']
  | '\\' => ['\\', '\\']
  | '\x08' => ['\\', 'b']
  | '\x0c' => ['\\', 'f']
  | '\n' => ['\\', 'n']
  | '\r' => ['\\', 'r']
  | '\t' => ['\\', 't']
  | c => if c.toNat < 0x20 then '\\' :: 'u' :: Text.hexPadded 4 c.toNat else [c]

def quoted (cs : List Char) : List Char := '"' :: cs.flatMap escapeChar ++ ['"']

/-- Pieces with a comma between them. -/
def commaSeparated : List (List Char) → List Char
  | [] => []
  | [x] => x
  | x :: y :: xs => x ++ ',' :: commaSeparated (y :: xs)

mutual
def compact : Json → List Char
  | .null => "null".toList
  | .bool b => (if b then "true" else "false").toList
  | .whole n => (toString n).toList
  | .float x => Decimal.pointed x
  | .text s => quoted s.toList
  | .list items => '[' :: commaSeparated (compactItems items) ++ [']']
  | .object members => '{' :: commaSeparated (compactMembers members) ++ ['\x7d']

def compactItems : List Json → List (List Char)
  | [] => []
  | j :: js => compact j :: compactItems js

def compactMembers : List (String × Json) → List (List Char)
  | [] => []
  | (k, j) :: ms => (quoted k.toList ++ ':' :: compact j) :: compactMembers ms
end

def newline (level : Nat) : List Char := '\n' :: List.replicate (2 * level) ' '

/-- Pieces on lines of their own inside a pair of brackets. -/
def block (level : Nat) (opening closing : Char) (pieces : List (List Char)) : List Char :=
  match pieces with
  | [] => [opening, closing]
  | pieces =>
    opening :: commaSeparated (pieces.map fun p => newline (level + 1) ++ p) ++
      newline level ++ [closing]

mutual
def indented (level : Nat) : Json → List Char
  | .list items => block level '[' ']' (indentedItems (level + 1) items)
  | .object members => block level '{' '\x7d' (indentedMembers (level + 1) members)
  | .null => compact .null
  | .bool b => compact (.bool b)
  | .whole n => compact (.whole n)
  | .float x => compact (.float x)
  | .text s => compact (.text s)

def indentedItems (level : Nat) : List Json → List (List Char)
  | [] => []
  | j :: js => indented level j :: indentedItems level js

def indentedMembers (level : Nat) : List (String × Json) → List (List Char)
  | [] => []
  | (k, j) :: ms =>
    (quoted k.toList ++ ':' :: ' ' :: indented level j) :: indentedMembers level ms
end

def write (j : Json) : String := String.ofList (compact j)

def writeIndented (j : Json) : String := String.ofList (indented 0 j)

end FieldRules.Json
