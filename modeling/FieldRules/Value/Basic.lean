import FieldRules.Entries
import FieldRules.Decimal.Binary64
import FieldRules.Time.Instant

namespace FieldRules

/-- Bytes, instants and integers only come out of coercion and of verbs. -/
inductive Value where
  | null
  | bool (b : Bool)
  | number (x : Float)
  | integer (n : Int64)
  | text (s : String)
  | bytes (data : List UInt8) (mime : Option String)
  | timestamp (t : Instant)
  | sequence (items : List Value)
  | mapping (entries : List (String × Value))

/-- Field names and values. -/
abbrev Document := Entries Value

namespace Value

mutual
/-- Equality, by which no NaN equals itself and the two zeros are equal. -/
def beq : Value → Value → Bool
  | .null, .null => true
  | .bool a, .bool b => a == b
  | .number a, .number b => a == b
  | .integer a, .integer b => a == b
  | .text a, .text b => a == b
  | .bytes a m, .bytes b n => a == b && m == n
  | .timestamp a, .timestamp b => a == b
  | .sequence as, .sequence bs => beqItems as bs
  | .mapping as, .mapping bs => beqEntries as bs
  | _, _ => false

def beqItems : List Value → List Value → Bool
  | [], [] => true
  | a :: as, b :: bs => beq a b && beqItems as bs
  | _, _ => false

def beqEntries : List (String × Value) → List (String × Value) → Bool
  | [], [] => true
  | (j, a) :: as, (k, b) :: bs => j == k && beq a b && beqEntries as bs
  | _, _ => false
end

instance : BEq Value := ⟨beq⟩

def text? : Value → Option String
  | .text s => some s
  | _ => none

/-- Numbers and integers as numbers. -/
def number? : Value → Option Float
  | .number x => some x
  | .integer n => some (Float.ofInt n.toInt)
  | _ => none

def timestamp? : Value → Option Instant
  | .timestamp t => some t
  | _ => none

def sequence? : Value → Option (List Value)
  | .sequence items => some items
  | _ => none

def isNull : Value → Bool
  | .null => true
  | _ => false

/-- Empty are `""`, `[]`, `{}`, and null where it is not allowed. -/
def isEmpty (nullable : Bool) : Value → Bool
  | .null => !nullable
  | .text s => s.isEmpty
  | .sequence items => items.isEmpty
  | .mapping entries => entries.isEmpty
  | _ => false

/-- Name of the kind of value. -/
def kind : Value → String
  | .null => "null"
  | .bool _ => "bool"
  | .number _ => "number"
  | .integer _ => "integer"
  | .text _ => "string"
  | .bytes _ _ => "bytes"
  | .timestamp _ => "timestamp"
  | .sequence _ => "sequence"
  | .mapping _ => "mapping"

theorem isNull_iff (v : Value) : v.isNull = true ↔ v = .null := by
  cases v <;> simp [isNull]

end Value
end FieldRules
