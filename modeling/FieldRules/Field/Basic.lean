import FieldRules.TypeTag
import FieldRules.Value.Basic
import FieldRules.Field.Failure
import FieldRules.Decimal.Numeral

namespace FieldRules

/-- The state of one field while its rule is evaluated. -/
structure Field where
  name : String
  type : TypeTag := .any
  /-- Absent when the document has no such field. -/
  value : Option Value
  nullable : Bool := false
  /-- The verb at hand and its arguments. -/
  verb : String := ""
  args : List String := []
  /-- Mime type that an image was given with. -/
  mime : Option String := none
  failure : Option Failure := none
  /-- The verb at hand never comes to its end. -/
  endless : Bool := false

namespace Field

/-- Turns to the next verb. -/
def begin (f : Field) (verb : String) (args : List String) : Field :=
  { f with verb := verb, args := args }

def record (f : Field) (e : Failure) : Field := { f with failure := some e }

/-- There is a value, and it is not null. -/
def hasValue (f : Field) : Bool := f.value.any fun v => !v.isNull

def fail (f : Field) (kind : String) : Failure := Failure.ofField kind f.name

/-- The failure of a verb that is used wrongly. -/
def invalid (f : Field) : Failure := Failure.invalid f.name

def require {α : Type} (f : Field) : Option α → Except Failure α
  | some a => .ok a
  | none => .error f.invalid

def arg (f : Field) (i : Nat) : Except Failure String := f.require f.args[i]?

def argNumber (f : Field) (i : Nat) : Except Failure Float := do
  f.require (Decimal.float? (← f.arg i).toList)

def argCount (f : Field) (i : Nat) : Except Failure Nat := do
  f.require (Text.count? (← f.arg i).toList)

def text (f : Field) : Except Failure String := f.require (f.value.bind Value.text?)

def number (f : Field) : Except Failure Float := f.require (f.value.bind Value.number?)

def instant (f : Field) : Except Failure Instant := f.require (f.value.bind Value.timestamp?)

theorem begin_value (f : Field) (verb : String) (args : List String) :
    (f.begin verb args).value = f.value := rfl

end Field
end FieldRules
