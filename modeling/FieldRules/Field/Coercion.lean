import FieldRules.Field.Basic
import FieldRules.Decimal.Lenient
import FieldRules.Time.Phrase
import FieldRules.Base64
import FieldRules.Text.Basic

namespace FieldRules

/-- Bytes of an image and its mime type, from base64 or from a `data:` address. The eight bytes
from its semicolon on are passed over, whatever they are. -/
def decodeImage? (text : List Char) : Option (List UInt8 × Option String) := do
  match Text.after? "data:".toList text with
  | none => return (← Base64.decode? text, none)
  | some rest =>
    match rest.dropWhile (· ≠ ';') with
    | [] => return (← Base64.decode? rest, none)
    | marked =>
      let payload ← Text.dropBytes? 8 marked
      return (← Base64.decode? payload, some (String.ofList (rest.takeWhile (· ≠ ';'))))

/-- What becomes of a value: whether it is of the type, what it is afterwards, and a mime type it
brings. -/
structure Coerced where
  ok : Bool
  value : Value
  mime : Option (Option String) := none

/-- Coerces a value that is there and not null. -/
def Value.coerce (type : TypeTag) (now : Instant) (v : Value) : Coerced :=
  match type, v with
  | .any, v => ⟨true, v, none⟩
  | .string, .text s => ⟨true, .text s, none⟩
  | .bool, .bool b => ⟨true, .bool b, none⟩
  | .array, .sequence items => ⟨true, .sequence items, none⟩
  | .object, .mapping entries => ⟨true, .mapping entries, none⟩
  | .object, .sequence items => ⟨true, .sequence items, none⟩
  | .number, .number x => ⟨true, .number x, none⟩
  | .number, .integer n => ⟨true, .number (Float.ofInt n.toInt), none⟩
  | .number, .text s => let r := Lenient.number s; ⟨r.2, .number r.1, none⟩
  | .date, .timestamp t => ⟨true, .timestamp t, none⟩
  | .date, .text s =>
    match readDatePhrase s now with
    | .ok t => ⟨true, .timestamp t, none⟩
    | .error _ => ⟨false, .text s, none⟩
  | .file, .bytes data mime => ⟨true, .bytes data mime, none⟩
  | .image, .bytes data mime => ⟨true, .bytes data mime, none⟩
  | .file, .text s =>
    match Base64.decode? s.toList with
    | some data => ⟨true, .bytes data none, none⟩
    | none => ⟨false, .text s, none⟩
  | .image, .text s =>
    match decodeImage? s.toList with
    | some (data, mime) => ⟨true, .bytes data mime, some mime⟩
    | none => ⟨false, .text s, none⟩
  | _, v => ⟨false, v, none⟩

namespace Field

def mismatch (f : Field) : Failure := f.fail f.type.mismatchKind

/-- Coerces the value of a field. One that is absent or null is left alone, unless the field is an
object. -/
def coerce (now : Instant) (f : Field) : Field × Option Failure :=
  match f.value with
  | none => (f, if f.type = .object then some f.mismatch else none)
  | some .null => (f, if f.type = .object then some f.mismatch else none)
  | some v =>
    let c := v.coerce f.type now
    ({ f with value := some c.value, mime := c.mime.getD f.mime },
      if c.ok then none else some f.mismatch)

end Field
end FieldRules
