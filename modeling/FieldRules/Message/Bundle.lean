import FieldRules.Json.Reader
import FieldRules.Message.Error

namespace FieldRules

abbrev Bundle := Entries String

namespace Bundle

def labelKey (field : String) : String := "attributes." ++ field

def addLabel (b : Bundle) (field label : String) : Bundle := b.insert (labelKey field) label

def label? (b : Bundle) (field : String) : Option String := b.get? (labelKey field)

/-- Path of a member of the object at `path`. -/
def child (path key : String) : String := if path = "" then key else path ++ "." ++ key

mutual
/-- Adds the texts of an object, each under the keys that lead to it, joined by points. -/
def addMembers (path : String) (b : Bundle) : List (String × Json) → Except Message.Error Bundle
  | [] => .ok b
  | (k, j) :: ms => do addMembers path (← addValue (child path k) b j) ms

def addValue (path : String) (b : Bundle) : Json → Except Message.Error Bundle
  | .text s => .ok (b.insert path s)
  | .object ms => addMembers path b ms
  | j => .error (.notText path j)
end

def ofJson : Json → Except Message.Error Bundle
  | .object ms => addMembers "" [] ms
  | _ => .error .notObject

/-- The bundle that a JSON text holds. -/
def ofText (text : String) : Except Message.Error Bundle := do
  ofJson (← (Json.read text).mapError Message.Error.json)

end Bundle
end FieldRules
