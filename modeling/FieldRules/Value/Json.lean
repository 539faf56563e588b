import FieldRules.Value.Basic
import FieldRules.Json.Reader
import FieldRules.Json.Writer
import FieldRules.Base64
import FieldRules.Time.Rfc3339

namespace FieldRules.Value

mutual
def ofJson : Json → Value
  | .null => .null
  | .bool b => .bool b
  | .whole n => .number (Float.ofInt n)
  | .float x => .number x
  | .text s => .text s
  | .list items => .sequence (ofItems items)
  | .object members => .mapping (ofMembers members)

def ofItems : List Json → List Value
  | [] => []
  | j :: js => ofJson j :: ofItems js

def ofMembers : List (String × Json) → List (String × Value)
  | [] => []
  | (k, j) :: ms => (k, ofJson j) :: ofMembers ms
end

/-- Bytes in base64, as a `data:` address when their mime type is known. -/
def bytesText (data : List UInt8) : (mime : Option String) → String
  | none => String.ofList (Base64.encode data)
  | some mime => "data:" ++ mime ++ ";base64," ++ String.ofList (Base64.encode data)

/-- Whole numbers below 10 ^ 15 are written without a point, infinities and NaN as null. -/
def numberJson (x : Float) : Json :=
  match Binary64.smallWhole? x, Binary64.view x with
  | some n, _ => .whole n
  | none, .finite .. => .float x
  | none, _ => .null

mutual
def toJson : Value → Json
  | .null => .null
  | .bool b => .bool b
  | .number x => numberJson x
  | .integer n => .whole n.toInt
  | .text s => .text s
  | .bytes data mime => .text (bytesText data mime)
  | .timestamp t => .text (Rfc3339.write t)
  | .sequence items => .list (toItems items)
  | .mapping entries => .object (toMembers entries)

def toItems : List Value → List Json
  | [] => []
  | v :: vs => toJson v :: toItems vs

def toMembers : List (String × Value) → List (String × Json)
  | [] => []
  | (k, v) :: es => (k, toJson v) :: toMembers es
end

/-- A text shows itself, and any other value its JSON text. -/
def display : Value → String
  | .text s => s
  | v => v.toJson.write

end FieldRules.Value

namespace FieldRules.Document

/-- The document that a JSON object is; no other value is one. -/
def ofJson? : Json → Option Document
  | .object members => some (Value.ofMembers members)
  | _ => none

def toJson (d : Document) : Json := .object (Value.toMembers d)

end FieldRules.Document
