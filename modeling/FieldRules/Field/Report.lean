import FieldRules.Field.Failure
import FieldRules.Message.Catalog

namespace FieldRules

def Param.render (c : Catalog) : Param → String
  | .field name => c.label name
  | .fields names => ", ".intercalate (names.map c.label)
  | .text s => s

/-- The message of a failure in the default locale. -/
def Failure.render (c : Catalog) (e : Failure) : String :=
  c.format e.kind (e.params.map (Param.render c))

/-- Messages by field. -/
abbrev Report := Entries String

namespace Report

def display (r : Report) : String :=
  "; ".intercalate (r.map fun (field, message) => field ++ ": " ++ message)

def toJson (r : Report) : Json := .object (r.map fun (field, message) => (field, .text message))

end Report
end FieldRules
