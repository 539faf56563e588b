namespace FieldRules

inductive TypeTag where
  | any | string | number | bool | date | image | file | object | array
  deriving DecidableEq

namespace TypeTag

def all : List TypeTag := [any, string, number, bool, date, image, file, object, array]

/-- The tag as a rule writes it. -/
def name : TypeTag → String
  | any => "any"
  | string => "string"
  | number => "number"
  | bool => "bool"
  | date => "date"
  | image => "image"
  | file => "file"
  | object => "object"
  | array => "array"

def ofName? (name : String) : Option TypeTag := all.find? (·.name = name)

/-- Kind of the failure of a value that is not of the type. -/
def mismatchKind : TypeTag → String
  | any => "type.none"
  | string => "type.string"
  | number => "type.number"
  | bool => "type.bool"
  | date => "type.date"
  | image => "type.image"
  | file => "type.file"
  | object => "type.object"
  | array => "type.array"

theorem ofName?_name (t : TypeTag) : ofName? t.name = some t := by cases t <;> decide

end TypeTag
end FieldRules
