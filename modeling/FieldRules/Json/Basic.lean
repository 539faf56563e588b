import FieldRules.Entries

namespace FieldRules

/-- A JSON value. Integers of a 64-bit word are kept apart from all other numbers. -/
inductive Json where
  | null
  | bool (b : Bool)
  | whole (n : Int)
  | float (x : Float)
  | text (s : String)
  | list (items : List Json)
  | object (members : List (String × Json))

end FieldRules
