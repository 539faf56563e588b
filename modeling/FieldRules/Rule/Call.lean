namespace FieldRules

/-- A verb with the arguments it is given. -/
structure Call where
  verb : String
  args : List String := []
  /-- An argument list was written, even an empty one. -/
  parenthesized : Bool := false
  deriving DecidableEq

def Call.bare (verb : List Char) : Call := ⟨String.ofList verb, [], false⟩

end FieldRules
