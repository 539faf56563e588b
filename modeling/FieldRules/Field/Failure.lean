namespace FieldRules

inductive Param where
  /-- A field, shown by its label. -/
  | field (name : String)
  | fields (names : List String)
  | text (s : String)
  deriving DecidableEq

/-- A kind, which names a message, and the parameters of the message. -/
structure Failure where
  kind : String
  params : List Param := []
  deriving DecidableEq

namespace Failure

/-- Kind of the failure that says no more than that a field is invalid. -/
def genericKind : String := "none"

/-- A failure whose first parameter is the field. -/
def ofField (kind field : String) : Failure := ⟨kind, [.field field]⟩

def invalid (field : String) : Failure := ofField genericKind field

def withParam (f : Failure) (p : Param) : Failure := { f with params := f.params ++ [p] }

def withText (f : Failure) (s : String) : Failure := f.withParam (.text s)

def withField (f : Failure) (name : String) : Failure := f.withParam (.field name)

def withFields (f : Failure) (names : List String) : Failure := f.withParam (.fields names)

end Failure
end FieldRules
