import FieldRules.Verb.Shared
import FieldRules.Verb.Text
import FieldRules.Verb.Number
import FieldRules.Verb.Date

namespace FieldRules

/-- A verb as a table holds it; an eager one also runs on an absent or null value. -/
structure TableEntry where
  run : Handler
  eager : Bool

/-- Verbs by name. -/
abbrev VerbTable := Entries TableEntry

namespace VerbTable

def register (t : VerbTable) (name : String) (verb : Handler) : VerbTable :=
  t.insert name ⟨verb, false⟩

def registerEager (t : VerbTable) (name : String) (verb : Handler) : VerbTable :=
  t.insert name ⟨verb, true⟩

def verb? (t : VerbTable) (name : String) : Option Handler := (t.get? name).map TableEntry.run

def isEager (t : VerbTable) (name : String) : Bool := (t.get? name).any TableEntry.eager

end VerbTable

structure Registry where
  shared : VerbTable := []
  typed : TypeTag → VerbTable := fun _ => []

namespace Registry

def empty : Registry := {}

/-- Changes the table of one type. -/
def onType (r : Registry) (type : TypeTag) (change : VerbTable → VerbTable) : Registry :=
  { r with typed := fun t => if t = type then change (r.typed t) else r.typed t }

def registerShared (r : Registry) (name : String) (verb : Handler) : Registry :=
  { r with shared := r.shared.register name verb }

def registerTyped (r : Registry) (type : TypeTag) (name : String) (verb : Handler) : Registry :=
  r.onType type fun t => t.register name verb

def registerEager (r : Registry) (type : TypeTag) (name : String) (verb : Handler) : Registry :=
  r.onType type fun t => t.registerEager name verb

def shared? (r : Registry) (name : String) : Option Handler := r.shared.verb? name

def typed? (r : Registry) (type : TypeTag) (name : String) : Option Handler :=
  (r.typed type).verb? name

def isEager (r : Registry) (type : TypeTag) (name : String) : Bool := (r.typed type).isEager name

/-- The name is a verb for fields of the type. -/
def knows (r : Registry) (type : TypeTag) (name : String) : Bool :=
  (r.shared? name).isSome || (r.typed? type name).isSome

def textTable : VerbTable :=
  TextVerb.all.foldl
    (fun t v =>
      if v.readsDocument then t.registerEager v.name v.run else t.register v.name v.run) []

def numberTable : VerbTable := NumberVerb.all.foldl (fun t v => t.register v.name v.run) []

def dateTable : VerbTable := DateVerb.all.foldl (fun t v => t.register v.name v.run) []

/-- All verbs of the library. -/
def standard : Registry where
  shared := SharedVerb.all.foldl (fun t v => t.register v.name v.run) []
  typed
    | .string => textTable
    | .number => numberTable
    | .date => dateTable
    | _ => []

end Registry
end FieldRules
