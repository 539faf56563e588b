import FieldRules.Verb.Basic

namespace FieldRules

inductive SharedVerb where
  | nullable | present | required | requiredWith | requiredWithout | confirmed
  deriving DecidableEq

namespace SharedVerb

def all : List SharedVerb :=
  [nullable, present, required, requiredWith, requiredWithout, confirmed]

def name : SharedVerb → String
  | nullable => "nullable"
  | present => "present"
  | required => "required"
  | requiredWith => "requiredWith"
  | requiredWithout => "requiredWithout"
  | confirmed => "confirmed"

/-- The field is absent or empty. -/
def isMissing (d : Document) (f : Field) : Bool :=
  (d.get? f.name).all fun v => v.isEmpty f.nullable

/-- Another field is there and not empty. -/
def isFilled (d : Document) (field : String) : Bool :=
  (d.get? field).any fun v => !v.isEmpty false

/-- Names the other fields first; `kind` has a form for more than one. -/
def requiredBecause (kind : String) (f : Field) : Failure :=
  let kind := if 1 < f.args.length then kind ++ "All" else kind
  (Failure.mk kind []).withFields f.args |>.withField f.name

/-- The field that has to equal `f`. -/
def confirmation (f : Field) : String :=
  match f.args with
  | field :: _ => if field ≠ "" then field else f.name ++ "Confirmation"
  | [] => f.name ++ "Confirmation"

def run : SharedVerb → Handler
  | nullable, _, _, f => .ok { f with nullable := true }
  | present, _, d, f => f.verify (d.contains f.name) (f.fail "present")
  | required, _, d, f => f.verify (!isMissing d f) (f.fail "required")
  | requiredWith, _, d, f =>
    if f.args = [] then .error f.invalid
    else f.verify (!(f.args.all (isFilled d) && isMissing d f)) (requiredBecause "requiredWith" f)
  | requiredWithout, _, d, f =>
    if f.args = [] then .error f.invalid
    else f.verify (!(f.args.any (fun s => !isFilled d s) && isMissing d f))
      (requiredBecause "requiredWithout" f)
  | confirmed, _, d, f =>
    match d.get? f.name, d.get? (confirmation f) with
    | some v, some w => f.verify (v == w) (f.fail "confirmed")
    | _, _ => .error (f.fail "confirmed")

end SharedVerb
end FieldRules
