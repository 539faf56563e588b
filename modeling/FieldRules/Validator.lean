import FieldRules.Rule.Scan
import FieldRules.Verb.Table
import FieldRules.Field.Coercion
import FieldRules.Field.Report
import FieldRules.Value.Json

namespace FieldRules

/-- The declared type of a field as it is written, and the calls after it. A bare word is a type
only if one has its name. -/
def declaredType (head : Call) (calls : List Call) : Option String × List Call :=
  if head.parenthesized then (head.args.head?, calls)
  else match calls with
    | [] => (none, [])
    | c :: rest =>
      if !c.parenthesized && (TypeTag.ofName? c.verb).isSome then (some c.verb, rest)
      else (none, c :: rest)

namespace Field

/-- A field as the document has it. -/
def ofDocument (name : String) (d : Document) : Field := { name, value := d.get? name }

/-- Declares the type and coerces to it. A field of an unknown type fails, and is not coerced. -/
def declare (now : Instant) (tag : Option String) (f : Field) : Field :=
  match tag.map TypeTag.ofName? with
  | some none => f.record (f.fail TypeTag.any.mismatchKind)
  | some (some type) => coerced { f with type }
  | none => coerced f
where
  coerced (f : Field) : Field :=
    match f.coerce now with
    | (f, some e) => f.record e
    | (f, none) => f

end Field

/-- What follows a call: the next one, or nothing, as after a failure or while a verb never ends. -/
inductive Step where
  | next (f : Field)
  | stop (f : Field)

namespace Registry

/-- Runs the verb of the field's type, which an absent or null value skips unless it is eager. -/
def runTyped (r : Registry) (now : Instant) (d : Document) (f : Field) (verb : String) : Step :=
  if !f.hasValue && !r.isEager f.type verb then .next f
  else match r.typed? f.type verb with
    | none => .next f
    | some run => match run now d f with
      | .error e => .stop (f.record e)
      | .ok f => if f.endless then .stop f else .next f

/-- Runs the verbs of one call. A field whose coercion failed goes on only through verbs of every
type, each of which may put its own failure in the place of the first. -/
def dispatch (r : Registry) (now : Instant) (d : Document) (f : Field) (c : Call) : Step :=
  let f := f.begin c.verb c.args
  match r.shared? c.verb with
  | none => if f.failure.isSome then .stop f else r.runTyped now d f c.verb
  | some run => match run now d f with
    | .error e => .stop (f.record e)
    | .ok f =>
      if f.endless then .stop f
      else if f.failure.isSome then .next f else r.runTyped now d f c.verb

def runCalls (r : Registry) (now : Instant) (d : Document) (f : Field) : List Call → Field
  | [] => f
  | c :: cs => match r.dispatch now d f c with
    | .next f => r.runCalls now d f cs
    | .stop f => f

/-- The calls that come to their turn. -/
def reached (r : Registry) (now : Instant) (d : Document) (f : Field) : List Call → List Call
  | [] => []
  | c :: cs => c :: match r.dispatch now d f c with
    | .next f => r.reached now d f cs
    | .stop _ => []

/-- The field of a rule before its verbs run, and their calls; `none` when it names no field. -/
def start? (now : Instant) (d : Document) (rule : String) : Option (Field × List Call) :=
  match scan rule with
  | [] => none
  | head :: calls =>
    let (tag, calls) := declaredType head calls
    some ((Field.ofDocument head.verb d).declare now tag, calls)

/-- The field of a rule in its final state, or as a verb that never ends has it. -/
def runRule (r : Registry) (now : Instant) (d : Document) (rule : String) : Option Field :=
  (start? now d rule).map fun (f, calls) => r.runCalls now d f calls

end Registry

/-- Why a document is no good. -/
inductive Invalid where
  | malformed (reason : String)
  | failed (r : Report)

namespace Invalid

def message : Invalid → String
  | malformed reason => "malformed request: " ++ reason
  | failed r => "validation failed: " ++ r.display

end Invalid

structure Validator where
  registry : Registry := Registry.standard
  catalog : Catalog := Catalog.builtin

namespace Validator

/-- Fields of all rules that name one, in their final states. -/
def fields (v : Validator) (now : Instant) (d : Document) (rules : List String) : List Field :=
  rules.filterMap (v.registry.runRule now d)

/-- Every rule comes to its end. -/
def ends (v : Validator) (now : Instant) (d : Document) (rules : List String) : Bool :=
  (v.fields now d rules).all fun f => !f.endless

/-- Values of the fields that did not fail; an absent one is null. -/
def values (fs : List Field) : Document :=
  Entries.ofList ((fs.filter fun f => f.failure.isNone).map fun f => (f.name, f.value.getD .null))

/-- Messages of the fields that failed. -/
def report (v : Validator) (fs : List Field) : Report :=
  Entries.ofList (fs.filterMap fun f => f.failure.map fun e => (f.name, e.render v.catalog))

/-- What a run that ends comes to: values by field when no field failed, else the messages of those
that did. -/
def validateDocument (v : Validator) (now : Instant) (d : Document) (rules : List String) :
    Except Report Document :=
  let fs := v.fields now d rules
  match v.report fs with
  | [] => .ok (values fs)
  | r => .error r

/-- The document that a JSON text holds. -/
def readDocument (text : String) : Except String Document :=
  match Json.read text with
  | .error e => .error e.message
  | .ok j => match Document.ofJson? j with
    | some d => .ok d
    | none => .error "expected a JSON object"

def validate (v : Validator) (now : Instant) (text : String) (rules : List String) :
    Except Invalid Document :=
  match readDocument text with
  | .error reason => .error (.malformed reason)
  | .ok d => (v.validateDocument now d rules).mapError .failed

end Validator
end FieldRules
