import FieldRules.Log.Basic
import FieldRules.Json.Writer
import FieldRules.Text.Quoted

namespace FieldRules.Log

inductive Format where
  | pretty | compact | json
  deriving DecidableEq

namespace Format

def name : Format → String
  | pretty => "Pretty"
  | compact => "Compact"
  | json => "Json"

/-- Reads a name in any case, with blanks around it. -/
def ofName? (name : String) : Option Format :=
  match String.ofList (Text.lower (Text.trimBlanks name.toList)) with
  | "pretty" => some pretty
  | "compact" => some compact
  | "json" => some json
  | _ => none

end Format

/-- How records are written. -/
structure Style where
  format : Format := .compact
  color : Bool := false
  /-- Time of the record as the format shows it, if it does. -/
  time : Option String := none

/-- Which parts the logger was built with: color, and a JSON writer of its own or the library's. -/
inductive Build where
  | full | plain
  deriving DecidableEq

/-- A value with a space in it is quoted. -/
def fieldText (key value : String) : List Char :=
  let cs := value.toList
  ' ' :: key.toList ++ '=' :: (if cs.contains ' ' then Text.Quoted.quote cs else cs)

def fieldsText (fields : List (String × String)) : List Char :=
  fields.flatMap fun (key, value) => fieldText key value

/-- Codes that color a level, as terminals understand them. -/
def Level.colorCode : Level → String
  | .trace => "35"
  | .debug => "34"
  | .info => "32"
  | .warn => "33"
  | .error => "1;31"
  | .off => "37"

def colored (l : Level) (text : List Char) : List Char :=
  '\x1b' :: '[' :: l.colorCode.toList ++ 'm' :: text ++ "\x1b[0m".toList

def Level.colored (l : Level) : String := String.ofList (Log.colored l l.name.toList)

/-- The name of a level, five characters wide. -/
def levelColumn (l : Level) : List Char :=
  l.name.toList ++ List.replicate (5 - l.name.length) ' '

def timeColumn (s : Style) : List Char :=
  match s.time with
  | some t => t.toList ++ [' ']
  | none => []

def renderPretty (b : Build) (s : Style) (r : Record) : List Char :=
  let level := levelColumn r.level
  let level := if s.color ∧ b = .full then colored r.level level else level
  let target := if r.target = "" then [] else '[' :: r.target.toList ++ [']', ' ']
  timeColumn s ++ level ++ ' ' :: target ++ r.message.toList ++ fieldsText r.fields

def renderCompact (s : Style) (r : Record) : List Char :=
  let target := if r.target = "" then [] else r.target.toList ++ [':', ' ']
  timeColumn s ++ r.level.name.toList.take 1 ++ ' ' :: target ++ r.message.toList ++
    fieldsText r.fields

/-- A record as an object: of its own entries and its fields the last under each key. -/
def Record.toJson (time : Option String) (r : Record) : Json :=
  let entries := (time.toList.map fun t => ("timestamp", t)) ++
    [("level", r.level.name), ("target", r.target), ("message", r.message)] ++ r.fields
  .object (Entries.ofList (entries.map fun (k, v) => (k, Json.text v)))

/-- A character inside the quotes that `renderFlat` writes. -/
def escapeFlat (c : Char) : List Char :=
  match c with
  | '"' => ['\\', '"']
  | '\\' => ['\\', '\\']
  | '\n' => ['\\', 'n']
  | '\r' => ['\\', 'r']
  | '\t' => ['\\', 't']
  | c => if Unicode.isControl c then '\\' :: 'u' :: Text.hexPadded 4 c.toNat else [c]

def quoteFlat (text : String) : List Char := '"' :: text.toList.flatMap escapeFlat ++ ['"']

/-- A record as an object in the order of its parts, keys that occur twice included. -/
def renderFlat (s : Style) (r : Record) : List Char :=
  let entries := (s.time.toList.map fun t => ("timestamp", t)) ++
    [("level", r.level.name), ("target", r.target), ("message", r.message)] ++ r.fields
  '{' :: Json.commaSeparated
    (entries.map fun (k, v) => quoteFlat k ++ ':' :: quoteFlat v) ++ ['\x7d']

def renderChars (b : Build) (s : Style) (r : Record) : List Char :=
  match s.format, b with
  | .pretty, b => renderPretty b s r
  | .compact, _ => renderCompact s r
  | .json, .full => Json.compact (r.toJson s.time)
  | .json, .plain => renderFlat s r

/-- The line of a record, without an end of line. -/
def render (b : Build) (s : Style) (r : Record) : String := String.ofList (renderChars b s r)

end FieldRules.Log
