import FieldRules.CommandLine.Options
import FieldRules.Trace

namespace FieldRules.CommandLine

/-- The files the program reads, and standard input. -/
structure Files where
  /-- Text of a file, or the system's reason why it cannot be read. -/
  file : String → Except String String
  dirs : Config.Directories
  stdin : String

/-- What a run leaves behind. -/
structure Outcome where
  status : Nat
  stdout : String := ""
  stderr : String := ""

inductive Failed where
  | unreadable (reason : String)
  | locale (e : Message.Error)
  | malformed (reason : String)
  | noRules

def Failed.message : Failed → String
  | unreadable reason => "IO error: " ++ reason
  | locale e => "Locale error: " ++ e.message
  | malformed reason => "Malformed input: " ++ reason
  | noRules => "Invalid argument: no rules given; use --rule or --rules-file"

def lines (text : String) : List (List Char) := Text.split (· == '\n') text.toList

/-- One rule a line; blank lines and those that begin with `#` are none. -/
def rulesOfText (text : String) : List String :=
  ((lines text).map Text.trimBlanks).filterMap fun line =>
    if line = [] ∨ line.head? = some '#' then none else some (String.ofList line)

def collectRules (files : Files) (o : Options) : Except Failed (List String) := do
  match o.rulesFile with
  | none => return o.rules
  | some path => return o.rules ++ rulesOfText (← (files.file path).mapError .unreadable)

/-- Settings of the validator; options win over the environment. -/
def config (env : Environment) (o : Options) : Config :=
  let c := Config.ofEnvironment env
  { c with
    locale := o.locale.getD c.locale
    localesDir := o.localesDir.orElse fun _ => c.localesDir }

/-- Standard input is the path `-`; slashes and points behind it change nothing. -/
def isStdin (path : String) : Bool :=
  match Text.split (· == '/') path.toList with
  | [] => false
  | first :: rest => first == ['-'] && rest.all fun part => part == [] || part == ['.']

def readInput (files : Files) (o : Options) : Except Failed String :=
  let path := o.input.getD "-"
  if isStdin path then .ok files.stdin else (files.file path).mapError .unreadable

def checkTarget : String := "rulebook::commands::check"

/-- What a run has come to: the records it wrote, and the output or what ended it. -/
abbrev Run := List Log.Record × Except Failed (Nat × Json)

/-- Validates the document and tells the exit status and the output. -/
def judge (v : Validator) (now : Instant) (text : String) (rules : List String) : Run :=
  let checking : Log.Record := ⟨.debug, checkTarget, "Checking document",
    [("rules", toString rules.length), ("bytes", toString text.utf8ByteSize)]⟩
  let records := checking :: v.records now text rules
  match v.validate now text rules with
  | .ok values => (records, .ok (0, Document.toJson values))
  | .error (.malformed reason) => (records, .error (.malformed reason))
  | .error (.failed r) =>
    (records ++ [⟨.info, checkTarget, "Document rejected", [("failed", toString r.length)]⟩],
      .ok (1, r.toJson))

def run (env : Environment) (files : Files) (now : Instant) (o : Options) : Run :=
  match collectRules files o with
  | .error e => ([], .error e)
  | .ok [] => ([], .error .noRules)
  | .ok rules =>
    let c := config env o
    let records := c.records files.dirs
    match c.validator files.dirs with
    | .error e => (records, .error (.locale e))
    | .ok v => match readInput files o with
      | .error e => (records, .error e)
      | .ok text =>
        let (more, r) := judge v now text rules
        (records ++ more, r)

/-- Lines of the records that are written. -/
def logText (env : Environment) (verbose color : Bool) (time : Option String)
    (records : List Log.Record) : String :=
  let c := Log.Config.ofEnvironment env
  let state := if verbose then c.state.setDebug true else c.state
  let style : Log.Style := ⟨c.format, c.color && color, if c.timestamps then time else none⟩
  String.join ((records.filter fun r => state.enables r.level).map fun r =>
    Log.render .full style r ++ "\n")

/-- A whole run of `check`. -/
def check (env : Environment) (files : Files) (now : Instant) (time : Option String)
    (color : Bool) (o : Options) : Outcome :=
  let (records, r) := run env files now o
  let log := logText env o.verbose (color && !o.noColor) time records
  match r with
  | .ok (status, output) =>
    ⟨status, (if o.pretty then output.writeIndented else output.write) ++ "\n", log⟩
  | .error e => ⟨2, "", log ++ "error: " ++ e.message ++ "\n"⟩

def versionText (program : String) : String := program ++ " 0.1.0\n"

def helpText : String := "Usage: rulebook [OPTIONS] <COMMAND>\n"

end FieldRules.CommandLine
