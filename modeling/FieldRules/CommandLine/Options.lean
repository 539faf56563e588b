import FieldRules.Log.Config

namespace FieldRules.CommandLine

structure Options where
  input : Option String := none
  rules : List String := []
  rulesFile : Option String := none
  locale : Option String := none
  localesDir : Option String := none
  pretty : Bool := false
  noColor : Bool := false
  verbose : Bool := false

/-- What the arguments ask for. -/
inductive Request where
  | version (program : String)
  | help
  | check (o : Options)

/-- Why parsing arguments ends early: an answer that needs no more of them, or none at all. -/
inductive Stop where
  | answer (r : Request)
  | usage

inductive Switch where
  | pretty | noColor | verbose | help | version

inductive Slot where
  | input | rule | rulesFile | locale | localesDir

/-- An option is a switch or has a value. -/
inductive Opt where
  | switch (s : Switch)
  | slot (s : Slot)

/-- Options that may stand before the command and after it. -/
def commonLong? (name : String) : Option Opt :=
  match name with
  | "no-color" => some (.switch .noColor)
  | "verbose" => some (.switch .verbose)
  | "help" => some (.switch .help)
  | "version" => some (.switch .version)
  | _ => none

def commonShort? (c : Char) : Option Opt :=
  match c with
  | 'v' => some (.switch .verbose)
  | 'h' => some (.switch .help)
  | 'V' => some (.switch .version)
  | _ => none

def checkLong? (name : String) : Option Opt :=
  match name with
  | "input" => some (.slot .input)
  | "rule" => some (.slot .rule)
  | "rules-file" => some (.slot .rulesFile)
  | "locale" => some (.slot .locale)
  | "locales-dir" => some (.slot .localesDir)
  | "pretty" => some (.switch .pretty)
  | name => commonLong? name

def checkShort? (c : Char) : Option Opt :=
  match c with
  | 'i' => some (.slot .input)
  | 'r' => some (.slot .rule)
  | 'l' => some (.slot .locale)
  | c => commonShort? c

/-- Turns a switch on. -/
def setSwitch (program : String) (o : Options) : Switch → Except Stop Options
  | .pretty => if o.pretty then .error .usage else .ok { o with pretty := true }
  | .noColor => if o.noColor then .error .usage else .ok { o with noColor := true }
  | .verbose => if o.verbose then .error .usage else .ok { o with verbose := true }
  | .help => .error (.answer .help)
  | .version => .error (.answer (.version program))

/-- A value that may be given once. -/
def once (old : Option String) (value : String) : Except Stop (Option String) :=
  if old.isSome then .error .usage else .ok (some value)

/-- A path is not empty. -/
def oncePath (old : Option String) (value : String) : Except Stop (Option String) :=
  if value = "" then .error .usage else once old value

def setSlot (o : Options) (value : String) : Slot → Except Stop Options
  | .input => do return { o with input := ← oncePath o.input value }
  | .rule => .ok { o with rules := o.rules ++ [value] }
  | .rulesFile => do return { o with rulesFile := ← oncePath o.rulesFile value }
  | .locale => do return { o with locale := ← once o.locale value }
  | .localesDir => do return { o with localesDir := ← oncePath o.localesDir value }

/-- The options of a place in the arguments. -/
structure Grammar where
  program : String
  long? : String → Option Opt
  short? : Char → Option Opt

def topGrammar : Grammar := ⟨"rulebook", commonLong?, commonShort?⟩

def checkGrammar : Grammar := ⟨"rulebook-check", checkLong?, checkShort?⟩

/-- Letters behind a hyphen; an option at their end may wait for its value. -/
def readLetters (g : Grammar) (o : Options) : List Char → Except Stop (Options × Option Slot)
  | [] => .ok (o, none)
  | c :: cs => match g.short? c with
    | none => .error .usage
    | some (.switch s) => do readLetters g (← setSwitch g.program o s) cs
    | some (.slot s) => match cs with
      | [] => .ok (o, some s)
      | '=' :: value => do return (← setSlot o (String.ofList value) s, none)
      | value => do return (← setSlot o (String.ofList value) s, none)

/-- A long option behind its two hyphens. -/
def readLong (g : Grammar) (o : Options) (cs : List Char) :
    Except Stop (Options × Option Slot) :=
  let name := String.ofList (cs.takeWhile (· ≠ '='))
  let value := (cs.dropWhile (· ≠ '=')).tail?.map String.ofList
  match g.long? name, value with
  | some (.switch s), none => do return (← setSwitch g.program o s, none)
  | some (.slot s), some v => do return (← setSlot o v s, none)
  | some (.slot s), none => .ok (o, some s)
  | _, _ => .error .usage

/-- Reads one argument that begins with a hyphen. -/
def readOption (g : Grammar) (o : Options) (arg : String) : Except Stop (Options × Option Slot) :=
  match arg.toList with
  | '-' :: '-' :: name => readLong g o name
  | '-' :: letters => readLetters g o letters
  | _ => .error .usage

def isOption (arg : String) : Bool :=
  match arg.toList with
  | '-' :: _ :: _ => true
  | _ => false

/-- Arguments after the command, with an option waiting for its value or none. -/
def readCheck (o : Options) : (waiting : Option Slot) → List String → Except Stop Options
  | none, [] => .ok o
  | some _, [] => .error .usage
  | some s, arg :: args =>
    if isOption arg then .error .usage else do readCheck (← setSlot o arg s) none args
  | none, arg :: args =>
    if arg = "--" then if args = [] then .ok o else .error .usage
    else do
      let (o, waiting) ← readOption checkGrammar o arg
      readCheck o waiting args

/-- Arguments up to the command and after it. A switch may be on both sides. -/
def readTop (o : Options) : List String → Except Stop Options
  | [] => .error .usage
  | arg :: args =>
    if isOption arg ∧ arg ≠ "--" then do
      let (o, _) ← readOption topGrammar o arg
      readTop o args
    else if arg = "check" ∨ arg = "c" then do
      let sub ← readCheck {} none args
      return { sub with verbose := sub.verbose || o.verbose, noColor := sub.noColor || o.noColor }
    else if arg = "help" ∧ (args = [] ∨ args = ["check"] ∨ args = ["c"] ∨ args = ["help"]) then
      .error (.answer .help)
    else .error .usage

/-- Completes options from the environment and the defaults. -/
def complete (env : Environment) (o : Options) : Except Stop Options := do
  let localesDir ← match o.localesDir, env.get? "RULEBOOK_LOCALES_DIR" with
    | none, some dir => oncePath none dir
    | dir, _ => pure dir
  if o.input.isNone then throw .usage
  return { o with
    localesDir
    locale := some (o.locale.getD ((env.get? "RULEBOOK_LOCALE").getD "en")) }

/-- The request that arguments make, or `none` when they are refused. -/
def request? (env : Environment) (args : List String) : Option Request :=
  match (do complete env (← readTop {} args) : Except Stop Options) with
  | .ok o => some (.check o)
  | .error (.answer r) => some r
  | .error .usage => none

end FieldRules.CommandLine
