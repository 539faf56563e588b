import FieldRules.CommandLine.Check
import Std.Time

namespace FieldRules.CommandLine

/-- The system's reason why something cannot be read. -/
def ioReason : IO.Error → String
  | .noFileOrDirectory .. => "No such file or directory (os error 2)"
  | .permissionDenied .. => "Permission denied (os error 13)"
  | .inappropriateType .. => "Is a directory (os error 21)"
  | e => toString e

def readText (path : String) : IO (Except String String) := do
  try return .ok (← IO.FS.readFile path)
  catch e => return .error (ioReason e)

/-- Entries of a directory, or `none` when it cannot be listed. -/
def listDirectory (path : String) : IO (Option (List DirEntry)) := do
  try
    let mut entries := []
    for e in ← ((← IO.currentDir) / path).readDir do
      entries := ⟨e.fileName, ← readText e.path.toString⟩ :: entries
    return some entries.reverse
  catch _ => return none

/-- The variables that settings are read from. -/
def settingNames : List String :=
  ["RULEBOOK_LOCALE", "RULEBOOK_LOCALES_DIR", "RULEBOOK_FALLBACK_LOCALE", "RULEBOOK_DEBUG",
    "RULEBOOK_LOG_LEVEL", "RULEBOOK_LOG_FORMAT", "RULEBOOK_LOG_TIMESTAMPS", "RULEBOOK_LOG_COLOR"]

def readEnvironment : IO Environment :=
  settingNames.filterMapM fun name => do return (← IO.getEnv name).map (name, ·)

def readClock : IO Instant := do
  let d := (← Std.Time.Timestamp.now).toDurationSinceUnixEpoch
  return ⟨d.second.val, d.nano.val.toNat⟩

/-- The time of records as their format shows it. -/
def recordTime (format : Log.Format) : IO String := do
  let now ← Std.Time.DateTime.now
  return match format with
    | .pretty => now.format "uuuu-MM-dd HH:mm:ss.SSS"
    | .compact => now.format "HH:mm:ss"
    | .json => now.format "uuuu-MM-dd'T'HH:mm:ss.SSSSSSSSSxxx"

/-- Reads what a run of `check` needs, and runs it. -/
def runCheck (env : Environment) (o : Options) : IO UInt32 := do
  let c := config env o
  let paths := (o.rulesFile.toList ++ o.input.toList).filter fun path => !isStdin path
  let texts ← paths.mapM fun path => do return (path, ← readText path)
  let rules ← match o.rulesFile with
    | some path => readText path
    | none => pure (.ok "")
  let dirs ← c.localesDir.toList.mapM fun dir => do return (dir, ← listDirectory dir)
  let stdin ← if o.input.any isStdin then (← IO.getStdin).readToEnd else pure ""
  let files : Files := {
    file := fun path =>
      if o.rulesFile = some path then rules else (texts.lookup path).getD (.ok "")
    dirs := fun dir => (dirs.lookup dir).join
    stdin }
  let time ← recordTime (Log.Config.ofEnvironment env).format
  let color ← (← IO.getStderr).isTty
  let r := check env files (← readClock) (some time) color o
  (← IO.getStderr).putStr r.stderr
  (← IO.getStdout).putStr r.stdout
  return r.status.toUInt32

end FieldRules.CommandLine

open FieldRules.CommandLine in
def main (args : List String) : IO UInt32 := do
  let env ← readEnvironment
  match request? env args with
  | none =>
    IO.eprint helpText
    return 2
  | some .help =>
    IO.print helpText
    return 0
  | some (.version program) =>
    IO.print (versionText program)
    return 0
  | some (.check o) => runCheck env o
