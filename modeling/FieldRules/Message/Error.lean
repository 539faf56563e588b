import FieldRules.Json.Error
import FieldRules.Json.Writer

namespace FieldRules.Message

inductive Error where
  | invalidLocale (tag : String)
  /-- The file of a bundle is JSON, but no object. -/
  | notObject
  /-- The value at a path is neither a text nor an object. -/
  | notText (path : String) (found : Json)
  | directoryNotFound (path : String)
  /-- A file that cannot be read, with the system's reason. -/
  | unreadable (reason : String)
  | json (e : Json.Error)

def Error.message : Error → String
  | invalidLocale tag => "Invalid locale: " ++ tag
  | notObject => "Failed to parse message file: message file must contain a JSON object"
  | notText path found =>
    "Failed to parse message file: message " ++ path ++ " must be a string, found " ++ found.write
  | directoryNotFound path => "IO error: Directory not found: " ++ path
  | unreadable reason => "IO error: " ++ reason
  | json e => "JSON parse error: " ++ e.message

end FieldRules.Message
