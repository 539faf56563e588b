import FieldRules.Text.Blank
import FieldRules.Text.Basic

namespace FieldRules.Argument

/-- Drops each backslash that protects a parenthesis or a comma, then trims spaces. -/
def unescape (raw : List Char) : List Char :=
  Text.trimSpaces
    (Text.replacePair '\\' ',' (Text.replacePair '\\' '(' (Text.replacePair '\\' ')' raw)))

end FieldRules.Argument
