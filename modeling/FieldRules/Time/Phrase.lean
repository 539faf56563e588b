import FieldRules.Time.Rfc3339

namespace FieldRules

/-- Reads `now`, a day named from it, or an RFC 3339 text. A named day is its midnight. -/
def readDatePhrase (text : String) (now : Instant) : Except Rfc3339.Error Instant :=
  if text = "now" then .ok now
  else if text = "today" then .ok now.midnight
  else if text = "yesterday" then .ok (now.addDays (-1)).midnight
  else if text = "tomorrow" then .ok (now.addDays 1).midnight
  else Rfc3339.read text

end FieldRules
