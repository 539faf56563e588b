import FieldRules.Config

namespace FieldRules

namespace Log

def engineTarget : String := "rulebook_validation::engine"

def messagesTarget : String := "rulebook_i18n::messages"

end Log

namespace Config

/-- Records of setting up a validator. -/
def records (dirs : Config.Directories) (c : Config) : List Log.Record :=
  match c.catalog with
  | .error _ => []
  | .ok catalog =>
    let loaded := c.loadInto dirs catalog.shelf
    let files := loaded.files.map fun (l, n) =>
      ⟨.debug, Log.messagesTarget, "Loaded message file",
        [("locale", l.tag), ("messages", toString n)]⟩
    files ++ match loaded.error with
      | some _ => []
      | none =>
        if (catalog.on loaded.shelf).supports catalog.defaultLocale then
          [⟨.debug, Log.engineTarget, "Validator configured",
            [("locale", c.locale), ("fallback", c.fallback.getD "-")]⟩]
        else [⟨.warn, Log.engineTarget, "No messages for locale", [("locale", c.locale)]⟩]

end Config

namespace Validator

/-- The record of a call that has come to its turn. -/
def callRecord (r : Registry) (f : Field) (c : Call) : Log.Record :=
  ⟨.trace, Log.engineTarget,
    if r.knows f.type c.verb then "Dispatching verb" else "Unknown verb ignored",
    [("field", f.name), ("verb", c.verb)]⟩

/-- The record of a field in its final state. -/
def outcomeRecord (f : Field) : Log.Record :=
  let fields (outcome : String) :=
    [("field", f.name), ("type", f.type.name), ("outcome", outcome)]
  match f.failure with
  | some e => ⟨.debug, Log.engineTarget, "Field failed", fields e.kind⟩
  | none => ⟨.debug, Log.engineTarget, "Field validated", fields "ok"⟩

def ruleRecords (v : Validator) (now : Instant) (d : Document) (rule : String) : List Log.Record :=
  match Registry.start? now d rule with
  | none => [⟨.warn, Log.engineTarget, "Rule without a field name skipped", [("rule", rule)]⟩]
  | some (f, calls) =>
    let last := v.registry.runCalls now d f calls
    (v.registry.reached now d f calls).map (callRecord v.registry f) ++
      if last.endless then [] else [outcomeRecord last]

/-- Records of validating a text, of whose rules all come to their ends. -/
def records (v : Validator) (now : Instant) (text : String) (rules : List String) :
    List Log.Record :=
  match readDocument text with
  | .error reason => [⟨.warn, Log.engineTarget, "Malformed input document", [("reason", reason)]⟩]
  | .ok d => rules.flatMap (v.ruleRecords now d)

end Validator
end FieldRules
