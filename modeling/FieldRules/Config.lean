import FieldRules.Validator
import FieldRules.Log.Config

namespace FieldRules

/-- Locales of a validator: the one of its messages, a directory of more messages, and the locale
that stands in where a message is missing. -/
structure Config where
  locale : String := "en"
  localesDir : Option String := none
  fallback : Option String := some "en"
  deriving DecidableEq

namespace Config

def ofEnvironment (env : Environment) : Config where
  locale := (env.nonBlank? "RULEBOOK_LOCALE").getD "en"
  localesDir := env.nonBlank? "RULEBOOK_LOCALES_DIR"
  fallback := some ((env.nonBlank? "RULEBOOK_FALLBACK_LOCALE").getD "en")

/-- Entries of the directories there are. -/
abbrev Directories := String → Option (List DirEntry)

def locale? (tag : String) : Except Message.Error Locale :=
  match Locale.ofTag? tag with
  | some l => .ok l
  | none => .error (.invalidLocale tag)

/-- The built-in catalog with the locales that are asked for, before more messages are loaded. -/
def catalog (c : Config) : Except Message.Error Catalog := do
  let catalog := Catalog.builtin.withDefault (← locale? c.locale)
  match c.fallback with
  | some tag => return catalog.withFallback (← locale? tag)
  | none => return catalog

/-- What loading the directory of messages does to the shelf; nothing when there is none to load. -/
def loadInto (dirs : Directories) (c : Config) (s : Shelf) : Shelf.Loaded :=
  match c.localesDir with
  | none => ⟨s, [], none⟩
  | some dir => match dirs dir with
    | none => ⟨s, [], some (.directoryNotFound dir)⟩
    | some entries => s.load entries

/-- The validator, whose locale must have messages. -/
def validator (dirs : Directories) (c : Config) : Except Message.Error Validator := do
  let catalog ← c.catalog
  let loaded := c.loadInto dirs catalog.shelf
  match loaded.error with
  | some e => throw e
  | none =>
    let catalog := catalog.on loaded.shelf
    if catalog.supports catalog.defaultLocale then return { catalog }
    else throw (.invalidLocale c.locale)

end Config
end FieldRules
