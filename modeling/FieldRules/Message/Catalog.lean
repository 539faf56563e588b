import FieldRules.Message.Bundle
import FieldRules.Message.Builtin
import FieldRules.Message.Locale
import FieldRules.Message.Template
import FieldRules.Log.Basic

namespace FieldRules

/-- Bundles by the tags of their locales. -/
abbrev Shelf := Entries Bundle

namespace Shelf

/-- Replaces the bundle of a locale. -/
def setBundle (s : Shelf) (l : Locale) (b : Bundle) : Shelf := s.insert l.tag b

/-- Adds entries to the bundle of a locale. -/
def mergeBundle (s : Shelf) (l : Locale) (b : Bundle) : Shelf :=
  s.insert l.tag (((s.get? l.tag).getD []).merge b)

def builtin : Shelf :=
  (Entries.insert "en" (Entries.ofList Builtin.english) []).insert "fa"
    (Entries.ofList Builtin.persian)

end Shelf

/-- A file of a directory: its name, and its text or the system's reason for having none. -/
structure DirEntry where
  name : String
  content : Except String String

namespace DirEntry

/-- The name before its last point, when `json` comes after it and something before. -/
def jsonStem? (name : String) : Option String :=
  match (Text.split (· == '.') name.toList).reverse with
  | last :: rest@(_ :: _) =>
    let stem := ".".intercalate (rest.reverse.map String.ofList)
    if last = "json".toList ∧ stem ≠ "" then some stem else none
  | _ => none

/-- Locale and bundle that a file holds, or `none` when it is no message file. -/
def bundle? (e : DirEntry) : Except Message.Error (Option (Locale × Bundle)) :=
  match jsonStem? e.name with
  | none => .ok none
  | some stem =>
    match Locale.ofTag? stem with
    | none => .error (.invalidLocale stem)
    | some l => do
      let text ← e.content.mapError Message.Error.unreadable
      return some (l, ← Bundle.ofText text)

end DirEntry

namespace Shelf

/-- What became of loading a directory: what is on the shelf now, which files are, and the error
that ended it. -/
structure Loaded where
  shelf : Shelf
  files : List (Locale × Nat)
  error : Option Message.Error

/-- Merges the message files of a directory, in the order in which it lists them. The first that
cannot be used ends the loading; those before it stay. -/
def load (s : Shelf) : List DirEntry → Loaded
  | [] => ⟨s, [], none⟩
  | e :: es =>
    match e.bundle? with
    | .error err => ⟨s, [], some err⟩
    | .ok none => s.load es
    | .ok (some (l, b)) =>
      let rest := (s.mergeBundle l b).load es
      { rest with files := (l, b.length) :: rest.files }

end Shelf

/-- Bundles, and the locales whose messages are wanted. -/
structure Catalog where
  shelf : Shelf := []
  defaultLocale : Locale := Locale.en
  fallback : Option Locale := none

namespace Catalog

def builtin : Catalog := ⟨Shelf.builtin, Locale.en, some Locale.en⟩

/-- The same locales on another shelf. -/
def on (c : Catalog) (s : Shelf) : Catalog := { c with shelf := s }

def withDefault (c : Catalog) (l : Locale) : Catalog := { c with defaultLocale := l }

def withFallback (c : Catalog) (l : Locale) : Catalog := { c with fallback := some l }

/-- There is a bundle of the locale or of its language. -/
def supports (c : Catalog) (l : Locale) : Bool :=
  c.shelf.contains l.tag || c.shelf.contains l.languageOnly.tag

/-- Locales in the order in which they are tried. -/
def candidates (c : Catalog) (l : Locale) : List Locale :=
  [l, l.languageOnly] ++ c.fallback.toList ++ [c.defaultLocale]

/-- The first bundle that has the key decides. -/
def lookup (c : Catalog) (l : Locale) (key : String) : Option String :=
  (c.candidates l).findSome? fun l => (c.shelf.get? l.tag).bind fun b => b.get? key

def genericTemplate : String := "\x7b0\x7d is invalid."

def template (c : Catalog) (l : Locale) (kind : String) : String :=
  match c.lookup l kind with
  | some t => t
  | none => (c.lookup l "none").getD genericTemplate

def formatIn (c : Catalog) (l : Locale) (kind : String) (args : List String) : String :=
  interpolate (c.template l kind) args

def format (c : Catalog) (kind : String) (args : List String) : String :=
  c.formatIn c.defaultLocale kind args

/-- The name by which messages call a field. -/
def labelIn (c : Catalog) (l : Locale) (field : String) : String :=
  (c.lookup l (Bundle.labelKey field)).getD field

def label (c : Catalog) (field : String) : String := c.labelIn c.defaultLocale field

end Catalog
end FieldRules
