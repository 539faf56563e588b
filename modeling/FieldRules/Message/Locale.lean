import FieldRules.Text.Blank
import FieldRules.Text.Basic
import FieldRules.Json.Basic

namespace FieldRules

structure Locale where
  language : String
  region : Option String := none
  deriving DecidableEq

namespace Locale

/-- Takes the parts unchecked, in their canonical case. -/
def ofParts (language : String) (region : Option String) : Locale :=
  ⟨String.ofList (Text.lower language.toList),
    region.map fun r => String.ofList (Text.upper r.toList)⟩

def en : Locale := ⟨"en", none⟩

def fa : Locale := ⟨"fa", none⟩

/-- Two or three letters, and after one `-` or `_` a region of two. Blanks around it are dropped. -/
def ofTag? (tag : String) : Option Locale :=
  match Text.split (fun c => c = '-' ∨ c = '_') (Text.trimBlanks tag.toList) with
  | [l] => if isLanguage l then some ⟨String.ofList (Text.lower l), none⟩ else none
  | [l, r] =>
    if isLanguage l ∧ r.length = 2 ∧ r.all Char.isAlpha then
      some ⟨String.ofList (Text.lower l), some (String.ofList (Text.upper r))⟩
    else none
  | _ => none
where
  isLanguage (l : List Char) : Bool := (l.length = 2 ∨ l.length = 3) && l.all Char.isAlpha

def tag (l : Locale) : String :=
  match l.region with
  | some r => l.language ++ "-" ++ r
  | none => l.language

def languageOnly (l : Locale) : Locale := ⟨l.language, none⟩

def toJson (l : Locale) : Json :=
  .object [("language", .text l.language), ("region", (l.region.map Json.text).getD .null)]

end Locale
end FieldRules
