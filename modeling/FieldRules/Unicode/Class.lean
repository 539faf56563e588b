import FieldRules.Unicode.CodeSet
import FieldRules.Unicode.Category
import FieldRules.Unicode.Script
import FieldRules.Unicode.Property

namespace FieldRules.Unicode

namespace CodeSet

def ofProperty (name : String) : CodeSet := ofSpans (propertySpans name)

def ofCategories (codes : List String) : CodeSet := ofSpans (categorySpans codes)

def digit : CodeSet := ofCategories ["Nd"]

def space : CodeSet := ofProperty "White_Space"

/-- Letters, marks, digits, connectors and joiners. -/
def word : CodeSet :=
  unions [ofProperty "Alphabetic", ofCategories ["Mn", "Mc", "Me", "Nd", "Pc"],
    ofProperty "Join_Control"]

def alphabetic : CodeSet := ofProperty "Alphabetic"

def alphanumeric : CodeSet := alphabetic.union (ofCategories ["Nd", "Nl", "No"])

def asciiDigit : CodeSet := range 0x30 0x39

def asciiSpace : CodeSet := (range 0x09 0x0D).union (single ' ')

def asciiLetter : CodeSet := (range 0x41 0x5A).union (range 0x61 0x7A)

def asciiWord : CodeSet := unions [asciiLetter, asciiDigit, single '_']

/-- A category, a script or a property by its name alone. A name that is short for a category and
for a property is the category's. -/
def named? (name : List Char) : Option CodeSet :=
  let loose := looseName name
  let ofCategory := (category? loose).orElse fun _ => script? loose
  let spans :=
    if ["cf", "sc", "lc"].any (·.toList == loose) then ofCategory
    else (property? loose).orElse fun _ => ofCategory
  spans.map ofSpans

/-- A category or a script by its kind and name. -/
def valued? (kind name : List Char) : Option CodeSet :=
  let kind := looseName kind
  let spans :=
    if isNamed ["General_Category", "gc"] kind then category? (looseName name)
    else if isNamed ["Script", "sc"] kind then script? (looseName name)
    else none
  spans.map ofSpans

end CodeSet
end FieldRules.Unicode
