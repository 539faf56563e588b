import FieldRules.Json.String

namespace FieldRules.Json

def isSpace (c : Char) : Bool := c == ' ' || c == '\n' || c == '\t' || c == '\r'

def skipSpace (cs : List Char) : Tail cs := Tail.dropWhile isSpace cs

/-- The rest of a literal whose first letter has been read. -/
def literal (value : Json) :
    (letters : List Char) → (cs : List Char) → Except Fault (Json × Tail cs)
  | [], cs => .ok (value, ⟨cs, Nat.le_refl _⟩)
  | _ :: _, [] => .error ⟨.endInValue, [], 0⟩
  | l :: ls, c :: cs =>
    if l = c then do
      let (v, ⟨rest, h⟩) ← literal value ls cs
      return (v, ⟨rest, by simp only [List.length_cons]; omega⟩)
    else .error ⟨.expectedIdent, c :: cs, 1⟩

abbrev ValueReader := (cs : List Char) → Except Fault (Json × Rest cs)

/-- What parts two items of a list: `false` when it ends here. -/
def nextItem (first : Bool) (cs : List Char) : Except Fault (Bool × Tail cs) :=
  let ⟨rest, h⟩ := skipSpace cs
  match rest with
  | [] => .error ⟨.endInList, [], 0⟩
  | c :: later =>
    if c = ']' then .ok (false, ⟨later, by simp only [List.length_cons] at h; omega⟩)
    else if first then .ok (true, ⟨c :: later, h⟩)
    else if c = ',' then
      let ⟨after, hAfter⟩ := skipSpace later
      match after with
      | [] => .error ⟨.endInValue, [], 0⟩
      | d :: tail =>
        if d = ']' then .error ⟨.trailingComma, d :: tail, 1⟩
        else .ok (true, ⟨d :: tail, by simp at h hAfter ⊢; omega⟩)
    else .error ⟨.expectedListCommaOrEnd, c :: later, 1⟩

/-- The items of a list behind its bracket, or behind an item. -/
def readItems (value : ValueReader) (first : Bool) (cs : List Char) :
    Except Fault (List Json × Tail cs) := do
  match ← nextItem first cs with
  | (false, rest) => return ([], rest)
  | (true, ⟨rest, h⟩) =>
    let (item, ⟨later, hLater⟩) ← value rest
    let (items, ⟨after, hAfter⟩) ← readItems value false later
    return (item :: items, ⟨after, by omega⟩)
termination_by cs.length
decreasing_by omega

/-- What parts two members of an object: the text behind the next key's quote, if a key comes. -/
def nextKey (first : Bool) (cs : List Char) : Except Fault (Bool × Tail cs) :=
  let ⟨rest, h⟩ := skipSpace cs
  match rest with
  | [] => .error ⟨.endInObject, [], 0⟩
  | c :: later =>
    if c = '\x7d' then .ok (false, ⟨later, by simp only [List.length_cons] at h; omega⟩)
    else if first then
      if c = '"' then .ok (true, ⟨later, by simp only [List.length_cons] at h; omega⟩)
      else .error ⟨.keyNotString, c :: later, 1⟩
    else if c = ',' then
      let ⟨after, hAfter⟩ := skipSpace later
      match after with
      | [] => .error ⟨.endInValue, [], 0⟩
      | d :: tail =>
        if d = '"' then .ok (true, ⟨tail, by simp only [List.length_cons] at h hAfter; omega⟩)
        else if d = '\x7d' then .error ⟨.trailingComma, d :: tail, 1⟩
        else .error ⟨.keyNotString, d :: tail, 1⟩
    else .error ⟨.expectedObjectCommaOrEnd, c :: later, 1⟩

def readColon (cs : List Char) : Except Fault (Rest cs) :=
  let ⟨rest, h⟩ := skipSpace cs
  match rest with
  | [] => .error ⟨.endInObject, [], 0⟩
  | c :: later =>
    if c = ':' then .ok ⟨later, by simp only [List.length_cons] at h; omega⟩
    else .error ⟨.expectedColon, c :: later, 1⟩

/-- The members of an object behind its brace, or behind a member, in the order of the text. -/
def readMembers (value : ValueReader) (first : Bool) (cs : List Char) :
    Except Fault (List (String × Json) × Tail cs) := do
  match ← nextKey first cs with
  | (false, rest) => return ([], rest)
  | (true, ⟨rest, h⟩) =>
    let (key, ⟨rest1, h1⟩) ← readString rest
    let ⟨rest2, h2⟩ ← readColon rest1
    let (item, ⟨rest3, h3⟩) ← value rest2
    let (members, ⟨rest4, h4⟩) ← readMembers value false rest3
    return ((String.ofList key, item) :: members, ⟨rest4, by omega⟩)
termination_by cs.length
decreasing_by omega

/-- One value, with the space before it. A list or an object needs a level of `depth`, and the last
level is never used. -/
def readValue (depth : Nat) : ValueReader := fun cs =>
  let ⟨rest, h⟩ := skipSpace cs
  match rest with
  | [] => .error ⟨.endInValue, [], 0⟩
  | c :: later =>
    let shorter {α : Type} (r : α × Tail later) : α × Rest cs :=
      (r.1, ⟨r.2.1, by have := r.2.2; simp at h; omega⟩)
    if c = 'n' then shorter <$> literal .null "ull".toList later
    else if c = 't' then shorter <$> literal (.bool true) "rue".toList later
    else if c = 'f' then shorter <$> literal (.bool false) "alse".toList later
    else if c = '-' then do
      let (x, ⟨r, hLater⟩) ← readNumber true later
      return (x, ⟨r, by simp only [List.length_cons] at h; omega⟩)
    else if c.isDigit then do
      let (x, ⟨r, hLater⟩) ← readNumber false (c :: later)
      return (x, ⟨r, by simp only [List.length_cons] at h hLater; omega⟩)
    else if c = '"' then do
      let (s, ⟨r, hLater⟩) ← readString later
      return (.text (String.ofList s), ⟨r, by simp only [List.length_cons] at h; omega⟩)
    else if c = '[' then
      match depth with
      | 0 | 1 => .error ⟨.recursionLimit, c :: later, 1⟩
      | depth + 1 =>
        (fun r => shorter (Json.list r.1, r.2)) <$> readItems (readValue depth) true later
    else if c = '\x7b' then
      match depth with
      | 0 | 1 => .error ⟨.recursionLimit, c :: later, 1⟩
      | depth + 1 =>
        (fun r => shorter (Json.object (Entries.ofList r.1), r.2)) <$>
          readMembers (readValue depth) true later
    else .error ⟨.expectedValue, c :: later, 1⟩

def depthLimit : Nat := 128

/-- Reads a whole text. -/
def readChars (text : List Char) : Except Fault Json := do
  let (value, ⟨rest, _⟩) ← readValue depthLimit text
  match (skipSpace rest).1 with
  | [] => return value
  | rest => .error ⟨.trailingCharacters, rest, 1⟩

def read (text : String) : Except Error Json :=
  (readChars text.toList).mapError fun fault => fault.locate text.toList

end FieldRules.Json
