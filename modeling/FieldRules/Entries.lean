namespace FieldRules

/-- Entries by key, in the order of the keys' code points. -/
abbrev Entries (α : Type) := List (String × α)

namespace Entries

variable {α β : Type}

def get? (k : String) : Entries α → Option α
  | [] => none
  | (k', v) :: es => if k = k' then some v else get? k es

def insert (k : String) (v : α) : Entries α → Entries α
  | [] => [(k, v)]
  | (k', v') :: es =>
    if k = k' then (k, v) :: es
    else if k < k' then (k, v) :: (k', v') :: es
    else (k', v') :: insert k v es

def contains (k : String) (es : Entries α) : Bool := (get? k es).isSome

/-- Inserts every entry of `new`; of two under one key the new one stays. -/
def merge (es new : Entries α) : Entries α := new.foldl (fun es e => insert e.1 e.2 es) es

def ofList (es : List (String × α)) : Entries α := merge [] es

def keys (es : Entries α) : List String := es.map Prod.fst

theorem get?_insert (k j : String) (v : α) (es : Entries α) :
    get? j (insert k v es) = if j = k then some v else get? j es := by
  induction es with
  | nil => simp [insert, get?]
  | cons e es ih =>
    obtain ⟨k', v'⟩ := e
    simp only [insert]
    split
    · rename_i h
      subst h
      simp only [get?]
      split <;> rfl
    · split
      · simp [get?]
      · simp only [get?, ih]
        split
        · rename_i h1 h2 h3
          subst h3
          simp [Ne.symm h1]
        · rfl

end Entries
end FieldRules
