import FieldRules.Proofs.Bind
import FieldRules.Proofs.WrittenJson

namespace FieldRules.Json

def isNumber : Json → Bool
  | .whole _ => true
  | .float _ => true
  | _ => false

section Number

variable {negative : Bool} {significand : Nat} {e : Int} {cs : List Char} {x : Json}

theorem isNumber_of_bind {α β : Type} {r : Except Fault (Json × α)} {g : α → β} {rest : β}
    (hr : ∀ y later, r = .ok (y, later) → y.isNumber = true)
    (h : (do let (y, later) ← r; return (y, g later)) = Except.ok (x, rest)) :
    x.isNumber = true := by
  obtain ⟨⟨y, later⟩, hy, h⟩ := bind_ok.mp h
  cases h
  exact hr _ _ hy

theorem isNumber_of_finishFloat {α : Type} {ahead : List Char} {after rest : α}
    (h : (do return (← finishFloat negative significand e ahead, after)) = Except.ok (x, rest)) :
    x.isNumber = true := by
  obtain ⟨y, hy, h⟩ := bind_ok.mp h
  cases h
  unfold finishFloat at hy
  split at hy
  · cases hy
    rfl
  · cases hy

theorem isNumber_of_exponentPart {rest : Tail cs}
    (h : exponentPart negative significand e cs = .ok (x, rest)) : x.isNumber = true := by
  unfold exponentPart at h
  split at h
  split at h
  · cases h
  · split at h
    · split at h
      · exact isNumber_of_finishFloat h
      · split at h
        · cases h
        · cases h
          rfl
    · cases h

theorem isNumber_of_afterFraction {rest : Tail cs}
    (h : afterFraction negative significand e cs = .ok (x, rest)) : x.isNumber = true := by
  unfold afterFraction at h
  split at h
  · split at h
    · exact isNumber_of_bind (fun _ _ => isNumber_of_exponentPart) h
    · exact isNumber_of_finishFloat h
  · exact isNumber_of_finishFloat h

theorem isNumber_of_fractionDigits {count : Nat} {rest : Tail cs}
    (h : fractionDigits negative count significand e cs = .ok (x, rest)) :
    x.isNumber = true := by
  induction cs generalizing count significand x with
  | nil =>
    rw [fractionDigits] at h
    split at h
    · cases h
    · exact isNumber_of_afterFraction h
  | cons c cs ih =>
    rw [fractionDigits] at h
    split at h
    · split at h
      · obtain ⟨⟨y, later⟩, hy, h⟩ := bind_ok.mp h
        cases h
        exact isNumber_of_afterFraction hy
      · exact isNumber_of_bind (fun _ _ => ih) h
    · split at h
      · cases h
      · exact isNumber_of_afterFraction h

theorem isNumber_of_longTail {n : Nat} {rest : Tail cs}
    (h : longTail negative significand n cs = .ok (x, rest)) : x.isNumber = true := by
  induction cs generalizing n x with
  | nil => exact isNumber_of_finishFloat h
  | cons c cs ih =>
    rw [longTail] at h
    split at h
    · exact isNumber_of_bind (fun _ _ => ih) h
    · split at h
      · exact isNumber_of_bind (fun _ _ => isNumber_of_fractionDigits) h
      · split at h
        · exact isNumber_of_bind (fun _ _ => isNumber_of_exponentPart) h
        · exact isNumber_of_finishFloat h

theorem isNumber_integer (negative : Bool) (n : Nat) : (integer negative n).isNumber = true := by
  unfold integer
  split
  · rfl
  · split <;> rfl

theorem isNumber_of_integerDigits {n : Nat} {rest : Tail cs}
    (h : integerDigits negative n cs = .ok (x, rest)) : x.isNumber = true := by
  induction cs generalizing n x with
  | nil =>
    cases h
    exact isNumber_integer negative n
  | cons c cs ih =>
    rw [integerDigits] at h
    split at h
    · split at h
      · exact isNumber_of_longTail h
      · exact isNumber_of_bind (fun _ _ => ih) h
    · split at h
      · exact isNumber_of_bind (fun _ _ => isNumber_of_fractionDigits) h
      · split at h
        · exact isNumber_of_bind (fun _ _ => isNumber_of_exponentPart) h
        · cases h
          exact isNumber_integer negative n

/-- What stands where a number does is one. -/
theorem isNumber_of_readNumber {rest : Rest cs} (h : readNumber negative cs = .ok (x, rest)) :
    x.isNumber = true := by
  unfold readNumber at h
  split at h
  · cases h
  · split at h
    · cases h
    · split at h
      · exact isNumber_of_bind (fun _ _ => isNumber_of_integerDigits) h
      · cases h

end Number

/-- No number stands anywhere in the value. -/
inductive Numberless : Json → Prop
  | null : Numberless .null
  | bool (b : Bool) : Numberless (.bool b)
  | text (s : String) : Numberless (.text s)
  | list {items : List Json} : (∀ j ∈ items, Numberless j) → Numberless (.list items)
  | object {members : List (String × Json)} :
      (∀ m ∈ members, Numberless m.2) → Numberless (.object members)

theorem Plain.numberless {depth : Nat} {j : Json} (h : Plain depth j) : Numberless j := by
  induction h with
  | null => exact .null
  | bool _ b => exact .bool b
  | text _ s => exact .text s
  | list _ ih => exact .list ih
  | object _ _ ih => exact .object ih

theorem Numberless.not_isNumber {j : Json} (h : Numberless j) : j.isNumber = false := by
  cases h <;> rfl

section Given

variable {value : ValueReader} {first : Bool} {cs : List Char}

theorem exists_read_of_mem_items {items : List Json} {rest : Tail cs}
    (h : readItems value first cs = .ok (items, rest)) :
    ∀ j ∈ items, ∃ (text : List Char) (left : Rest text), value text = .ok (j, left) := by
  induction hn : cs.length using Nat.strongRecOn generalizing cs first items with
  | _ n ih =>
    rw [readItems] at h
    obtain ⟨⟨more, mid, hmid⟩, -, h⟩ := bind_ok.mp h
    cases more with
    | false =>
      cases h
      simp
    | true =>
      obtain ⟨⟨item, later, hlater⟩, hitem, h⟩ := bind_ok.mp h
      obtain ⟨⟨others, left, hleft⟩, hothers, h⟩ := bind_ok.mp h
      cases h
      intro j hj
      rcases List.mem_cons.mp hj with rfl | hj
      · exact ⟨mid, _, hitem⟩
      · exact ih later.length (by omega) hothers rfl j hj

theorem exists_read_of_mem_members {members : List (String × Json)} {rest : Tail cs}
    (h : readMembers value first cs = .ok (members, rest)) :
    ∀ m ∈ members, ∃ (text : List Char) (left : Rest text), value text = .ok (m.2, left) := by
  induction hn : cs.length using Nat.strongRecOn generalizing cs first members with
  | _ n ih =>
    rw [readMembers] at h
    obtain ⟨⟨more, mid, hmid⟩, -, h⟩ := bind_ok.mp h
    cases more with
    | false =>
      cases h
      simp
    | true =>
      obtain ⟨⟨key, behind, hbehind⟩, -, h⟩ := bind_ok.mp h
      obtain ⟨⟨colon, hcolon⟩, -, h⟩ := bind_ok.mp h
      obtain ⟨⟨item, later, hlater⟩, hitem, h⟩ := bind_ok.mp h
      obtain ⟨⟨others, left, hleft⟩, hothers, h⟩ := bind_ok.mp h
      cases h
      intro m hm
      rcases List.mem_cons.mp hm with rfl | hm
      · exact ⟨colon, _, hitem⟩
      · exact ih later.length (by omega) hothers rfl m hm

variable {depth : Nat} (hvalue : ∀ {text : List Char} {j : Json} {left : Rest text},
  value text = .ok (j, left) → Numberless j → Plain (depth + 1) j)
include hvalue

theorem plain_of_readItems {items : List Json} {rest : Tail cs}
    (h : readItems value first cs = .ok (items, rest)) (hitems : Numberless (.list items)) :
    Plain (depth + 2) (.list items) := by
  obtain ⟨⟩ | ⟨⟩ | ⟨⟩ | ⟨hitems⟩ := hitems
  refine .list fun j hj => ?_
  obtain ⟨text, left, hread⟩ := exists_read_of_mem_items h j hj
  exact hvalue hread (hitems j hj)

theorem plain_of_readMembers {members : List (String × Json)} {rest : Tail cs}
    (h : readMembers value first cs = .ok (members, rest))
    (hmembers : Numberless (.object (Entries.ofList members))) :
    Plain (depth + 2) (.object (Entries.ofList members)) := by
  obtain ⟨⟩ | ⟨⟩ | ⟨⟩ | ⟨⟩ | ⟨hmembers⟩ := hmembers
  refine .object (Entries.sorted_ofList members) fun m hm => ?_
  obtain ⟨text, left, hread⟩ := exists_read_of_mem_members h m (Entries.mem_of_mem_ofList hm)
  exact hvalue hread (hmembers m hm)

end Given

theorem eq_of_literal {value j : Json} {letters cs : List Char} {rest : Tail cs}
    (h : literal value letters cs = .ok (j, rest)) : j = value := by
  induction letters generalizing cs with
  | nil =>
    cases h
    rfl
  | cons l ls ih =>
    cases cs with
    | nil => cases h
    | cons c cs =>
      change (if l = c then
          literal value ls cs >>= fun r => .ok (r.1, ⟨r.2.1, Nat.le_succ_of_le r.2.2⟩)
        else .error ⟨.expectedIdent, c :: cs, 1⟩) = .ok (j, rest) at h
      split at h
      · obtain ⟨⟨v, left, hleft⟩, hv, h⟩ := bind_ok.mp h
        cases h
        exact ih hv
      · cases h

theorem plain_of_readValue {depth : Nat} {cs : List Char} {j : Json} {rest : Rest cs}
    (h : readValue depth cs = .ok (j, rest)) (hj : Numberless j) : Plain depth j := by
  induction depth using Nat.strongRecOn generalizing cs j with
  | _ depth ih =>
    rw [readValue] at h
    split at h
    split at h
    · cases h
    split at h
    · obtain ⟨⟨v, left⟩, hv, h⟩ := map_ok.mp h
      cases h
      rw [eq_of_literal hv]
      exact .null depth
    split at h
    · obtain ⟨⟨v, left⟩, hv, h⟩ := map_ok.mp h
      cases h
      rw [eq_of_literal hv]
      exact .bool depth true
    split at h
    · obtain ⟨⟨v, left⟩, hv, h⟩ := map_ok.mp h
      cases h
      rw [eq_of_literal hv]
      exact .bool depth false
    split at h
    · obtain ⟨⟨x, left, hleft⟩, hx, h⟩ := bind_ok.mp h
      cases h
      cases (isNumber_of_readNumber hx).symm.trans hj.not_isNumber
    split at h
    · obtain ⟨⟨x, left, hleft⟩, hx, h⟩ := bind_ok.mp h
      cases h
      cases (isNumber_of_readNumber hx).symm.trans hj.not_isNumber
    split at h
    · obtain ⟨⟨s, left, hleft⟩, -, h⟩ := bind_ok.mp h
      cases h
      exact .text depth _
    split at h
    · split at h
      · cases h
      · cases h
      · obtain ⟨⟨items, left⟩, hitems, h⟩ := map_ok.mp h
        cases h
        rename_i d hd
        obtain ⟨e, rfl⟩ := Nat.exists_eq_succ_of_ne_zero hd
        exact plain_of_readItems (ih (e + 1) (by omega)) hitems hj
    split at h
    · split at h
      · cases h
      · cases h
      · obtain ⟨⟨members, left⟩, hmembers, h⟩ := map_ok.mp h
        cases h
        rename_i d hd
        obtain ⟨e, rfl⟩ := Nat.exists_eq_succ_of_ne_zero hd
        exact plain_of_readMembers (ih (e + 1) (by omega)) hmembers hj
    · cases h

/-- Every value without numbers that comes from a text is written as a text that it comes from. -/
theorem plain_of_read {text : String} {j : Json} (h : read text = .ok j) (hj : Numberless j) :
    Plain depthLimit j := by
  unfold read at h
  cases hread : readChars text.toList with
  | error e =>
    rw [hread] at h
    cases h
  | ok v =>
    rw [hread] at h
    cases h
    rw [readChars] at hread
    obtain ⟨⟨value, left, hleft⟩, hvalue, hread⟩ := bind_ok.mp hread
    dsimp only at hread
    split at hread
    · cases hread
      exact plain_of_readValue hvalue hj
    · cases hread

end FieldRules.Json
