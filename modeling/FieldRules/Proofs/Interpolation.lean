import FieldRules.Proofs.Placeholder

namespace FieldRules.Template

section Text

variable {cs numeral rest : List Char} {i : Nat} (args : List (List Char))

theorem interpolate_append (h : '\x7b' ∉ cs) :
    interpolate args (cs ++ rest) = cs ++ interpolate args rest := by
  rw [interpolate_eq_fill, interpolate_eq_fill, pieces_append h, List.flatMap_append]
  simp [List.flatMap_map, Piece.fill]

theorem interpolate_hole (h : '\x7d' ∉ numeral) (hi : Text.count? numeral = some i) :
    interpolate args ('\x7b' :: (numeral ++ '\x7d' :: rest)) =
      (Piece.hole numeral i).fill args ++ interpolate args rest := by
  rw [interpolate_eq_fill, interpolate_eq_fill, pieces_hole h hi, List.flatMap_cons]

theorem interpolate_brace (h : hole? cs = none) :
    interpolate args ('\x7b' :: cs) = '\x7b' :: interpolate args cs := by
  rw [interpolate_eq_fill, interpolate_eq_fill, pieces_brace h, List.flatMap_cons]
  rfl

end Text

/-- A placeholder whose index is written in digits, and the text up to the next one. -/
structure Slot where
  numeral : List Char
  behind : List Char
  isNumeral : Text.IsNumeral numeral
  brace_notMem : '\x7b' ∉ behind

namespace Slot

def index (s : Slot) : Nat := Text.digitsValue s.numeral

/-- The placeholder itself. -/
def hole (s : Slot) : List Char := '\x7b' :: (s.numeral ++ ['\x7d'])

/-- The argument whose number is written in the placeholder, if that is a machine count. -/
def argument? {α : Type} (args : List α) (s : Slot) : Option α :=
  if s.index ≤ Text.countMax then args[s.index]? else none

def write (s : Slot) : List Char := s.hole ++ s.behind

/-- The argument takes the place of the placeholder, which stays when there is none. -/
def fill (args : List (List Char)) (s : Slot) : List Char :=
  (s.argument? args).getD s.hole ++ s.behind

/-- As many arguments as a machine can hold have a machine count each. -/
theorem argument?_eq {α : Type} {args : List α} (h : args.length ≤ Text.countMax) (s : Slot) :
    s.argument? args = args[s.index]? := by
  by_cases hindex : s.index ≤ Text.countMax
  · exact if_pos hindex
  · have hlength : args.length ≤ s.index := by omega
    rw [argument?, if_neg hindex, List.getElem?_eq_none hlength]

theorem interpolate_write (args : List (List Char)) (s : Slot) (rest : List Char) :
    interpolate args (s.write ++ rest) = s.fill args ++ interpolate args rest := by
  have hbrace : '\x7d' ∉ s.numeral := s.isNumeral.notMem (by decide)
  have hwrite : s.write ++ rest = '\x7b' :: (s.numeral ++ '\x7d' :: (s.behind ++ rest)) := by
    simp [write, hole]
  by_cases hindex : s.index ≤ Text.countMax
  · have hcount : Text.count? s.numeral = some s.index := by
      rw [Text.count?_of_isNumeral s.isNumeral]
      exact if_pos hindex
    rw [hwrite, interpolate_hole args hbrace hcount, interpolate_append args s.brace_notMem, fill,
      argument?, if_pos hindex, Piece.fill, List.getD_eq_getElem?_getD, List.append_assoc]
    rfl
  · have hcount : Text.count? s.numeral = none := by
      rw [Text.count?_of_isNumeral s.isNumeral]
      exact if_neg hindex
    have hhole : hole? (s.numeral ++ '\x7d' :: (s.behind ++ rest)) = none := by
      rw [hole?_closed hbrace, hcount]
      rfl
    have hplain : '\x7b' ∉ s.numeral ++ '\x7d' :: s.behind := by
      simp [s.isNumeral.notMem, s.brace_notMem]
    have hjoin : s.numeral ++ '\x7d' :: (s.behind ++ rest) =
        (s.numeral ++ '\x7d' :: s.behind) ++ rest := by simp
    rw [hwrite, interpolate_brace args hhole, hjoin, interpolate_append args hplain, fill,
      argument?, if_neg hindex]
    simp [hole]

end Slot

/-- A template all of whose placeholders are written in digits. -/
structure Slotted where
  head : List Char
  slots : List Slot
  brace_notMem : '\x7b' ∉ head

namespace Slotted

def text (t : Slotted) : String := String.ofList (t.head ++ t.slots.flatMap Slot.write)

def filled (t : Slotted) (args : List String) : String :=
  String.ofList (t.head ++ t.slots.flatMap (Slot.fill (args.map String.toList)))

end Slotted

theorem interpolate_slots (args : List (List Char)) (ss : List Slot) :
    interpolate args (ss.flatMap Slot.write) = ss.flatMap (Slot.fill args) := by
  induction ss with
  | nil => simp [interpolate]
  | cons s ss ih => rw [List.flatMap_cons, List.flatMap_cons, s.interpolate_write, ih]

/-- Each placeholder gives way to the argument it names, copied as it is, and stays when there is no
such argument; the text between them stays. A numeral beyond the largest machine count names no
argument, and there are never more arguments than that. -/
theorem interpolate_once (t : Slotted) (args : List String) :
    FieldRules.interpolate t.text args = t.filled args ∧
      (args.length ≤ Text.countMax → ∀ s : Slot, s.argument? args = args[s.index]?) := by
  refine ⟨?_, fun h s => s.argument?_eq h⟩
  rw [FieldRules.interpolate, Slotted.text, String.toList_ofList,
    interpolate_append _ t.brace_notMem, interpolate_slots]
  rfl

/-- An argument is not looked into, and a numeral that no count reaches is no index. -/
example :
    FieldRules.interpolate "\x7b1\x7d\x7d\x7b0\x7d\x7b99999999999999999999\x7d" ["\x7b1\x7d", "b"] =
      "b\x7d\x7b1\x7d\x7b99999999999999999999\x7d" := by decide +kernel

end FieldRules.Template
