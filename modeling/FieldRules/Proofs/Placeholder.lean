import Mathlib.Data.List.TakeWhile
import FieldRules.Message.Template
import FieldRules.Proofs.Numeral

namespace FieldRules.Template

/-- A part of a template: a character that stands for itself, or a placeholder, whose text between
the braces is the numeral of an index. -/
inductive Piece where
  | plain (c : Char)
  | hole (numeral : List Char) (index : Nat)
  deriving DecidableEq

namespace Piece

/-- The part as the template has it. -/
def write : Piece → List Char
  | plain c => [c]
  | hole numeral _ => '\x7b' :: (numeral ++ ['\x7d'])

/-- The part with the arguments in place. A placeholder whose argument is missing stays. -/
def fill (args : List (List Char)) : Piece → List Char
  | plain c => [c]
  | hole numeral i => args.getD i (hole numeral i).write

def index? : Piece → Option Nat
  | plain _ => none
  | hole _ i => some i

theorem fill_nil : fill [] = write := by
  funext p
  cases p <;> rfl

end Piece

/-- The numeral behind an opening brace and its value, if a closing brace follows it. -/
def hole? (cs : List Char) : Option (List Char × Nat) :=
  let numeral := cs.takeWhile (· ≠ '\x7d')
  if '\x7d' ∈ cs then (Text.count? numeral).map fun i => (numeral, i) else none

/-- Pieces of a text whose first `left` characters belong to the placeholder before it. -/
def piecesBehind : (left : Nat) → List Char → List Piece
  | _, [] => []
  | left + 1, _ :: cs => piecesBehind left cs
  | 0, c :: cs =>
    if c = '\x7b' then
      match hole? cs with
      | some (numeral, i) => .hole numeral i :: piecesBehind (numeral.length + 1) cs
      | none => .plain c :: piecesBehind 0 cs
    else .plain c :: piecesBehind 0 cs

def pieces (cs : List Char) : List Piece := piecesBehind 0 cs

/-- The indices that the placeholders of a template name. -/
def indices (cs : List Char) : List Nat := (pieces cs).filterMap Piece.index?

section Text

variable {cs numeral rest : List Char} {i : Nat} {args : List (List Char)}

theorem ne_brace (h : '\x7d' ∉ cs) : ∀ c ∈ cs, decide (c ≠ '\x7d') = true := by
  intro c hc
  simpa using fun he : c = '\x7d' => h (he ▸ hc)

theorem takeWhile_closed (h : '\x7d' ∉ numeral) :
    (numeral ++ '\x7d' :: rest).takeWhile (· ≠ '\x7d') = numeral := by
  rw [List.takeWhile_append_of_pos (ne_brace h)]
  simp

theorem dropWhile_closed (h : '\x7d' ∉ numeral) :
    (numeral ++ '\x7d' :: rest).dropWhile (· ≠ '\x7d') = '\x7d' :: rest := by
  rw [List.dropWhile_append_of_pos (ne_brace h)]
  simp

theorem hole?_closed (h : '\x7d' ∉ numeral) :
    hole? (numeral ++ '\x7d' :: rest) = (Text.count? numeral).map fun i => (numeral, i) := by
  rw [hole?, takeWhile_closed h]
  simp

theorem hole?_unclosed (h : '\x7d' ∉ cs) : hole? cs = none := by
  simp [hole?, h]

theorem placeholder?_closed (args : List (List Char)) (rest : List Char) (h : '\x7d' ∉ numeral) :
    (placeholder? args (numeral ++ '\x7d' :: rest)).map (fun p => (p.1, p.2.1)) =
      (Text.count? numeral).bind fun i => args[i]?.map fun arg => (arg, rest) := by
  have hdrop : (Tail.dropWhile (· ≠ '\x7d') (numeral ++ '\x7d' :: rest)).1 = '\x7d' :: rest :=
    dropWhile_closed h
  unfold placeholder?
  rw [takeWhile_closed h]
  -- The tail has its bound in its type, so it is generalized before it is rewritten.
  generalize Tail.dropWhile (· ≠ '\x7d') (numeral ++ '\x7d' :: rest) = t at hdrop
  obtain ⟨_, ht⟩ := t
  subst hdrop
  cases hi : Text.count? numeral with
  | none => rfl
  | some i =>
    cases harg : args[i]? <;> simp [harg, Rest.within, Rest.next, Tail.behind, Tail.all]

theorem placeholder?_unclosed (h : '\x7d' ∉ cs) : placeholder? args cs = none := by
  have hdrop : (Tail.dropWhile (· ≠ '\x7d') cs).1 = [] :=
    List.dropWhile_eq_nil_iff.mpr (ne_brace h)
  unfold placeholder?
  generalize Tail.dropWhile (· ≠ '\x7d') cs = t at hdrop
  obtain ⟨_, ht⟩ := t
  subst hdrop
  rfl

theorem pieces_cons {c : Char} (h : c ≠ '\x7b') : pieces (c :: cs) = .plain c :: pieces cs := by
  simp [pieces, piecesBehind, h]

/-- Text without an opening brace is all plain. -/
theorem pieces_append (h : '\x7b' ∉ cs) : pieces (cs ++ rest) = cs.map .plain ++ pieces rest := by
  induction cs with
  | nil => rfl
  | cons c cs ih =>
    obtain ⟨hc, hcs⟩ := not_or.mp (mt List.mem_cons.mpr h)
    rw [List.cons_append, pieces_cons (Ne.symm hc), ih hcs]
    rfl

theorem piecesBehind_eq (left : Nat) (cs : List Char) :
    piecesBehind left cs = pieces (cs.drop left) := by
  induction left generalizing cs with
  | zero => rfl
  | succ left ih =>
    cases cs with
    | nil => simp [pieces, piecesBehind]
    | cons c cs => rw [piecesBehind, ih, List.drop_succ_cons]

theorem pieces_hole (h : '\x7d' ∉ numeral) (hi : Text.count? numeral = some i) :
    pieces ('\x7b' :: (numeral ++ '\x7d' :: rest)) = .hole numeral i :: pieces rest := by
  have hhole : hole? (numeral ++ '\x7d' :: rest) = some (numeral, i) := by
    rw [hole?_closed h, hi]
    rfl
  simp only [pieces, piecesBehind, if_true, hhole]
  rw [piecesBehind_eq]
  simp [pieces]

theorem pieces_brace (h : hole? cs = none) :
    pieces ('\x7b' :: cs) = .plain '\x7b' :: pieces cs := by
  simp [pieces, piecesBehind, h]

/-- What a placeholder that was read looks like. -/
theorem exists_hole_of_placeholder? {arg : List Char} {hrest : rest.length < cs.length}
    (h : placeholder? args cs = some (arg, ⟨rest, hrest⟩)) :
    ∃ numeral i, cs = numeral ++ '\x7d' :: rest ∧ '\x7d' ∉ numeral ∧
      Text.count? numeral = some i ∧ args[i]? = some arg := by
  by_cases hclosed : '\x7d' ∈ cs
  · obtain ⟨numeral, tail, rfl, hno⟩ := List.eq_append_cons_of_mem hclosed
    have hread := placeholder?_closed args tail hno
    rw [h] at hread
    obtain ⟨i, hi, hmap⟩ := Option.bind_eq_some_iff.mp hread.symm
    obtain ⟨_, harg, hpair⟩ := Option.map_eq_some_iff.mp hmap
    obtain ⟨rfl, htail : tail = rest⟩ := Prod.mk.inj hpair
    exact ⟨numeral, i, by rw [htail], hno, hi, harg⟩
  · rw [placeholder?_unclosed hclosed] at h
    cases h

/-- A brace that opens no placeholder, or one without its argument. -/
theorem hole_of_placeholder?_none (h : placeholder? args cs = none) :
    hole? cs = none ∨ ∃ numeral i rest, cs = numeral ++ '\x7d' :: rest ∧ '\x7d' ∉ numeral ∧
      Text.count? numeral = some i ∧ args[i]? = none := by
  by_cases hclosed : '\x7d' ∈ cs
  · obtain ⟨numeral, tail, rfl, hno⟩ := List.eq_append_cons_of_mem hclosed
    have hread := placeholder?_closed args tail hno
    cases hi : Text.count? numeral with
    | none => exact .inl (by rw [hole?_closed hno, hi]; rfl)
    | some i =>
      rw [h, hi] at hread
      exact .inr ⟨numeral, i, tail, rfl, hno, hi, Option.map_eq_none_iff.mp hread.symm⟩
  · exact .inl (hole?_unclosed hclosed)

/-- The arguments are put in place piece by piece. -/
theorem interpolate_eq_fill (args : List (List Char)) (cs : List Char) :
    interpolate args cs = (pieces cs).flatMap (Piece.fill args) := by
  induction cs using interpolate.induct args with
  | case1 => simp [interpolate, pieces, piecesBehind]
  | case2 cs arg rest hrest h ih =>
    rw [interpolate, if_pos rfl, h]
    obtain ⟨numeral, i, rfl, hno, hi, harg⟩ := exists_hole_of_placeholder? h
    rw [pieces_hole hno hi, List.flatMap_cons, ← ih, Piece.fill, List.getD_eq_getElem?_getD, harg]
    rfl
  | case3 cs h ih =>
    rw [interpolate, if_pos rfl, h]
    simp only [ih]
    rcases hole_of_placeholder?_none h with hnone | ⟨numeral, i, rest, rfl, hno, hi, harg⟩
    · rw [pieces_brace hnone]
      rfl
    · -- The placeholder stays: what is left of it is plain text.
      have hplain : '\x7b' ∉ numeral := Text.notMem_of_count? hi (by decide) (by decide)
      rw [pieces_hole hno hi, pieces_append hplain]
      have hbrace : pieces ('\x7d' :: rest) = .plain '\x7d' :: pieces rest :=
        pieces_cons (by decide)
      have hnumeral : (numeral.map Piece.plain).flatMap (Piece.fill args) = numeral := by
        simp [List.flatMap_map, Piece.fill]
      rw [hbrace, List.flatMap_append, hnumeral]
      simp [Piece.fill, Piece.write, harg]
  | case4 c cs hc ih =>
    rw [interpolate, if_neg hc, pieces_cons hc, ih]
    rfl

end Text

theorem placeholder?_no_args (cs : List Char) : placeholder? [] cs = none := by
  by_contra h
  obtain ⟨⟨arg, rest, hrest⟩, h⟩ := Option.ne_none_iff_exists'.mp h
  obtain ⟨numeral, i, -, -, -, harg⟩ := exists_hole_of_placeholder? h
  cases harg

/-- With no arguments a template stays as it is. -/
theorem interpolate_no_args (cs : List Char) : interpolate [] cs = cs := by
  induction cs with
  | nil => simp [interpolate]
  | cons c cs ih => simp [interpolate, placeholder?_no_args, ih]

/-- A template is its pieces put together again. -/
theorem flatMap_write_pieces (cs : List Char) : (pieces cs).flatMap Piece.write = cs := by
  rw [← Piece.fill_nil, ← interpolate_eq_fill, interpolate_no_args]

end FieldRules.Template
