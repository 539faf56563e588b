import FieldRules.Proofs.ScanAppend
import FieldRules.Proofs.TextSlice
import Mathlib.Data.Nat.PSub

namespace FieldRules

open Text (byteLength slice? IsBoundary)

/-- What has been read of the token at hand, with the places where its parts begin. -/
structure PlaceScanner where
  prev : Char := ' '
  depth : Nat := 0
  tokenStart : Option Nat := none
  /-- The open token has had an argument list. -/
  hasArgs : Bool := false
  /-- Where the list opened last has its parenthesis. -/
  parenStart : Nat := 0
  argStart : Nat := 0
  /-- Arguments of the open list read so far. -/
  args : List String := []
  deriving DecidableEq

namespace PlaceScanner

/-- The arguments with the one that ends at the place; `none` when it cannot be taken. -/
def pushArg? (rule : List Char) (p : PlaceScanner) (stop : Nat) : Option (List String) := do
  let raw ← slice? p.argStart stop rule
  return p.args ++ [String.ofList (Argument.unescape raw)]

/-- The end of the list opened first; a single blank argument stands for none. -/
def close? (rule : List Char) (p : PlaceScanner) (here : Nat) : Option Call := do
  let raw ← slice? p.argStart here rule
  let args ← if p.args = [] ∧ Text.trimSpaces raw = [] then some p.args else p.pushArg? rule here
  let verb ← slice? (p.tokenStart.getD p.parenStart) p.parenStart rule
  return ⟨String.ofList verb, args, true⟩

/-- A character inside an argument list. -/
def stepInside? (rule : List Char) (p : PlaceScanner) (here : Nat) (c : Char) :
    Option (PlaceScanner × Option Call) :=
  let on := { p with prev := c }
  if p.prev = '\\' then some (on, none)
  else if c = '(' then some ({ on with depth := p.depth + 1 }, none)
  else if c = ')' then do
    let depth ← p.depth.ppred
    if depth = 0 then
      let call ← p.close? rule here
      return ({ on with depth := 0, args := [] }, some call)
    else return ({ on with depth := depth }, none)
  else if c = ',' ∧ p.depth = 1 then do
    let args ← p.pushArg? rule here
    return ({ on with argStart := here + 1, args := args }, none)
  else some (on, none)

/-- A character outside argument lists. -/
def stepOutside? (rule : List Char) (p : PlaceScanner) (here : Nat) (c : Char) :
    Option (PlaceScanner × Option Call) :=
  let on := { p with prev := c }
  let start := p.tokenStart.getD here
  if c = ' ' then
    match p.tokenStart with
    | none => some (on, none)
    | some start =>
      let after := { on with tokenStart := none, hasArgs := false }
      if p.hasArgs then some (after, none)
      else do return (after, some (Call.bare (← slice? start here rule)))
  else if c = '(' ∧ p.prev ≠ '\\' then
    some ({ on with
      tokenStart := some start, hasArgs := true, depth := 1, parenStart := here,
      argStart := here + 1 }, none)
  else some ({ on with tokenStart := some start }, none)

/-- Reads the character at the place, and gives the call that it completes; `none` when a text that
is not there is taken, or a list closed that is not open. -/
def step? (rule : List Char) (p : PlaceScanner) (here : Nat) (c : Char) :
    Option (PlaceScanner × Option Call) :=
  if 0 < p.depth then p.stepInside? rule here c else p.stepOutside? rule here c

/-- Reads characters from the place on. -/
def run? (rule : List Char) (p : PlaceScanner) (here : Nat) :
    List Char → Option (PlaceScanner × List Call)
  | [] => some (p, [])
  | c :: cs => do
    let (q, call) ← p.step? rule here c
    let (r, calls) ← q.run? rule (here + c.utf8Size) cs
    return (r, call.toList ++ calls)

/-- The end of the rule. -/
def finish? (rule : List Char) (p : PlaceScanner) : Option (Option Call) :=
  match p.tokenStart with
  | none => some none
  | some start =>
    if p.hasArgs ∨ 0 < p.depth then some none
    else do return some (Call.bare (← slice? start (byteLength rule) rule))

end PlaceScanner

/-- The calls of a rule, in order, with each text taken out of the rule. -/
def scanPlaces? (rule : String) : Option (List Call) := do
  let (p, calls) ← ({} : PlaceScanner).run? rule.toList 0 rule.toList
  return calls ++ (← p.finish? rule.toList).toList

namespace PlaceScanner

/-- A parenthesis with no backslash before it stands at the place. -/
def OpensAt (rule : List Char) (n : Nat) : Prop :=
  ∃ before after, rule = before ++ '(' :: after ∧ byteLength before = n ∧
    before.getLast? ≠ some '\\'

/-- What holds of the scanner behind a part of the rule. -/
structure Sound (rule before : List Char) (p : PlaceScanner) : Prop where
  prev_eq : p.prev = before.getLast?.getD ' '
  args_nil : p.depth = 0 → p.args = []
  in_token : p.hasArgs = true → p.tokenStart.isSome
  in_list : 0 < p.depth → p.hasArgs = true ∧ (∃ start ∈ p.tokenStart, start ≤ p.parenStart) ∧
    p.parenStart < p.argStart ∧ p.argStart ≤ byteLength before ∧ OpensAt rule p.parenStart
  start_le : ∀ start ∈ p.tokenStart, start ≤ byteLength before
  start_boundary : ∀ start ∈ p.tokenStart, IsBoundary rule start
  paren_boundary : IsBoundary rule p.parenStart
  arg_boundary : IsBoundary rule p.argStart
  here_boundary : IsBoundary rule (byteLength before)

theorem sound_start (rule : List Char) : ({} : PlaceScanner).Sound rule [] := by
  have hfront : IsBoundary rule 0 := ⟨[], rule, rfl, rfl⟩
  exact ⟨rfl, fun _ => rfl, nofun, nofun, nofun, nofun, hfront, hfront, hfront⟩

section Sound

variable {rule before after : List Char} {p : PlaceScanner} {c : Char}

theorem Sound.exists_slice? (h : p.Sound rule before) (hp : 0 < p.depth) :
    (∃ raw, slice? p.argStart (byteLength before) rule = some raw) ∧
      ∃ verb, slice? (p.tokenStart.getD p.parenStart) p.parenStart rule = some verb := by
  obtain ⟨-, ⟨start, hstart, hle⟩, -, harg, -⟩ := h.in_list hp
  have hget : p.tokenStart.getD p.parenStart = start := by rw [hstart, Option.getD_some]
  constructor
  · exact Option.isSome_iff_exists.mp
      (Text.isSome_slice?_iff.mpr ⟨harg, h.arg_boundary, h.here_boundary⟩)
  · rw [hget]
    exact Option.isSome_iff_exists.mp
      (Text.isSome_slice?_iff.mpr ⟨hle, h.start_boundary start hstart, h.paren_boundary⟩)

theorem Sound.exists_pushArg? (h : p.Sound rule before) (hp : 0 < p.depth) :
    ∃ args, p.pushArg? rule (byteLength before) = some args := by
  obtain ⟨⟨raw, hraw⟩, -⟩ := h.exists_slice? hp
  exact ⟨_, by rw [pushArg?, hraw]; rfl⟩

theorem Sound.exists_close? (h : p.Sound rule before) (hp : 0 < p.depth) :
    ∃ call, p.close? rule (byteLength before) = some call := by
  obtain ⟨⟨raw, hraw⟩, verb, hverb⟩ := h.exists_slice? hp
  obtain ⟨args, hargs⟩ := h.exists_pushArg? hp
  simp only [close?, hraw, hverb, hargs, Option.bind_eq_bind, Option.bind_some]
  split <;> exact ⟨_, rfl⟩

/-- Where the token begins, be it with the character that is read now. -/
theorem Sound.start_of_token (h : p.Sound rule before) :
    p.tokenStart.getD (byteLength before) ≤ byteLength before ∧
      IsBoundary rule (p.tokenStart.getD (byteLength before)) := by
  cases htoken : p.tokenStart with
  | none => exact ⟨Nat.le_refl _, h.here_boundary⟩
  | some start => exact ⟨h.start_le start htoken, h.start_boundary start htoken⟩

/-- A character that only is read. -/
theorem Sound.on (h : p.Sound rule before) (hrule : rule = before ++ c :: after) :
    ({ p with prev := c } : PlaceScanner).Sound rule (before ++ [c]) := by
  have hlonger : byteLength before ≤ byteLength (before ++ [c]) := by
    rw [Text.byteLength_snoc]
    exact Nat.le_add_right _ _
  refine { h with
    prev_eq := by simp
    in_list := fun hp => ?_
    start_le := fun start hstart => Nat.le_trans (h.start_le start hstart) hlonger
    here_boundary := ⟨before ++ [c], after, by simp [hrule], rfl⟩ }
  obtain ⟨hargs, hstart, hparen, harg, hopens⟩ := h.in_list hp
  exact ⟨hargs, hstart, hparen, Nat.le_trans harg hlonger, hopens⟩

theorem Sound.stepInside (h : p.Sound rule before) (hp : 0 < p.depth)
    (hrule : rule = before ++ c :: after) :
    ∃ q call, p.stepInside? rule (byteLength before) c = some (q, call) ∧
      q.Sound rule (before ++ [c]) := by
  have hon := h.on hrule
  have hlist := hon.in_list hp
  simp only [stepInside?]
  by_cases hprev : p.prev = '\\'
  · exact ⟨_, _, if_pos hprev, hon⟩
  rw [if_neg hprev]
  by_cases hopen : c = '('
  · exact ⟨_, _, if_pos hopen, { hon with args_nil := nofun, in_list := fun _ => hlist }⟩
  rw [if_neg hopen]
  by_cases hclose : c = ')'
  · obtain ⟨depth, hdepth⟩ := Nat.exists_eq_add_one.mpr hp
    rw [if_pos hclose, hdepth, Nat.ppred_succ, Option.bind_eq_bind, Option.bind_some]
    by_cases hlast : depth = 0
    · obtain ⟨call, hcall⟩ := h.exists_close? hp
      rw [if_pos hlast, hcall]
      exact ⟨_, _, rfl, { hon with args_nil := fun _ => rfl, in_list := nofun }⟩
    · rw [if_neg hlast]
      exact ⟨_, _, rfl, { hon with args_nil := fun h => absurd h hlast, in_list := fun _ => hlist }⟩
  rw [if_neg hclose]
  by_cases hcomma : c = ',' ∧ p.depth = 1
  · obtain ⟨args, hargs⟩ := h.exists_pushArg? hp
    rw [if_pos hcomma, hargs]
    have hhere : byteLength before + 1 = byteLength (before ++ [c]) := by
      rw [Text.byteLength_snoc, hcomma.1]
      rfl
    obtain ⟨hhas, hstart, hparen, harg, hopens⟩ := hlist
    refine ⟨_, _, rfl, { hon with args_nil := ?_, in_list := fun _ => ?_, arg_boundary := ?_ }⟩
    · exact fun h => absurd h (Nat.ne_of_gt hp)
    · have hbefore : p.argStart ≤ byteLength before := (h.in_list hp).2.2.2.1
      have horder : p.parenStart < byteLength before + 1 :=
        Nat.lt_succ_of_lt (Nat.lt_of_lt_of_le hparen hbefore)
      exact ⟨hhas, hstart, horder, Nat.le_of_eq hhere, hopens⟩
    · simp only [hhere]
      exact hon.here_boundary
  · exact ⟨_, _, if_neg hcomma, hon⟩

theorem Sound.stepOutside (h : p.Sound rule before) (hp : p.depth = 0)
    (hrule : rule = before ++ c :: after) :
    ∃ q call, p.stepOutside? rule (byteLength before) c = some (q, call) ∧
      q.Sound rule (before ++ [c]) := by
  have hon := h.on hrule
  have hlist : ∀ {P : Prop}, 0 < p.depth → P := fun hdeep => absurd hp (Nat.ne_of_gt hdeep)
  simp only [stepOutside?]
  by_cases hspace : c = ' '
  · rw [if_pos hspace]
    cases htoken : p.tokenStart with
    | none =>
      rw [htoken] at hon
      exact ⟨_, _, rfl, hon⟩
    | some start =>
      have hended : ({ p with prev := c, tokenStart := none, hasArgs := false } :
          PlaceScanner).Sound rule (before ++ [c]) :=
        { hon with in_token := nofun, in_list := hlist, start_le := nofun, start_boundary := nofun }
      by_cases hhas : p.hasArgs = true
      · exact ⟨_, _, if_pos hhas, hended⟩
      · have hverb : (slice? start (byteLength before) rule).isSome :=
          Text.isSome_slice?_iff.mpr ⟨h.start_le start htoken, h.start_boundary start htoken,
            h.here_boundary⟩
        obtain ⟨verb, hverb⟩ := Option.isSome_iff_exists.mp hverb
        simp only [if_neg hhas, hverb]
        exact ⟨_, _, rfl, hended⟩
  rw [if_neg hspace]
  obtain ⟨hle, hboundary⟩ := h.start_of_token
  have hlonger := Text.byteLength_snoc before c
  by_cases hopen : c = '(' ∧ p.prev ≠ '\\'
  · have hsize : c.utf8Size = 1 := by rw [hopen.1]; rfl
    have hprev : before.getLast? ≠ some '\\' := fun hlast =>
      hopen.2 (by rw [h.prev_eq, hlast, Option.getD_some])
    refine ⟨_, _, if_pos hopen, { hon with
      args_nil := nofun
      in_token := fun _ => rfl
      in_list := fun _ => ⟨rfl, ⟨_, rfl, hle⟩, Nat.lt_succ_self _, by simp only; omega,
        before, after, by rw [hrule, hopen.1], rfl, hprev⟩
      start_le := ?_, start_boundary := ?_, paren_boundary := h.here_boundary, arg_boundary := ?_ }⟩
    · rintro _ ⟨⟩
      omega
    · rintro _ ⟨⟩
      exact hboundary
    · have hhere := hon.here_boundary
      rw [hlonger, hsize] at hhere
      exact hhere
  · refine ⟨_, _, if_neg hopen, { hon with
      in_token := fun _ => rfl, in_list := hlist, start_le := ?_, start_boundary := ?_ }⟩
    · rintro _ ⟨⟩
      omega
    · rintro _ ⟨⟩
      exact hboundary

/-- Nothing that a character asks for is missing. -/
theorem Sound.step (h : p.Sound rule before) (hrule : rule = before ++ c :: after) :
    ∃ q call, p.step? rule (byteLength before) c = some (q, call) ∧
      q.Sound rule (before ++ [c]) := by
  by_cases hp : 0 < p.depth
  · rw [step?, if_pos hp]
    exact h.stepInside hp hrule
  · rw [step?, if_neg hp]
    exact h.stepOutside (Nat.eq_zero_of_not_pos hp) hrule

/-- A scanner that is not sound: its argument begins inside a character. -/
example :
    ({ depth := 1, hasArgs := true, tokenStart := some 0, argStart := 1 } : PlaceScanner).step?
      "é)".toList 2 ')' = none := by
  cbv

end Sound

/-- The texts that the one scanner holds are those at the places of the other. -/
structure Marks (rule before : List Char) (p : PlaceScanner) (s : Scanner) : Prop where
  prev_eq : p.prev = s.prev
  depth_eq : p.depth = s.depth
  hasArgs_eq : p.hasArgs = s.hasArgs
  args_eq : p.args = s.args
  token : p.tokenStart.map (fun start => slice? start (byteLength before) rule) = s.token.map some
  verb : 0 < p.depth → slice? (p.tokenStart.getD p.parenStart) p.parenStart rule = some s.verb
  arg : 0 < p.depth → slice? p.argStart (byteLength before) rule = some s.arg

theorem marks_start (rule : List Char) : ({} : PlaceScanner).Marks rule [] {} :=
  ⟨rfl, rfl, rfl, rfl, rfl, nofun, nofun⟩

section Marks

variable {rule before after : List Char} {p : PlaceScanner} {s : Scanner} {c : Char}

theorem Marks.text (h : p.Marks rule before s) (hs : p.Sound rule before) :
    slice? (p.tokenStart.getD (byteLength before)) (byteLength before) rule = some s.text := by
  have htoken := h.token
  cases hp : p.tokenStart with
  | none =>
    cases hsc : s.token with
    | none =>
      rw [Scanner.text, hsc]
      exact Text.slice?_self hs.here_boundary
    | some text => simp [hp, hsc] at htoken
  | some start =>
    cases hsc : s.token with
    | none => simp [hp, hsc] at htoken
    | some text =>
      rw [Scanner.text, hsc]
      simpa [hp, hsc] using htoken

theorem Marks.extended (h : p.Marks rule before s) (hs : p.Sound rule before)
    (hrule : rule = before ++ c :: after) :
    slice? (p.tokenStart.getD (byteLength before)) (byteLength (before ++ [c])) rule =
      some (s.text ++ [c]) := by
  have htext := h.text hs
  subst hrule
  exact Text.slice?_snoc htext

theorem Marks.close? (h : p.Marks rule before s) (hp : 0 < p.depth) :
    p.close? rule (byteLength before) = some ⟨String.ofList s.verb, s.closedArgs, true⟩ := by
  simp only [PlaceScanner.close?, pushArg?, h.arg hp, h.verb hp, h.args_eq, Option.bind_eq_bind,
    Option.bind_some, Option.pure_def, Scanner.closedArgs]
  split
  · rename_i hblank
    simp [hblank.1]
  · rfl

/-- A character inside an argument list that only is read. -/
theorem Marks.on (h : p.Marks rule before s) (hs : p.Sound rule before) (hp : 0 < p.depth)
    (hrule : rule = before ++ c :: after) :
    ({ p with prev := c } : PlaceScanner).Marks rule (before ++ [c])
      { s.extend c with arg := s.arg ++ [c] } := by
  obtain ⟨start, hstart⟩ := Option.isSome_iff_exists.mp (hs.in_token (hs.in_list hp).1)
  refine { h with prev_eq := rfl, token := ?_, verb := h.verb, arg := fun hp => ?_ }
  · have htext := h.extended hs hrule
    simp only [Scanner.extend, hstart, Option.getD_some, Option.map_some] at htext ⊢
    rw [htext]
  · have harg := h.arg hp
    subst hrule
    exact Text.slice?_snoc harg

theorem Marks.stepInside (h : p.Marks rule before s) (hs : p.Sound rule before) (hp : 0 < p.depth)
    (hrule : rule = before ++ c :: after) :
    ∃ q, p.stepInside? rule (byteLength before) c = some (q, (s.stepInside c).2) ∧
      q.Marks rule (before ++ [c]) (s.stepInside c).1 := by
  have hon := h.on hs hp hrule
  simp only [stepInside?, Scanner.stepInside, ← h.prev_eq, ← h.depth_eq]
  by_cases hprev : p.prev = '\\'
  · simp only [if_pos hprev]
    exact ⟨_, rfl, hon⟩
  simp only [if_neg hprev]
  by_cases hopen : c = '('
  · simp only [if_pos hopen]
    exact ⟨_, rfl, { hon with
      depth_eq := rfl, verb := fun _ => hon.verb hp, arg := fun _ => hon.arg hp }⟩
  simp only [if_neg hopen]
  by_cases hclose : c = ')'
  · obtain ⟨depth, hdepth⟩ := Nat.exists_eq_add_one.mpr hp
    simp only [if_pos hclose, hdepth, Nat.ppred_succ, Option.bind_eq_bind, Option.bind_some]
    by_cases hlast : depth = 0
    · simp only [hlast, h.close? hp, if_true, Nat.zero_add, Option.bind_some]
      exact ⟨_, rfl, { hon with depth_eq := rfl, args_eq := rfl, verb := nofun, arg := nofun }⟩
    · simp only [if_neg hlast, Nat.add_eq_right, Nat.add_sub_cancel]
      exact ⟨_, rfl, { hon with
        depth_eq := rfl, verb := fun _ => hon.verb hp, arg := fun _ => hon.arg hp }⟩
  simp only [if_neg hclose]
  by_cases hcomma : c = ',' ∧ p.depth = 1
  · have hhere : byteLength before + 1 = byteLength (before ++ [c]) := by
      rw [Text.byteLength_snoc, hcomma.1]
      rfl
    have hempty := Text.slice?_self (hs.on hrule).here_boundary
    simp only [if_pos hcomma, pushArg?, h.arg hp, h.args_eq, Option.bind_eq_bind, Option.bind_some,
      Option.pure_def, hhere]
    exact ⟨_, rfl, { hon with args_eq := rfl, arg := fun _ => hempty }⟩
  · simp only [if_neg hcomma]
    exact ⟨_, rfl, hon⟩

theorem Marks.stepOutside (h : p.Marks rule before s) (hs : p.Sound rule before)
    (hp : p.depth = 0) (hrule : rule = before ++ c :: after) :
    ∃ q, p.stepOutside? rule (byteLength before) c = some (q, (s.stepOutside c).2) ∧
      q.Marks rule (before ++ [c]) (s.stepOutside c).1 := by
  have htext := h.text hs
  have hextended := h.extended hs hrule
  have hlist : ∀ {P : Prop}, 0 < p.depth → P := fun hdeep => absurd hp (Nat.ne_of_gt hdeep)
  simp only [stepOutside?, Scanner.stepOutside, ← h.prev_eq, ← h.hasArgs_eq]
  by_cases hspace : c = ' '
  · simp only [if_pos hspace]
    cases htoken : p.tokenStart with
    | none =>
      have hno : s.token = none := by simpa [htoken] using h.token.symm
      have hhas : p.hasArgs = false := by
        by_contra hhas
        simpa [htoken] using hs.in_token (by simpa using hhas)
      simp only [hno, Option.map_none, ite_self]
      exact ⟨_, rfl, { h with
        prev_eq := rfl, hasArgs_eq := hhas, token := rfl, verb := hlist, arg := hlist }⟩
    | some start =>
      have hverb : s.token.map some = some (slice? start (byteLength before) rule) := by
        simpa [htoken] using h.token.symm
      obtain ⟨text, htext', hslice⟩ := Option.map_eq_some_iff.mp hverb
      have hended : ({ p with prev := c, tokenStart := none, hasArgs := false } :
          PlaceScanner).Marks rule (before ++ [c])
            { s with prev := c, token := none, hasArgs := false } :=
        { h with prev_eq := rfl, hasArgs_eq := rfl, token := rfl, verb := hlist, arg := hlist }
      by_cases hhas : p.hasArgs = true
      · simp only [if_pos hhas]
        exact ⟨_, rfl, hended⟩
      · simp only [if_neg hhas, ← hslice, htext']
        exact ⟨_, rfl, hended⟩
  simp only [if_neg hspace]
  by_cases hopen : c = '(' ∧ p.prev ≠ '\\'
  · have hhere : byteLength before + 1 = byteLength (before ++ [c]) := by
      rw [Text.byteLength_snoc, hopen.1]
      rfl
    have hempty := Text.slice?_self (hs.on hrule).here_boundary
    simp only [if_pos hopen, hhere]
    exact ⟨_, rfl, { h with
      prev_eq := rfl, depth_eq := rfl, hasArgs_eq := rfl, token := congrArg some hextended
      verb := fun _ => htext, arg := fun _ => hempty }⟩
  · simp only [if_neg hopen]
    exact ⟨_, rfl, { h with
      prev_eq := rfl, token := congrArg some hextended, verb := hlist, arg := hlist }⟩

theorem Marks.step (h : p.Marks rule before s) (hs : p.Sound rule before)
    (hrule : rule = before ++ c :: after) :
    ∃ q, p.step? rule (byteLength before) c = some (q, (s.step c).2) ∧
      q.Marks rule (before ++ [c]) (s.step c).1 := by
  by_cases hp : 0 < p.depth
  · rw [step?, if_pos hp, Scanner.step, ← h.depth_eq, if_pos hp]
    exact h.stepInside hs hp hrule
  · rw [step?, if_neg hp, Scanner.step, ← h.depth_eq, if_neg hp]
    exact h.stepOutside hs (Nat.eq_zero_of_not_pos hp) hrule

theorem Marks.finish? (h : p.Marks rule rule s) : p.finish? rule = some s.finish := by
  have htoken := h.token
  rw [PlaceScanner.finish?, Scanner.finish, ← h.hasArgs_eq, ← h.depth_eq]
  cases hp : p.tokenStart with
  | none =>
    have hno : s.token = none := by simpa [hp] using htoken.symm
    simp [hno]
  | some start =>
    rw [hp, Option.map_some] at htoken
    obtain ⟨text, htext, hslice⟩ := Option.map_eq_some_iff.mp htoken.symm
    simp only [← hslice, htext]
    split <;> rfl

end Marks

/-- Reading on, with what one character preserves. -/
theorem exists_run? {rule before : List Char} {p : PlaceScanner} {s : Scanner}
    (hs : p.Sound rule before) (h : p.Marks rule before s) (cs : List Char) {after : List Char}
    (hrule : rule = before ++ cs ++ after) :
    ∃ q, p.run? rule (byteLength before) cs = some (q, s.emitted cs) ∧
      q.Sound rule (before ++ cs) ∧ q.Marks rule (before ++ cs) (s.run cs) := by
  -- on what is left to read: that there is a next state is known from the places alone, and which
  -- texts it marks from the scanner that holds them
  induction cs generalizing before p s with
  | nil =>
    rw [List.append_nil]
    exact ⟨p, rfl, hs, h⟩
  | cons c cs ih =>
    have hhere : rule = before ++ c :: (cs ++ after) := by simp [hrule]
    obtain ⟨q, call, hstep, hsound⟩ := hs.step hhere
    obtain ⟨q', hstep', hmarks⟩ := h.step hs hhere
    obtain ⟨rfl, rfl⟩ : q = q' ∧ call = (s.step c).2 := by
      simpa using hstep.symm.trans hstep'
    obtain ⟨r, hrun, hsound', hmarks'⟩ := ih hsound hmarks (by simp [hrule])
    rw [List.append_assoc] at hsound' hmarks'
    rw [Text.byteLength_snoc] at hrun
    refine ⟨r, ?_, hsound', hmarks'⟩
    rw [run?, hstep, Option.bind_eq_bind, Option.bind_some]
    simp only [hrun]
    rfl

theorem exists_run?_start {rule before after : List Char} (hrule : rule = before ++ after) :
    ∃ p, ({} : PlaceScanner).run? rule 0 before = some (p, ({} : Scanner).emitted before) ∧
      p.Sound rule before ∧ p.Marks rule before (({} : Scanner).run before) :=
  exists_run? (sound_start rule) (marks_start rule) before hrule

end PlaceScanner

theorem scanPlaces?_eq (rule : String) : scanPlaces? rule = some (scan rule) := by
  obtain ⟨p, hrun, -, hmarks⟩ :=
    PlaceScanner.exists_run?_start (List.append_nil rule.toList).symm
  rw [scanPlaces?, hrun, Option.bind_eq_bind, Option.bind_some]
  simp only [hmarks.finish?]
  rw [scan, Scanner.calls_eq_emitted]
  rfl

/-- Wherever the scanner stands in a rule its places are in order and on boundaries, so that no text
is missing and no list closed that is not open; its calls are the calls of the rule. -/
theorem places_sound (rule : String) :
    (∀ n, ∃ p,
      ({} : PlaceScanner).run? rule.toList 0 (rule.toList.take n) =
        some (p, ({} : Scanner).emitted (rule.toList.take n)) ∧
      p.Sound rule.toList (rule.toList.take n) ∧
      p.Marks rule.toList (rule.toList.take n) (({} : Scanner).run (rule.toList.take n))) ∧
    scanPlaces? rule = some (scan rule) :=
  ⟨fun n => PlaceScanner.exists_run?_start (List.take_append_drop n rule.toList).symm,
    scanPlaces?_eq rule⟩

example : scanPlaces? "é(a,(ü)) b\\(c" =
    some [⟨"é", ["a", "(ü)"], true⟩, ⟨"b\\(c", [], false⟩] := by
  cbv

end FieldRules
