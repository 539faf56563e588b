import FieldRules.Json.Number
import FieldRules.Text.Numeral

namespace FieldRules.Json

/-- Value of four hexadecimal digits. Four bytes are taken together, whatever they hold. -/
def hex4 (cs : List Char) : Except Fault (Nat × Rest cs) :=
  match cs with
  | a :: b :: c :: d :: rest =>
    match Text.hexValue? a, Text.hexValue? b, Text.hexValue? c, Text.hexValue? d with
    | some a, some b, some c, some d =>
      .ok (((a * 16 + b) * 16 + c) * 16 + d, ⟨rest, by simp only [List.length_cons]; omega⟩)
    | _, _, _, _ => .error ⟨.invalidEscape, cs, 4⟩
  | cs =>
    if Text.byteLength cs < 4 then .error ⟨.endInString, [], 0⟩
    else .error ⟨.invalidEscape, cs, 4⟩

/-- The character of a surrogate pair. -/
def pairChar (high low : Nat) : Char :=
  Char.ofNat ((high - 0xD800) * 0x400 + (low - 0xDC00) + 0x10000)

/-- The second half of a surrogate pair, behind the first. -/
def lowSurrogate (cs : List Char) : Except Fault (Nat × Rest cs) :=
  match cs with
  | [] => .error ⟨.endInString, [], 0⟩
  | c :: rest =>
    if c ≠ '\\' then .error ⟨.unexpectedEndOfHexEscape, cs, 1⟩
    else match rest with
      | [] => .error ⟨.endInString, [], 0⟩
      | d :: later =>
        if d ≠ 'u' then .error ⟨.unexpectedEndOfHexEscape, rest, 1⟩
        else do
          let (n, after) ← hex4 later
          if n < 0xDC00 ∨ 0xDFFF < n then .error ⟨.loneSurrogate, after, 0⟩
          else return (n, (after.cons d).cons c)

/-- The character of an escape, behind its backslash. -/
def escape (cs : List Char) : Except Fault (Char × Rest cs) :=
  match cs with
  | [] => .error ⟨.endInString, [], 0⟩
  | c :: rest =>
    let plain (d : Char) : Except Fault (Char × Rest (c :: rest)) := .ok (d, .next c rest)
    match c with
    | '"' => plain '"'
    | '\\' => plain '\\'
    | '/' => plain '/'
    | 'b' => plain '\x08'
    | 'f' => plain '\x0c'
    | 'n' => plain '\n'
    | 'r' => plain '\r'
    | 't' => plain '\t'
    | 'u' => do
      let (n, later) ← hex4 rest
      if 0xDC00 ≤ n ∧ n ≤ 0xDFFF then .error ⟨.loneSurrogate, later, 0⟩
      else if 0xD800 ≤ n ∧ n ≤ 0xDBFF then
        let (m, after) ← lowSurrogate later
        return (pairChar n m, (later.trans after.toTail).cons 'u')
      else return (Char.ofNat n, later.cons 'u')
    | _ => .error ⟨.invalidEscape, cs, 1⟩

/-- The text up to the closing quote. -/
def readString (cs : List Char) : Except Fault (List Char × Rest cs) :=
  match h : cs with
  | [] => .error ⟨.endInString, [], 0⟩
  | c :: rest =>
    if c = '"' then .ok ([], ⟨rest, by simp only [List.length_cons]; omega⟩)
    else if c = '\\' then do
      let (d, ⟨later, hLater⟩) ← escape rest
      let (s, ⟨after, hAfter⟩) ← readString later
      return (d :: s, ⟨after, by simp only [List.length_cons]; omega⟩)
    else if c.toNat < 0x20 then .error ⟨.controlCharacter, cs, 1⟩
    else do
      let (s, ⟨later, hLater⟩) ← readString rest
      return (c :: s, ⟨later, by simp only [List.length_cons]; omega⟩)
termination_by cs.length
decreasing_by all_goals subst h; simp only [List.length_cons]; omega

end FieldRules.Json
