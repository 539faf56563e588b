import FieldRules.Rule.Argument
import Mathlib.Data.List.TakeWhile

namespace FieldRules

namespace Text

theorem replacePair_pair (a b : Char) (cs : List Char) :
    replacePair a b (a :: b :: cs) = b :: replacePair a b cs := by
  simp [replacePair]

theorem replacePair_cons {a b c : Char} {cs : List Char} (h : c = a → cs.head? ≠ some b) :
    replacePair a b (c :: cs) = c :: replacePair a b cs := by
  cases cs with
  | nil => rfl
  | cons d cs =>
    have hcd : ¬(c = a ∧ d = b) := fun ⟨hc, hd⟩ => h hc (congrArg some hd)
    rw [replacePair, if_neg hcd]

theorem dropWhile_space {cs : List Char} (h : cs.head? ≠ some ' ') :
    cs.dropWhile (· == ' ') = cs := by
  cases cs with
  | nil => rfl
  | cons c cs =>
    have hc : c ≠ ' ' := fun hc => h (congrArg some hc)
    simp [hc]

theorem trimSpaces_eq_self {cs : List Char} (hhead : cs.head? ≠ some ' ')
    (hlast : cs.getLast? ≠ some ' ') : trimSpaces cs = cs := by
  have hrev : cs.reverse.head? ≠ some ' ' := by rwa [List.head?_reverse]
  rw [trimSpaces, trim, dropWhile_space hhead, dropWhileEnd, dropWhile_space hrev,
    List.reverse_reverse]

theorem trimSpaces_ne_nil {cs : List Char} (hcs : cs ≠ []) (hhead : cs.head? ≠ some ' ') :
    trimSpaces cs ≠ [] := by
  cases cs with
  | nil => exact absurd rfl hcs
  | cons c cs =>
    have hc : c ≠ ' ' := fun hc => hhead (congrArg some hc)
    rw [trimSpaces, trim, dropWhile_space hhead, dropWhileEnd, Ne, List.reverse_eq_nil_iff,
      List.dropWhile_eq_nil_iff]
    simp only [List.mem_reverse, beq_iff_eq]
    exact fun hall => hc (hall c List.mem_cons_self)

end Text

namespace Argument

/-- An argument list reads these for itself. -/
def isSpecial (c : Char) : Bool := c == '(' || c == ')' || c == ','

/-- Puts a backslash before every character that `p` accepts. -/
def protect (p : Char → Bool) (arg : List Char) : List Char :=
  arg.flatMap fun c => if p c then ['\\', c] else [c]

/-- The argument as a rule writes it. -/
def escape (arg : List Char) : List Char := protect isSpecial arg

theorem protect_cons (p : Char → Bool) (c : Char) (cs : List Char) :
    protect p (c :: cs) = (if p c then ['\\', c] else [c]) ++ protect p cs := rfl

theorem protect_eq_self {p : Char → Bool} (h : ∀ c, p c = false) (arg : List Char) :
    protect p arg = arg := by
  simp [protect, h]

/-- A character that is protected everywhere never comes first. -/
theorem head?_protect {p : Char → Bool} {d : Char} (hd : p d = true) (hslash : d ≠ '\\')
    (arg : List Char) : (protect p arg).head? ≠ some d := by
  cases arg with
  | nil => simp [protect]
  | cons c cs =>
    rw [protect_cons]
    by_cases hc : p c
    · simpa [hc] using Ne.symm hslash
    · have hcd : c ≠ d := fun h => hc (h ▸ hd)
      simpa [hc] using hcd

/-- A pass over one character takes just the backslashes away that protect it. -/
theorem replacePair_protect {p : Char → Bool} {d : Char} (hd : p d = true) (hslash : d ≠ '\\')
    (arg : List Char) :
    Text.replacePair '\\' d (protect p arg) = protect (fun c => p c && c != d) arg := by
  induction arg with
  | nil => rfl
  | cons c cs ih =>
    have hhead : (protect p cs).head? ≠ some d := head?_protect hd hslash cs
    rw [protect_cons, protect_cons]
    by_cases hcd : c = d
    · subst hcd
      simp [hd, Text.replacePair_pair, ih]
    · have hrest : Text.replacePair '\\' d (c :: protect p cs) =
          c :: protect (fun c => p c && c != d) cs := by
        rw [Text.replacePair_cons fun _ => hhead, ih]
      by_cases hc : p c
      · have hpair : Text.replacePair '\\' d ('\\' :: c :: protect p cs) =
            '\\' :: Text.replacePair '\\' d (c :: protect p cs) :=
          Text.replacePair_cons fun _ => by simpa using hcd
        simp [hc, hcd, hpair, hrest]
      · simp [hc, hrest]

/-- Of an escaped argument only the spaces around it are lost. -/
theorem unescape_escape_eq_trim (arg : List Char) :
    unescape (escape arg) = Text.trimSpaces arg := by
  have hnone : ∀ c, (((isSpecial c && c != ')') && c != '(') && c != ',') = false := by
    intro c
    simp only [isSpecial]
    grind
  rw [unescape, escape, replacePair_protect (by decide) (by decide),
    replacePair_protect (by decide) (by decide), replacePair_protect (by decide) (by decide),
    protect_eq_self hnone]

theorem unescape_escape {arg : List Char} (hhead : arg.head? ≠ some ' ')
    (hlast : arg.getLast? ≠ some ' ') : unescape (escape arg) = arg := by
  rw [unescape_escape_eq_trim, Text.trimSpaces_eq_self hhead hlast]

theorem escape_ne_nil {arg : List Char} (h : arg ≠ []) : escape arg ≠ [] := by
  cases arg with
  | nil => exact absurd rfl h
  | cons c cs =>
    rw [escape, protect_cons]
    split <;> simp

theorem head?_escape {arg : List Char} (h : arg.head? ≠ some ' ') :
    (escape arg).head? ≠ some ' ' := by
  cases arg with
  | nil => exact h
  | cons c cs =>
    rw [escape, protect_cons]
    split
    · simp
    · exact h

end Argument
end FieldRules
