import FieldRules.Proofs.EscapedArgument

namespace FieldRules.Argument

/-- Drops each backslash that stands directly before a character that `p` accepts. -/
def dropSlashes (p : Char → Bool) : List Char → List Char
  | [] => []
  | c :: cs =>
    if c = '\\' ∧ cs.head?.any p then dropSlashes p cs else c :: dropSlashes p cs

theorem dropSlashes_cons_of_ne (p : Char → Bool) {c : Char} (hc : c ≠ '\\') (cs : List Char) :
    dropSlashes p (c :: cs) = c :: dropSlashes p cs := by
  rw [dropSlashes, if_neg fun h => hc h.1]

theorem dropSlashes_slash (p : Char → Bool) (cs : List Char) :
    dropSlashes p ('\\' :: cs) =
      if cs.head?.any p then dropSlashes p cs else '\\' :: dropSlashes p cs := by
  rw [dropSlashes]
  simp only [true_and]

theorem replacePair_eq_dropSlashes {d : Char} (hd : d ≠ '\\') (cs : List Char) :
    Text.replacePair '\\' d cs = dropSlashes (· == d) cs := by
  induction cs with
  | nil => rfl
  | cons c cs ih =>
    by_cases hpair : c = '\\' ∧ cs.head? = some d
    · obtain ⟨rfl, hhead⟩ := hpair
      obtain ⟨rest, rfl⟩ := List.head?_eq_some_iff.mp hhead
      have hkeep : Text.replacePair '\\' d (d :: rest) = d :: Text.replacePair '\\' d rest :=
        Text.replacePair_cons fun heq => absurd heq hd
      rw [Text.replacePair_pair, ← hkeep, ih, dropSlashes_slash]
      simp
    · have hkeep : Text.replacePair '\\' d (c :: cs) = c :: Text.replacePair '\\' d cs :=
        Text.replacePair_cons fun hc hhead => hpair ⟨hc, hhead⟩
      have hany : cs.head?.any (· == d) = true ↔ cs.head? = some d := by
        cases cs.head? <;> simp
      rw [← hany] at hpair
      rw [hkeep, ih, dropSlashes, if_neg hpair]

section TwoPasses

variable {p q : Char → Bool} (hp : p '\\' = false) (hq : q '\\' = false)
  (hpq : ∀ c, q c = true → p c = false)
include hp hq hpq

/-- What the first pass leaves in front is seen by the second one as before. -/
theorem head?_dropSlashes_any (cs : List Char) :
    (dropSlashes q cs).head?.any p = cs.head?.any p := by
  cases cs with
  | nil => rfl
  | cons c cs =>
    by_cases hc : c = '\\'
    · subst hc
      rw [dropSlashes_slash]
      split
      · rename_i hany
        cases cs with
        | nil => simp at hany
        | cons d cs =>
          have hqd : q d = true := by simpa using hany
          have hd : d ≠ '\\' := by
            rintro rfl
            rw [hq] at hqd
            cases hqd
          rw [dropSlashes_cons_of_ne q hd]
          simp [hp, hpq d hqd]
      · rfl
    · rw [dropSlashes_cons_of_ne q hc]
      rfl

theorem dropSlashes_dropSlashes (cs : List Char) :
    dropSlashes p (dropSlashes q cs) = dropSlashes (fun c => p c || q c) cs := by
  induction cs with
  | nil => rfl
  | cons c cs ih =>
    by_cases hc : c = '\\'
    · subst hc
      have hor : cs.head?.any (fun c => p c || q c) = (cs.head?.any p || cs.head?.any q) := by
        cases cs.head? <;> rfl
      rw [dropSlashes_slash q, dropSlashes_slash (fun c => p c || q c), hor]
      cases hany : cs.head?.any q with
      | true => simp [ih]
      | false =>
        simp only [Bool.false_eq_true, if_false, Bool.or_false]
        rw [dropSlashes_slash, head?_dropSlashes_any hp hq hpq, ih]
    · rw [dropSlashes_cons_of_ne q hc, dropSlashes_cons_of_ne p hc, dropSlashes_cons_of_ne _ hc, ih]

end TwoPasses

theorem dropSlashes_eq_self {p : Char → Bool} (h : ∀ c, p c = false) (cs : List Char) :
    dropSlashes p cs = cs := by
  induction cs with
  | nil => rfl
  | cons c cs ih =>
    have hany : cs.head?.any p = false := by
      cases cs.head? with
      | none => rfl
      | some d => exact h d
    rw [dropSlashes, hany, ih]
    simp

/-- Passes over different characters, one after the other, drop the backslashes before any of
them. -/
theorem foldl_replacePair {order : List Char} (hnodup : order.Nodup) (hslash : '\\' ∉ order)
    (raw : List Char) :
    order.foldl (fun text d => Text.replacePair '\\' d text) raw =
      dropSlashes (fun c => order.contains c) raw := by
  induction order generalizing raw with
  | nil => exact (dropSlashes_eq_self (fun _ => rfl) raw).symm
  | cons d order ih =>
    obtain ⟨hd, hnodup⟩ := List.nodup_cons.mp hnodup
    have hne : d ≠ '\\' := fun h => hslash (h ▸ List.mem_cons_self)
    have hrest : '\\' ∉ order := fun h => hslash (List.mem_cons_of_mem d h)
    have hall : (fun c => order.contains c || c == d) = fun c => (d :: order).contains c := by
      funext c
      rw [List.contains_cons, Bool.or_comm]
    have hlater : order.contains '\\' = false := by simpa using hrest
    have hfirst : ('\\' == d) = false := by simpa using hne.symm
    have hapart : ∀ c, (c == d) = true → order.contains c = false := by
      intro c hc
      rw [beq_iff_eq.mp hc]
      simpa using hd
    rw [List.foldl_cons, ih hnodup hrest, replacePair_eq_dropSlashes hne,
      dropSlashes_dropSlashes hlater hfirst hapart, hall]

theorem foldl_replacePair_specials {order : List Char} (h : order.Perm [')', '(', ','])
    (raw : List Char) :
    order.foldl (fun text d => Text.replacePair '\\' d text) raw = dropSlashes isSpecial raw := by
  have hnodup : order.Nodup := h.nodup_iff.mpr (by decide)
  have hslash : '\\' ∉ order := fun hmem => absurd (h.mem_iff.mp hmem) (by decide)
  have hspecial : (fun c => order.contains c) = isSpecial := by
    funext c
    rw [h.contains_eq, isSpecial]
    grind
  rw [foldl_replacePair hnodup hslash, hspecial]

theorem unescape_eq_dropSlashes (raw : List Char) :
    unescape raw = Text.trimSpaces (dropSlashes isSpecial raw) := by
  rw [← foldl_replacePair_specials (.refl _)]
  rfl

/-- Unescaping is one pass. The replacements come to the same text in each of their orders, that
without the backslashes which stood directly before a parenthesis or a comma, and unescaping trims
it; of an argument that was escaped first only the spaces around it are lost. -/
theorem unescape_in_one_pass (raw : List Char) :
    (∀ order : List Char, order.Perm [')', '(', ','] →
      order.foldl (fun text d => Text.replacePair '\\' d text) raw = dropSlashes isSpecial raw) ∧
    unescape raw = Text.trimSpaces (dropSlashes isSpecial raw) ∧
    unescape (escape raw) = Text.trimSpaces raw :=
  ⟨fun _ horder => foldl_replacePair_specials horder raw, unescape_eq_dropSlashes raw,
    unescape_escape_eq_trim raw⟩

/-- Three backslashes before a parenthesis, with the commas replaced first. -/
theorem unescape_in_one_pass_of_slash_run :
    let raw := " \\\\\\(a ".toList
    [',', '(', ')'].Perm [')', '(', ','] ∧
      [',', '(', ')'].foldl (fun text d => Text.replacePair '\\' d text) raw = " \\\\(a ".toList ∧
      unescape raw = "\\\\(a".toList ∧ unescape (escape raw) = "\\\\\\(a".toList := by
  intro raw
  obtain ⟨horders, hpass, hback⟩ := unescape_in_one_pass raw
  have horder : [',', '(', ')'].Perm [')', '(', ','] := by decide
  have hdropped : dropSlashes isSpecial raw = " \\\\(a ".toList := by decide
  refine ⟨horder, (horders _ horder).trans hdropped, ?_, ?_⟩
  · rw [hpass, hdropped]
    decide
  · rw [hback]
    decide

end FieldRules.Argument
