import FieldRules.Proofs.ArgumentList
import FieldRules.Proofs.DroppedBackslash
import Mathlib.Data.List.Induction
import Mathlib.Data.List.Infix

namespace FieldRules

namespace Argument

/-- How often `d` stands in the text with no backslash directly before it; `prev` stands before the
text. -/
def unprotectedFrom (d : Char) : (prev : Char) → List Char → Nat
  | _, [] => 0
  | prev, c :: cs => (if c = d ∧ prev ≠ '\\' then 1 else 0) + unprotectedFrom d c cs

def unprotected (d : Char) (cs : List Char) : Nat := unprotectedFrom d ' ' cs

/-- The text can be an argument: unprotected parentheses balance and never close more than are open,
unprotected commas stand inside them, and what follows the text is not protected by it. -/
structure Nested (raw : List Char) : Prop where
  balanced : unprotected '(' raw = unprotected ')' raw
  never_below : ∀ xs, xs <+: raw → unprotected ')' xs ≤ unprotected '(' xs
  comma_inside : ∀ xs, xs ++ [','] <+: raw → xs.getLast? ≠ some '\\' →
    unprotected ')' xs < unprotected '(' xs
  slash : raw.getLast? ≠ some '\\'

instance (raw : List Char) : Decidable (Nested raw) :=
  decidable_of_iff
    (unprotected '(' raw = unprotected ')' raw ∧
      (∀ xs ∈ raw.inits, unprotected ')' xs ≤ unprotected '(' xs) ∧
      (∀ xs ∈ raw.inits, xs ++ [','] <+: raw → xs.getLast? ≠ some '\\' →
        unprotected ')' xs < unprotected '(' xs) ∧
      raw.getLast? ≠ some '\\')
    ⟨fun ⟨balanced, below, comma, slash⟩ =>
      ⟨balanced, fun xs hxs => below xs ((List.mem_inits xs raw).mpr hxs), fun xs hxs =>
        comma xs ((List.mem_inits xs raw).mpr ((List.prefix_append xs [',']).trans hxs)) hxs,
        slash⟩,
      fun h => ⟨h.balanced, fun xs hxs => h.never_below xs ((List.mem_inits xs raw).mp hxs),
        fun xs _ => h.comma_inside xs, h.slash⟩⟩

theorem unprotectedFrom_concat (d prev : Char) (cs : List Char) (c : Char) :
    unprotectedFrom d prev (cs ++ [c]) =
      unprotectedFrom d prev cs + if c = d ∧ cs.getLast?.getD prev ≠ '\\' then 1 else 0 := by
  induction cs generalizing prev with
  | nil => exact Nat.add_comm _ _
  | cons b cs ih =>
    have hlast : (b :: cs).getLast?.getD prev = cs.getLast?.getD b := by
      rw [List.getLast?_cons]
      rfl
    rw [List.cons_append, unprotectedFrom, ih, unprotectedFrom, hlast, Nat.add_assoc]

theorem unprotected_concat_of_protected (d : Char) {cs : List Char} (h : cs.getLast? = some '\\')
    (c : Char) : unprotected d (cs ++ [c]) = unprotected d cs := by
  rw [unprotected, unprotectedFrom_concat, h]
  simp [unprotected]

theorem unprotected_concat (d : Char) {cs : List Char} (h : cs.getLast? ≠ some '\\') (c : Char) :
    unprotected d (cs ++ [c]) = unprotected d cs + if c = d then 1 else 0 := by
  have hlast : cs.getLast?.getD ' ' ≠ '\\' := Scanner.getLast?_getD_ne h (by decide)
  rw [unprotected, unprotectedFrom_concat]
  simp [unprotected, hlast]

/-- What a raw argument stands for. -/
def plain (raw : List Char) : String :=
  String.ofList (Text.trimSpaces (dropSlashes isSpecial raw))

theorem plain_eq (raw : List Char) : String.ofList (unescape raw) = plain raw := by
  rw [unescape_eq_dropSlashes, plain]

end Argument

theorem Text.trimSpaces_eq_nil_iff {cs : List Char} :
    Text.trimSpaces cs = [] ↔ ∃ n, cs = List.replicate n ' ' := by
  constructor
  · intro h
    rw [Text.trimSpaces, Text.trim, Text.dropWhileEnd, List.reverse_eq_nil_iff,
      List.dropWhile_eq_nil_iff] at h
    refine ⟨cs.length, List.eq_replicate_iff.mpr ⟨rfl, fun c hc => ?_⟩⟩
    rw [← List.takeWhile_append_dropWhile (p := (· == ' ')) (l := cs), List.mem_append] at hc
    rcases hc with hc | hc
    · have hspace := List.mem_takeWhile_imp (p := (· == ' ')) hc
      exact beq_iff_eq.mp hspace
    · exact beq_iff_eq.mp (h c (List.mem_reverse.mpr hc))
  · rintro ⟨n, rfl⟩
    have hall : (List.replicate n ' ').dropWhile (· == ' ') = [] := by simp
    rw [Text.trimSpaces, Text.trim, hall, Text.dropWhileEnd_nil]

namespace Scanner

/-- The scanner has read `raw` of an argument in a list of the token `verb`, with the arguments
`args` behind it; as many lists are open as `raw` has opened, and one more. -/
structure InRaw (s : Scanner) (verb : List Char) (args : List String) (raw : List Char) :
    Prop where
  depth : s.depth + Argument.unprotected ')' raw = Argument.unprotected '(' raw + 1
  hasArgs : s.hasArgs = true
  verb : s.verb = verb
  args : s.args = args
  arg : s.arg = raw
  prev : s.prev = '\\' ↔ raw.getLast? = some '\\'

section Raw

variable {s : Scanner} {verb : List Char} {args : List String} {raw : List Char}

theorem InList.inRaw (h : s.InList verb args []) (hprev : s.prev ≠ '\\') :
    s.InRaw verb args [] :=
  ⟨by simp [h.depth, Argument.unprotected, Argument.unprotectedFrom], h.hasArgs, h.verb, h.args,
    h.arg, by simp [hprev]⟩

/-- The argument goes on with `c`, at another depth if `c` opens or closes a list. -/
theorem InRaw.extend (h : s.InRaw verb args raw) (c : Char) (n : Nat)
    (hn : n + Argument.unprotected ')' (raw ++ [c]) = Argument.unprotected '(' (raw ++ [c]) + 1) :
    ({ s.extend c with arg := s.arg ++ [c], depth := n } : Scanner).InRaw verb args (raw ++ [c]) :=
  ⟨hn, h.hasArgs, h.verb, h.args, congrArg (· ++ [c]) h.arg,
    by simp [Scanner.extend]⟩

theorem InRaw.step (h : s.InRaw verb args raw) {c : Char}
    (hopen : Argument.unprotected ')' raw ≤ Argument.unprotected '(' raw)
    (hbelow : Argument.unprotected ')' (raw ++ [c]) ≤ Argument.unprotected '(' (raw ++ [c]))
    (hcomma : c = ',' → raw.getLast? ≠ some '\\' →
      Argument.unprotected ')' raw < Argument.unprotected '(' raw) :
    (s.step c).2 = none ∧ (s.step c).1.InRaw verb args (raw ++ [c]) := by
  have hdepth := h.depth
  rw [step_inside (by omega), stepInside]
  by_cases hprot : s.prev = '\\'
  · have hraw := h.prev.mp hprot
    have hclosed := Argument.unprotected_concat_of_protected ')' hraw c
    have hopened := Argument.unprotected_concat_of_protected '(' hraw c
    rw [if_pos hprot]
    exact ⟨rfl, h.extend c s.depth (by omega)⟩
  · have hraw : raw.getLast? ≠ some '\\' := fun heq => hprot (h.prev.mpr heq)
    have hclosed := Argument.unprotected_concat ')' hraw c
    have hopened := Argument.unprotected_concat '(' hraw c
    rw [if_neg hprot]
    by_cases hleft : c = '('
    · subst hleft
      rw [if_pos rfl] at hopened ⊢
      rw [if_neg (by decide)] at hclosed
      exact ⟨rfl, h.extend '(' (s.depth + 1) (by omega)⟩
    · rw [if_neg hleft] at hopened ⊢
      by_cases hright : c = ')'
      · subst hright
        rw [if_pos rfl] at hclosed ⊢
        have hinner : s.depth ≠ 1 := by omega
        rw [if_neg hinner]
        exact ⟨rfl, h.extend ')' (s.depth - 1) (by omega)⟩
      · rw [if_neg hright] at hclosed ⊢
        have hpart : ¬(c = ',' ∧ s.depth = 1) := by
          rintro ⟨hc, hone⟩
          have hinside := hcomma hc hraw
          omega
        rw [if_neg hpart]
        exact ⟨rfl, h.extend c s.depth (by omega)⟩

end Raw

/-- The text is read from its start to its end, a character more at a time. -/
theorem readAsText_nested {raw : List Char} (hraw : Argument.Nested raw) : ReadAsText raw := by
  intro s verb args h hprev
  have hread : ∀ xs, xs <+: raw → s.emitted xs = [] ∧ (s.run xs).InRaw verb args xs := by
    intro xs
    induction xs using List.reverseRecOn with
    | nil => exact fun _ => ⟨rfl, h.inRaw hprev⟩
    | append_singleton xs c ih =>
      intro hxs
      have hfront : xs <+: raw := (List.prefix_append xs [c]).trans hxs
      obtain ⟨hout, hin⟩ := ih hfront
      have hcomma : c = ',' → xs.getLast? ≠ some '\\' →
          Argument.unprotected ')' xs < Argument.unprotected '(' xs := by
        intro hc
        subst hc
        exact hraw.comma_inside xs hxs
      obtain ⟨hnone, hnext⟩ :=
        hin.step (hraw.never_below xs hfront) (hraw.never_below _ hxs) hcomma
      rw [emitted_append, run_concat, hout]
      exact ⟨by simp [emitted, hnone], hnext⟩
  obtain ⟨hout, hin⟩ := hread raw (List.prefix_refl raw)
  have hdepth : (s.run raw).depth = 1 := by
    have hcount := hin.depth
    have hbalanced := hraw.balanced
    omega
  exact ⟨hout, ⟨hdepth, hin.hasArgs, hin.verb, hin.args, hin.arg⟩,
    fun heq => hraw.slash (hin.prev.mp heq)⟩

theorem isChain_of_notMem {verb : List Char} (h : '(' ∉ verb) (c : Char) :
    (c :: verb).IsChain fun before here => here = '(' → before = '\\' := by
  induction verb generalizing c with
  | nil => exact List.isChain_singleton c
  | cons b verb ih =>
    have hb : b ≠ '(' := fun hb => h (by simp [hb])
    have hrest : '(' ∉ verb := fun hmem => h (List.mem_cons_of_mem b hmem)
    exact List.isChain_cons_cons.mpr ⟨fun heq => absurd heq hb, ih hrest b⟩

theorem lists_nested {raws : List (List Char)} (hne : raws ≠ [])
    (hkept : ∀ n, raws ≠ [List.replicate n ' ']) (hraws : ∀ raw ∈ raws, Argument.Nested raw) :
    Lists (rawArgs raws) (raws.map Argument.plain) := by
  have hsome : ∀ raw, raws = [raw] → Text.trimSpaces raw ≠ [] := by
    rintro raw rfl hblank
    obtain ⟨n, rfl⟩ := Text.trimSpaces_eq_nil_iff.mp hblank
    exact hkept n rfl
  have hlists := lists_rawArgs hne hsome fun raw hraw => readAsText_nested (hraws raw hraw)
  simp only [Argument.plain_eq] at hlists
  exact hlists

end Scanner

/-- A verb and a list of raw arguments are read as one call. An argument may hold balanced
parentheses, and commas within them; of its own text only the spaces around it and the backslashes
before special characters are dropped. A single argument of spaces is no argument. -/
theorem scan_nested_list {verb : String} {raws : List String} (hspace : ' ' ∉ verb.toList)
    (hparen : '(' ∉ verb.toList) (hslash : verb.toList.getLast? ≠ some '\\') (hne : raws ≠ [])
    (hraws : ∀ t ∈ raws, Argument.Nested t.toList) :
    ((∀ n, raws ≠ [spaces n]) → scan (verb ++ "(" ++ ",".intercalate raws ++ ")") =
      [⟨verb, raws.map fun t => Argument.plain t.toList, true⟩]) ∧
    (∀ n, raws = [spaces n] → scan (verb ++ "(" ++ ",".intercalate raws ++ ")") =
      [⟨verb, [], true⟩]) := by
  have htext : (verb ++ "(" ++ ",".intercalate raws ++ ")").toList =
      verb.toList ++ '(' :: rawArgs (raws.map String.toList) := by
    simp [rawArgs, String.toList_intercalate]
  have hnested : ∀ raw ∈ raws.map String.toList, Argument.Nested raw := by
    intro raw hraw
    obtain ⟨t, ht, rfl⟩ := List.mem_map.mp hraw
    exact hraws t ht
  have hscan {args : List String} (hlist : Scanner.Lists (rawArgs (raws.map String.toList)) args) :
      scan (verb ++ "(" ++ ",".intercalate raws ++ ")") = [⟨verb, args, true⟩] := by
    have hcalls :=
      Scanner.calls_list hspace (Scanner.isChain_of_notMem hparen ' ') hslash hlist
    rw [scan, htext, hcalls.1, String.ofList_toList]
  constructor
  · intro hkept
    have hblank : ∀ n, raws.map String.toList ≠ [List.replicate n ' '] := by
      intro n heq
      obtain ⟨t, rfl, ht⟩ := List.map_eq_singleton_iff.mp heq
      have hspaces : t = spaces n := String.toList_inj.mp (ht.trans (toList_spaces n).symm)
      exact hkept n (by rw [hspaces])
    have hlists := hscan (Scanner.lists_nested (by simpa using hne) hblank hnested)
    rw [List.map_map] at hlists
    exact hlists
  · rintro n rfl
    rw [List.map_singleton, toList_spaces] at hnested hscan
    have hraw := Scanner.readAsText_nested (hnested _ (List.mem_singleton.mpr rfl))
    exact hscan (Scanner.lists_blank hraw (Text.trimSpaces_eq_nil_iff.mpr ⟨n, rfl⟩))

/-- A pattern with a group, in which a comma and an escaped parenthesis stand; an argument of
spaces, which counts beside another; and an escaped comma. -/
theorem scan_nested_list_of_pattern :
    ' ' ∉ "regex".toList ∧ '(' ∉ "regex".toList ∧ "regex".toList.getLast? ≠ some '\\' ∧
    (∀ t ∈ [" ^(a|b,(c)\\()+$", "  ", "x\\,y\\\\)"], Argument.Nested t.toList) ∧
    scan ("regex" ++ "(" ++ ",".intercalate [" ^(a|b,(c)\\()+$", "  ", "x\\,y\\\\)"] ++ ")") =
      [⟨"regex", ["^(a|b,(c)()+$", "", "x,y\\)"], true⟩] := by
  have hraws : ∀ t ∈ [" ^(a|b,(c)\\()+$", "  ", "x\\,y\\\\)"], Argument.Nested t.toList := by
    decide
  have hspace : ' ' ∉ "regex".toList := by decide
  have hparen : '(' ∉ "regex".toList := by decide
  have hslash : "regex".toList.getLast? ≠ some '\\' := by decide
  have hscan := (scan_nested_list hspace hparen hslash (by simp) hraws).1 (by simp)
  exact ⟨hspace, hparen, hslash, hraws, hscan.trans (by decide)⟩

end FieldRules
