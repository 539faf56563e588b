import FieldRules.Pattern.Match
import Mathlib.Tactic.Tauto

namespace FieldRules

namespace Place

/-- The text from one place to the other. -/
structure Spans (p : Place) (word : List Char) (q : Place) : Prop where
  after : p.after = word ++ q.after
  index : q.index = p.index + word.length
  before : q.before = word.getLast?.or p.before

theorem spans_nil_iff {p q : Place} : p.Spans [] q ↔ q = p := by
  constructor
  · rintro ⟨hafter, hindex, hbefore⟩
    obtain ⟨i, b, cs⟩ := p
    obtain ⟨j, d, ds⟩ := q
    simp_all
  · rintro rfl
    exact ⟨rfl, rfl, rfl⟩

theorem spans_append_iff {p q : Place} {v w : List Char} :
    p.Spans (v ++ w) q ↔ ∃ t, p.Spans v t ∧ t.Spans w q := by
  constructor
  · rintro ⟨hafter, hindex, hbefore⟩
    refine ⟨⟨p.index + v.length, v.getLast?.or p.before, w ++ q.after⟩, ⟨?_, rfl, rfl⟩,
      rfl, ?_, ?_⟩
    · rw [hafter, List.append_assoc]
    · rw [hindex, List.length_append, Nat.add_assoc]
    · rw [hbefore, List.getLast?_append, Option.or_assoc]
  · rintro ⟨t, hv, hw⟩
    refine ⟨?_, ?_, ?_⟩
    · rw [hv.after, hw.after, List.append_assoc]
    · rw [hw.index, hv.index, List.length_append, Nat.add_assoc]
    · rw [hw.before, hv.before, List.getLast?_append, Option.or_assoc]

theorem over?_eq_some_iff {s : Unicode.CodeSet} {p q : Place} :
    p.over? s = some q ↔ ∃ c, s.contains c = true ∧ p.Spans [c] q := by
  obtain ⟨i, b, cs⟩ := p
  cases cs with
  | nil =>
    constructor
    · rintro ⟨⟩
    · rintro ⟨c, -, hafter, -, -⟩
      cases hafter
  | cons c cs =>
    simp only [over?]
    constructor
    · intro h
      split at h
      · cases h
        exact ⟨c, ‹_›, rfl, rfl, rfl⟩
      · cases h
    · rintro ⟨d, hd, hafter, hindex, hbefore⟩
      cases hafter
      obtain ⟨j, e, ds⟩ := q
      simp_all

theorem Spans.index_lt {p q : Place} {w : List Char} (h : p.Spans w q) (hne : q ≠ p) :
    p.index < q.index := by
  have hword : w ≠ [] := fun hnil => hne (spans_nil_iff.mp (hnil ▸ h))
  have hlength := List.length_pos_iff.mpr hword
  have hindex := h.index
  omega

theorem mem_placesFrom_iff {index : Nat} {before : Option Char} {cs : List Char} {p : Place} :
    p ∈ placesFrom index before cs ↔ ∃ w, Spans ⟨index, before, cs⟩ w p := by
  induction cs generalizing index before with
  | nil =>
    rw [placesFrom, List.mem_singleton]
    constructor
    · exact fun h => ⟨[], spans_nil_iff.mpr h⟩
    · rintro ⟨w, hw⟩
      obtain ⟨rfl, -⟩ := List.append_eq_nil_iff.mp hw.after.symm
      exact spans_nil_iff.mp hw
  | cons c cs ih =>
    have hover : Spans ⟨index, before, c :: cs⟩ [c] ⟨index + 1, some c, cs⟩ := ⟨rfl, rfl, rfl⟩
    rw [placesFrom, List.mem_cons, ih]
    constructor
    · rintro (rfl | ⟨w, hw⟩)
      · exact ⟨[], spans_nil_iff.mpr rfl⟩
      · exact ⟨[c] ++ w, spans_append_iff.mpr ⟨_, hover, hw⟩⟩
    · rintro ⟨w, hw⟩
      cases w with
      | nil => exact .inl (spans_nil_iff.mp hw)
      | cons d w =>
        obtain ⟨hd, -⟩ := List.cons_eq_cons.mp hw.after
        subst hd
        obtain ⟨t, ht, hw⟩ := (spans_append_iff (v := [c])).mp hw
        have hplace : t = ⟨index + 1, some c, cs⟩ := by
          obtain ⟨j, b, ds⟩ := t
          obtain ⟨hafter, hindex, hbefore⟩ := ht
          simp_all
        exact .inr ⟨w, hplace ▸ hw⟩

/-- The place before a text. -/
def start (cs : List Char) : Place := ⟨0, none, cs⟩

variable {cs : List Char}

theorem mem_ofText_iff {p : Place} : p ∈ ofText cs ↔ ∃ w, (start cs).Spans w p :=
  mem_placesFrom_iff

theorem mem_ofText_of_spans {p q : Place} {w : List Char} (hp : p ∈ ofText cs) (h : p.Spans w q) :
    q ∈ ofText cs := by
  obtain ⟨v, hv⟩ := mem_ofText_iff.mp hp
  exact mem_ofText_iff.mpr ⟨v ++ w, spans_append_iff.mpr ⟨p, hv, h⟩⟩

theorem index_le_length {p : Place} (hp : p ∈ ofText cs) : p.index ≤ cs.length := by
  obtain ⟨w, hafter, hindex, -⟩ := mem_ofText_iff.mp hp
  have hlength := congrArg List.length hafter
  simp only [start, List.length_append] at hlength hindex
  omega

/-- A place of a text is known by its index. -/
theorem eq_of_index_eq {p q : Place} (hp : p ∈ ofText cs) (hq : q ∈ ofText cs)
    (h : p.index = q.index) : p = q := by
  obtain ⟨v, hv⟩ := mem_ofText_iff.mp hp
  obtain ⟨w, hw⟩ := mem_ofText_iff.mp hq
  have hlength : v.length = w.length := by
    have hvlength := hv.index
    have hwlength := hw.index
    omega
  obtain ⟨hword, hafter⟩ := List.append_inj (hv.after.symm.trans hw.after) hlength
  have hbefore : p.before = q.before := by rw [hv.before, hw.before, hword]
  obtain ⟨i, b, ds⟩ := p
  obtain ⟨j, c, es⟩ := q
  simp_all

theorem mem_merge_iff {ps qs : List Place} (hps : ps ⊆ ofText cs) (hqs : qs ⊆ ofText cs)
    {t : Place} : t ∈ merge ps qs ↔ t ∈ ps ∨ t ∈ qs := by
  fun_induction merge ps qs with
  | case1 qs => simp
  | case2 ps => simp
  | case3 p ps q qs hlt ih =>
    rw [List.mem_cons, ih (List.subset_of_cons_subset hps) hqs, ← or_assoc, ← List.mem_cons]
  | case4 p ps q qs _ hlt ih =>
    rw [List.mem_cons, ih hps (List.subset_of_cons_subset hqs), or_left_comm, ← List.mem_cons]
  | case5 p ps q qs hle hge ih =>
    have hsame : p = q := eq_of_index_eq (hps (by simp)) (hqs (by simp)) (by omega)
    rw [List.mem_cons, ih (List.subset_of_cons_subset hps) (List.subset_of_cons_subset hqs),
      List.mem_cons, List.mem_cons, hsame, or_or_or_comm, or_self]

theorem mem_minus_iff {ps qs : List Place} (hps : ps ⊆ ofText cs) (hqs : qs ⊆ ofText cs)
    {t : Place} : t ∈ minus ps qs ↔ t ∈ ps ∧ t ∉ qs := by
  simp only [minus, List.mem_filter, Bool.not_eq_true', List.any_eq_false, beq_iff_eq]
  refine and_congr_right fun ht => ⟨fun h hmem => h t hmem rfl, fun h q hq hindex => h ?_⟩
  exact eq_of_index_eq (hqs hq) (hps ht) hindex ▸ hq

/-- `n` moves one after the other. -/
def Steps (move : Place → Place → Prop) : (n : Nat) → Place → Place → Prop
  | 0, p, q => q = p
  | n + 1, p, q => ∃ t, move p t ∧ Steps move n t q

section Rounds

variable {move : Place → Place → Prop}

theorem steps_add_iff {m n : Nat} {p q : Place} :
    Steps move (m + n) p q ↔ ∃ t, Steps move m p t ∧ Steps move n t q := by
  induction m generalizing p with
  | zero => simp [Steps]
  | succ m ih =>
    rw [Nat.succ_add, Steps]
    simp only [ih, Steps]
    constructor
    · rintro ⟨u, hu, t, ht, hq⟩
      exact ⟨t, ⟨u, hu, ht⟩, hq⟩
    · rintro ⟨t, ⟨u, hu, ht⟩, hq⟩
      exact ⟨u, hu, t, ht, hq⟩

/-- Places of a text that are found, the fresh ones among them yet to be gone on from: from all
others every move leads to a place that is found. -/
structure Frontier (cs : List Char) (move : Place → Place → Prop) (found fresh : List Place) :
    Prop where
  inText : found ⊆ ofText cs
  subset : fresh ⊆ found
  closed : ∀ p ∈ found, ∀ q, move p q → q ∈ found ∨ p ∈ fresh

theorem Frontier.fresh_inText {found fresh : List Place} (h : Frontier cs move found fresh) :
    fresh ⊆ ofText cs := fun _ ht => h.inText (h.subset ht)

/-- Steps that lead away from what is found lead through a fresh place. -/
theorem Frontier.exists_of_steps {found fresh : List Place} (h : Frontier cs move found fresh)
    {n : Nat} {p q : Place} (hp : p ∈ found) (hsteps : Steps move n p q) :
    q ∈ found ∨ ∃ t ∈ fresh, ∃ m ≤ n, Steps move m t q := by
  induction n generalizing p with
  | zero => exact .inl (hsteps ▸ hp)
  | succ n ih =>
    obtain ⟨t, hmove, hrest⟩ := hsteps
    rcases h.closed p hp t hmove with ht | hfresh
    · rcases ih ht hrest with hq | ⟨u, hu, m, hm, hlater⟩
      · exact .inl hq
      · exact .inr ⟨u, hu, m, by omega, hlater⟩
    · exact .inr ⟨p, hfresh, n + 1, Nat.le_refl _, t, hmove, hrest⟩

/-- `next` leads from places of the text to those where a move ends, which goes on in the text. -/
structure Follows (cs : List Char) (next : List Place → List Place)
    (move : Place → Place → Prop) : Prop where
  spans : ∀ {p q}, move p q → ∃ w, p.Spans w q
  mem_iff : ∀ {ps q}, ps ⊆ ofText cs → (q ∈ next ps ↔ ∃ p ∈ ps, move p q)

namespace Follows

variable {next : List Place → List Place} (h : Follows cs next move)
include h

theorem subset {ps : List Place} (hps : ps ⊆ ofText cs) : next ps ⊆ ofText cs := by
  intro q hq
  obtain ⟨p, hp, hmove⟩ := (h.mem_iff hps).mp hq
  obtain ⟨w, hw⟩ := h.spans hmove
  exact mem_ofText_of_spans (hps hp) hw

theorem mem_repeat_iff {ps : List Place} (hps : ps ⊆ ofText cs) (n : Nat) {q : Place} :
    q ∈ Nat.repeat next n ps ↔ ∃ p ∈ ps, Steps move n p q := by
  suffices hboth : Nat.repeat next n ps ⊆ ofText cs ∧
      ∀ q, q ∈ Nat.repeat next n ps ↔ ∃ p ∈ ps, Steps move n p q from hboth.2 q
  induction n with
  | zero => exact ⟨hps, fun q => by simp [Nat.repeat, Steps]⟩
  | succ n ih =>
    refine ⟨h.subset ih.1, fun q => ?_⟩
    rw [Nat.repeat, h.mem_iff ih.1]
    simp only [ih.2, steps_add_iff]
    constructor
    · rintro ⟨t, ⟨p, hp, hsteps⟩, hmove⟩
      exact ⟨p, hp, t, hsteps, q, hmove, rfl⟩
    · rintro ⟨p, hp, t, hsteps, u, hmove, rfl⟩
      exact ⟨t, ⟨p, hp, hsteps⟩, hmove⟩

section Round

variable {found fresh : List Place} (hfrontier : Frontier cs move found fresh)
include hfrontier

theorem mem_fresh_round_iff {q : Place} :
    q ∈ minus (next fresh) found ↔ (∃ p ∈ fresh, move p q) ∧ q ∉ found := by
  have hfresh : fresh ⊆ ofText cs := hfrontier.fresh_inText
  rw [mem_minus_iff (h.subset hfresh) hfrontier.inText, h.mem_iff hfresh]

theorem mem_found_round_iff {q : Place} :
    q ∈ merge found (minus (next fresh) found) ↔ q ∈ found ∨ ∃ p ∈ fresh, move p q := by
  have hfresh : fresh ⊆ ofText cs := hfrontier.fresh_inText
  have hnew : minus (next fresh) found ⊆ ofText cs :=
    fun t ht => h.subset hfresh (List.mem_filter.mp ht).1
  rw [mem_merge_iff hfrontier.inText hnew, h.mem_fresh_round_iff hfrontier]
  tauto

/-- After a round the places that it has found are the fresh ones. -/
theorem frontier_round :
    Frontier cs move (merge found (minus (next fresh) found)) (minus (next fresh) found) := by
  refine ⟨fun q hq => ?_, fun q hq => ?_, fun p hp q hmove => ?_⟩
  · rcases (h.mem_found_round_iff hfrontier).mp hq with hq | ⟨p, hp, hmove⟩
    · exact hfrontier.inText hq
    · obtain ⟨w, hw⟩ := h.spans hmove
      exact mem_ofText_of_spans (hfrontier.inText (hfrontier.subset hp)) hw
  · exact (h.mem_found_round_iff hfrontier).mpr (.inr ((h.mem_fresh_round_iff hfrontier).mp hq).1)
  · rw [h.mem_found_round_iff hfrontier] at hp ⊢
    rw [h.mem_fresh_round_iff hfrontier]
    by_cases hfound : p ∈ found
    · rcases hfrontier.closed p hfound q hmove with hq | hfresh
      · exact .inl (.inl hq)
      · exact .inl (.inr ⟨p, hfresh, hmove⟩)
    · exact .inr ⟨hp.resolve_left hfound, hfound⟩

end Round

/-- Rounds find what at most that many moves reach from the fresh places. -/
theorem mem_reach_iff (rounds : Nat) {found fresh : List Place}
    (hfrontier : Frontier cs move found fresh) {q : Place} :
    q ∈ reach next rounds found fresh ↔
      q ∈ found ∨ ∃ p ∈ fresh, ∃ n ≤ rounds, Steps move n p q := by
  induction rounds generalizing found fresh with
  | zero =>
    rw [reach]
    refine ⟨.inl, ?_⟩
    rintro (hq | ⟨p, hp, n, hn, hsteps⟩)
    · exact hq
    · obtain rfl : n = 0 := by omega
      exact hsteps ▸ hfrontier.subset hp
  | succ rounds ih =>
    cases fresh with
    | nil => simp [reach]
    | cons f fs =>
      have hfound {t : Place} := h.mem_found_round_iff hfrontier (q := t)
      have hround := h.frontier_round hfrontier
      rw [reach, ih hround, hfound]
      constructor
      · rintro ((hq | ⟨p, hp, hmove⟩) | ⟨t, ht, n, hn, hsteps⟩)
        · exact .inl hq
        · exact .inr ⟨p, hp, 1, by omega, q, hmove, rfl⟩
        · obtain ⟨p, hp, hmove⟩ := ((h.mem_fresh_round_iff hfrontier).mp ht).1
          exact .inr ⟨p, hp, n + 1, by omega, t, hmove, hsteps⟩
      · rintro (hq | ⟨p, hp, n, hn, hsteps⟩)
        · exact .inl (.inl hq)
        · cases n with
          | zero => exact .inl (.inl (hsteps ▸ hfrontier.subset hp))
          | succ n =>
            obtain ⟨t, hmove, hrest⟩ := hsteps
            have ht := hfound.mpr (.inr ⟨p, hp, hmove⟩)
            rw [← hfound]
            exact (hround.exists_of_steps ht hrest).imp_right
              fun ⟨u, hu, m, hm, hlater⟩ => ⟨u, hu, m, by omega, hlater⟩

/-- A move to the place itself can be left out, and every other goes on in the text. -/
theorem exists_short_steps {n : Nat} {p q : Place} (hsteps : Steps move n p q) :
    ∃ m ≤ q.index - p.index, Steps move m p q ∧ p.index ≤ q.index := by
  induction n generalizing p with
  | zero => exact ⟨0, Nat.zero_le _, hsteps, hsteps ▸ Nat.le_refl _⟩
  | succ n ih =>
    obtain ⟨t, hmove, hrest⟩ := hsteps
    obtain ⟨m, hm, hshort, hle⟩ := ih hrest
    obtain ⟨w, hw⟩ := h.spans hmove
    by_cases hstay : t = p
    · exact ⟨m, hstay ▸ hm, hstay ▸ hshort, hstay ▸ hle⟩
    · have hlt := hw.index_lt hstay
      exact ⟨m + 1, by omega, ⟨t, hmove, hshort⟩, by omega⟩

end Follows

end Rounds

end Place
end FieldRules
