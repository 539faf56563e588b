import FieldRules.Proofs.MatchedPlaces
import Mathlib.Computability.Language

namespace FieldRules.Pattern

open Place (Spans Steps Follows ofText)

mutual
/-- The pattern leads from a place to a place where a match ends. A repetition has its least number
of rounds, and then as many more as its limit leaves it. -/
def Leads : Pattern → Place → Place → Prop
  | flags, p, q => q = p
  | set s _, p, q => p.over? s = some q
  | look l, p, q => l.holds p = true ∧ q = p
  | group _ r, p, q => r.Leads p q
  | times min max r, p, q => ∃ n, (∀ m ∈ max, n ≤ m - min) ∧ Steps r.Leads (min + n) p q
  | concat rs, p, q => LeadsAll rs p q
  | either rs, p, q => LeadsAny rs p q

def LeadsAll : List Pattern → Place → Place → Prop
  | [], p, q => q = p
  | r :: rs, p, q => ∃ t, r.Leads p t ∧ LeadsAll rs t q

def LeadsAny : List Pattern → Place → Place → Prop
  | [], _, _ => False
  | r :: rs, p, q => r.Leads p q ∨ LeadsAny rs p q
end

theorem spans_of_steps {move : Place → Place → Prop}
    (hmove : ∀ {p q}, move p q → ∃ w, p.Spans w q) {n : Nat} {p q : Place}
    (h : Steps move n p q) : ∃ w, p.Spans w q := by
  induction n generalizing p with
  | zero => exact ⟨[], Place.spans_nil_iff.mpr h⟩
  | succ n ih =>
    obtain ⟨t, ht, hrest⟩ := h
    obtain ⟨v, hv⟩ := hmove ht
    obtain ⟨w, hw⟩ := ih hrest
    exact ⟨v ++ w, Place.spans_append_iff.mpr ⟨t, hv, hw⟩⟩

mutual
/-- A pattern leads on in the text, or nowhere else. -/
theorem exists_spans_of_leads : (r : Pattern) → ∀ {p q}, r.Leads p q → ∃ w, p.Spans w q
  | flags, _, _, h => ⟨[], Place.spans_nil_iff.mpr h⟩
  | set _ _, _, _, h =>
    have ⟨c, _, hc⟩ := Place.over?_eq_some_iff.mp h
    ⟨[c], hc⟩
  | look _, _, _, h => ⟨[], Place.spans_nil_iff.mpr h.2⟩
  | group _ r, _, _, h => exists_spans_of_leads r h
  | times _ _ r, _, _, h =>
    have ⟨_, _, hsteps⟩ := h
    spans_of_steps (exists_spans_of_leads r) hsteps
  | concat rs, _, _, h => exists_spans_of_leadsAll rs h
  | either rs, _, _, h => exists_spans_of_leadsAny rs h

theorem exists_spans_of_leadsAll :
    (rs : List Pattern) → ∀ {p q}, LeadsAll rs p q → ∃ w, p.Spans w q
  | [], _, _, h => ⟨[], Place.spans_nil_iff.mpr h⟩
  | r :: rs, _, _, h =>
    have ⟨t, hfirst, hrest⟩ := h
    have ⟨v, hv⟩ := exists_spans_of_leads r hfirst
    have ⟨w, hw⟩ := exists_spans_of_leadsAll rs hrest
    ⟨v ++ w, Place.spans_append_iff.mpr ⟨t, hv, hw⟩⟩

theorem exists_spans_of_leadsAny :
    (rs : List Pattern) → ∀ {p q}, LeadsAny rs p q → ∃ w, p.Spans w q
  | [], _, _, h => h.elim
  | r :: rs, _, _, h => h.elim (exists_spans_of_leads r) (exists_spans_of_leadsAny rs)
end

section Ends

set_option linter.unusedSectionVars false

variable {cs : List Char} {size : Nat} (hsize : cs.length ≤ size)
include hsize

/-- As many rounds as the text has characters are enough for a repetition without limit. -/
theorem mem_ends_times_iff {min : Nat} {max : Option Nat} {r : Pattern}
    (h : Follows cs (r.ends size) r.Leads) {ps : List Place} (hps : ps ⊆ ofText cs) {q : Place} :
    q ∈ (times min max r).ends size ps ↔ ∃ p ∈ ps, (times min max r).Leads p q := by
  have hleast {t : Place} := h.mem_repeat_iff hps min (q := t)
  have hfrontier : Place.Frontier cs r.Leads (Nat.repeat (r.ends size) min ps)
      (Nat.repeat (r.ends size) min ps) := by
    refine ⟨fun t ht => ?_, List.Subset.refl _, fun t ht _ _ => .inr ht⟩
    obtain ⟨p, hp, hsteps⟩ := hleast.mp ht
    obtain ⟨w, hw⟩ := spans_of_steps h.spans hsteps
    exact Place.mem_ofText_of_spans (hps hp) hw
  rw [ends, h.mem_reach_iff _ hfrontier]
  constructor
  · rintro (hq | ⟨t, ht, n, hn, hsteps⟩)
    · obtain ⟨p, hp, hsteps⟩ := hleast.mp hq
      exact ⟨p, hp, 0, fun m _ => Nat.zero_le _, hsteps⟩
    · obtain ⟨p, hp, hfirst⟩ := hleast.mp ht
      refine ⟨p, hp, n, fun m hm => ?_, Place.steps_add_iff.mpr ⟨t, hfirst, hsteps⟩⟩
      simpa [Option.mem_def.mp hm] using hn
  · rintro ⟨p, hp, n, hn, hsteps⟩
    obtain ⟨t, hfirst, hrest⟩ := Place.steps_add_iff.mp hsteps
    have ht := hleast.mpr ⟨p, hp, hfirst⟩
    cases max with
    | some m => exact .inr ⟨t, ht, n, hn m rfl, hrest⟩
    | none =>
      obtain ⟨m, hm, hshort, hle⟩ := h.exists_short_steps hrest
      obtain ⟨w, hw⟩ := spans_of_steps h.spans hrest
      have hq : q.index ≤ cs.length :=
        Place.index_le_length (Place.mem_ofText_of_spans (hfrontier.inText ht) hw)
      exact .inr ⟨t, ht, m, by simp only [Option.map_none, Option.getD_none]; omega, hshort⟩

mutual
/-- Matching from places of a text gives the places to which the pattern leads from them. -/
theorem mem_ends_iff : (r : Pattern) → ∀ {ps : List Place} {q : Place}, ps ⊆ ofText cs →
    (q ∈ r.ends size ps ↔ ∃ p ∈ ps, r.Leads p q)
  | flags, ps, q, _ => by simp [ends, Leads]
  | set s _, ps, q, _ => by simp [ends, Leads]
  | look l, ps, q, _ => by
    simp only [ends, Leads, List.mem_filter]
    constructor
    · exact fun ⟨hq, hl⟩ => ⟨q, hq, hl, rfl⟩
    · rintro ⟨p, hp, hl, rfl⟩
      exact ⟨hp, hl⟩
  | group _ r, ps, q, hps => by
    rw [ends]
    exact mem_ends_iff r hps
  | times _ _ r, ps, q, hps =>
    mem_ends_times_iff hsize ⟨exists_spans_of_leads r, mem_ends_iff r⟩ hps
  | concat rs, ps, q, hps => by
    rw [ends]
    exact mem_endsOfAll_iff rs hps
  | either rs, ps, q, hps => by
    rw [ends]
    exact mem_endsOfAny_iff rs hps

theorem mem_endsOfAll_iff : (rs : List Pattern) → ∀ {ps : List Place} {q : Place},
    ps ⊆ ofText cs → (q ∈ endsOfAll size rs ps ↔ ∃ p ∈ ps, LeadsAll rs p q)
  | [], ps, q, _ => by simp [endsOfAll, LeadsAll]
  | r :: rs, ps, q, hps => by
    have hfirst : Follows cs (r.ends size) r.Leads := ⟨exists_spans_of_leads r, mem_ends_iff r⟩
    rw [endsOfAll, mem_endsOfAll_iff rs (hfirst.subset hps)]
    simp only [mem_ends_iff r hps, LeadsAll]
    constructor
    · rintro ⟨t, ⟨p, hp, ht⟩, hrest⟩
      exact ⟨p, hp, t, ht, hrest⟩
    · rintro ⟨p, hp, t, ht, hrest⟩
      exact ⟨t, ⟨p, hp, ht⟩, hrest⟩

theorem mem_endsOfAny_iff : (rs : List Pattern) → ∀ {ps : List Place} {q : Place},
    ps ⊆ ofText cs → (q ∈ endsOfAny size rs ps ↔ ∃ p ∈ ps, LeadsAny rs p q)
  | [], ps, q, _ => by simp [endsOfAny, LeadsAny]
  | r :: rs, ps, q, hps => by
    have hfirst : Follows cs (r.ends size) r.Leads := ⟨exists_spans_of_leads r, mem_ends_iff r⟩
    have hrest : endsOfAny size rs ps ⊆ ofText cs := by
      intro t ht
      obtain ⟨p, hp, hleads⟩ := (mem_endsOfAny_iff rs hps).mp ht
      obtain ⟨w, hw⟩ := exists_spans_of_leadsAny rs hleads
      exact Place.mem_ofText_of_spans (hps hp) hw
    rw [endsOfAny, Place.mem_merge_iff (hfirst.subset hps) hrest, mem_ends_iff r hps,
      mem_endsOfAny_iff rs hps]
    simp only [LeadsAny, and_or_left, exists_or]
end

end Ends

/-- A pattern matches a text if it leads from one of its places to another. -/
theorem isMatch_iff (r : Pattern) (cs : List Char) :
    r.isMatch cs = true ↔ ∃ p ∈ ofText cs, ∃ q, r.Leads p q := by
  have hmem {q : Place} := mem_ends_iff (by omega : cs.length ≤ cs.length + 2) r
    (List.Subset.refl (ofText cs)) (q := q)
  rw [isMatch, Bool.not_eq_true', List.isEmpty_eq_false_iff_exists_mem]
  simp only [hmem]
  exact ⟨fun ⟨q, p, hp, h⟩ => ⟨p, hp, q, h⟩, fun ⟨p, hp, q, h⟩ => ⟨q, p, hp, h⟩⟩

mutual
/-- Whether no part of the pattern is a condition on a place. -/
def isPlain : Pattern → Bool
  | flags => true
  | set _ _ => true
  | look _ => false
  | group _ r => r.isPlain
  | times _ _ r => r.isPlain
  | concat rs => arePlain rs
  | either rs => arePlain rs

def arePlain : List Pattern → Bool
  | [] => true
  | r :: rs => r.isPlain && arePlain rs
end

mutual
/-- The words that a pattern leads over. Conditions on places have no words of their own. -/
def language : Pattern → Language Char
  | flags => 1
  | set s _ => {w | ∃ c, s.contains c = true ∧ w = [c]}
  | look _ => 1
  | group _ r => r.language
  | times min max r => {w | ∃ n, (∀ m ∈ max, n ≤ m - min) ∧ w ∈ r.language ^ (min + n)}
  | concat rs => languageOfAll rs
  | either rs => languageOfAny rs

def languageOfAll : List Pattern → Language Char
  | [] => 1
  | r :: rs => r.language * languageOfAll rs

def languageOfAny : List Pattern → Language Char
  | [] => 0
  | r :: rs => r.language + languageOfAny rs
end

theorem languageOfAll_append (rs ss : List Pattern) :
    languageOfAll (rs ++ ss) = languageOfAll rs * languageOfAll ss := by
  induction rs with
  | nil => exact (one_mul _).symm
  | cons r rs ih => rw [List.cons_append, languageOfAll, ih, languageOfAll, mul_assoc]

theorem languageOfAll_singleton (r : Pattern) : languageOfAll [r] = r.language := mul_one _

theorem mem_languageOfAll_cons_iff {r : Pattern} {rs : List Pattern} {w : List Char} :
    w ∈ languageOfAll (r :: rs) ↔ ∃ u ∈ r.language, ∃ v ∈ languageOfAll rs, u ++ v = w :=
  Language.mem_mul

theorem mem_languageOfAll_set_cons_iff {s : Unicode.CodeSet} {depth : Nat} {rs : List Pattern}
    {w : List Char} : w ∈ languageOfAll (set s depth :: rs) ↔
      ∃ c, s.contains c = true ∧ ∃ v ∈ languageOfAll rs, w = c :: v := by
  rw [mem_languageOfAll_cons_iff]
  constructor
  · rintro ⟨_, ⟨c, hc, rfl⟩, v, hv, rfl⟩
    exact ⟨c, hc, v, hv, rfl⟩
  · rintro ⟨c, hc, v, hv, rfl⟩
    exact ⟨[c], ⟨c, hc, rfl⟩, v, hv, rfl⟩

/-- The words of a repetition are those of its rounds, one after the other. -/
theorem mem_times_language_iff {min : Nat} {max : Option Nat} {r : Pattern} {w : List Char} :
    w ∈ (times min max r).language ↔ ∃ ws : List (List Char), w = ws.flatten ∧
      (∀ v ∈ ws, v ∈ r.language) ∧ min ≤ ws.length ∧ ∀ m ∈ max, ws.length - min ≤ m - min := by
  rw [language]
  constructor
  · rintro ⟨n, hn, hw⟩
    obtain ⟨ws, rfl, hlength, hws⟩ := Language.mem_pow.mp hw
    exact ⟨ws, rfl, hws, by omega, fun m hm => by have := hn m hm; omega⟩
  · rintro ⟨ws, rfl, hws, hmin, hmax⟩
    exact ⟨ws.length - min, hmax, Language.mem_pow.mpr ⟨ws, rfl, by omega, hws⟩⟩

theorem mem_times_set_language_iff {min : Nat} {max : Option Nat} {s : Unicode.CodeSet}
    {depth : Nat} {w : List Char} :
    w ∈ (times min max (set s depth)).language ↔
      (∀ c ∈ w, s.contains c = true) ∧ min ≤ w.length ∧ ∀ m ∈ max, w.length - min ≤ m - min := by
  rw [mem_times_language_iff]
  constructor
  · rintro ⟨ws, rfl, hws, hbounds⟩
    have hlength : ws.flatten.length = ws.length := by
      have hone : ws.map List.length = ws.map fun _ => 1 := List.map_congr_left fun v hv => by
        obtain ⟨c, -, rfl⟩ := hws v hv
        rfl
      rw [List.length_flatten, hone]
      simp
    rw [hlength]
    refine ⟨fun c hc => ?_, hbounds⟩
    obtain ⟨v, hv, hcv⟩ := List.mem_flatten.mp hc
    obtain ⟨d, hd, rfl⟩ := hws v hv
    rwa [List.mem_singleton.mp hcv]
  · rintro ⟨hall, hbounds⟩
    refine ⟨w.map fun c => [c], (List.flatMap_singleton' w).symm, fun v hv => ?_, by
      simpa using hbounds⟩
    obtain ⟨c, hc, rfl⟩ := List.mem_map.mp hv
    exact ⟨c, hall c hc, rfl⟩

theorem mem_optional_language_iff {r : Pattern} {w : List Char} :
    w ∈ (times 0 (some 1) r).language ↔ w = [] ∨ w ∈ r.language := by
  rw [mem_times_language_iff]
  constructor
  · rintro ⟨ws, rfl, hws, -, hmax⟩
    match ws, hmax 1 rfl with
    | [], _ => exact .inl rfl
    | [v], _ => exact .inr (by simpa using hws v)
  · rintro (rfl | hw)
    · exact ⟨[], rfl, by simp, by simp, by simp⟩
    · exact ⟨[w], by simp, by simpa using hw, by simp, by simp⟩

theorem mem_star_language_iff {r : Pattern} {w : List Char} :
    w ∈ (times 0 none r).language ↔
      ∃ ws : List (List Char), w = ws.flatten ∧ ∀ v ∈ ws, v ∈ r.language := by
  simp [mem_times_language_iff]

/-- A move over the words of one language and then over those of another. -/
theorem exists_mem_mul_spans_iff {L M : Language Char} {p q : Place} :
    (∃ w ∈ L * M, p.Spans w q) ↔
      ∃ t, (∃ v ∈ L, p.Spans v t) ∧ ∃ w ∈ M, t.Spans w q := by
  constructor
  · rintro ⟨_, hword, hspans⟩
    obtain ⟨v, hv, w, hw, rfl⟩ := Language.mem_mul.mp hword
    obtain ⟨t, hfirst, hrest⟩ := Place.spans_append_iff.mp hspans
    exact ⟨t, ⟨v, hv, hfirst⟩, w, hw, hrest⟩
  · rintro ⟨t, ⟨v, hv, hfirst⟩, w, hw, hrest⟩
    exact ⟨v ++ w, Language.append_mem_mul hv hw, Place.spans_append_iff.mpr ⟨t, hfirst, hrest⟩⟩

theorem exists_mem_one_spans_iff {p q : Place} :
    (∃ w ∈ (1 : Language Char), p.Spans w q) ↔ q = p := by
  simp [Language.mem_one, Place.spans_nil_iff]

theorem steps_iff_mem_pow {move : Place → Place → Prop} {L : Language Char}
    (h : ∀ {p q}, move p q ↔ ∃ w ∈ L, p.Spans w q) {n : Nat} {p q : Place} :
    Steps move n p q ↔ ∃ w ∈ L ^ n, p.Spans w q := by
  induction n generalizing p with
  | zero => rw [pow_zero, exists_mem_one_spans_iff, Steps]
  | succ n ih =>
    rw [pow_succ', exists_mem_mul_spans_iff, Steps]
    exact exists_congr fun t => and_congr h ih

mutual
/-- A plain pattern leads over the words of its language, wherever it starts. -/
theorem leads_iff_mem_language : (r : Pattern) → r.isPlain = true → ∀ {p q},
    (r.Leads p q ↔ ∃ w ∈ r.language, p.Spans w q)
  | flags, _, _, _ => exists_mem_one_spans_iff.symm
  | set _ _, _, p, q => by
    rw [Leads, Place.over?_eq_some_iff, language]
    constructor
    · exact fun ⟨c, hc, hspans⟩ => ⟨[c], ⟨c, hc, rfl⟩, hspans⟩
    · rintro ⟨_, ⟨c, hc, rfl⟩, hspans⟩
      exact ⟨c, hc, hspans⟩
  | group _ r, h, _, _ => leads_iff_mem_language r h
  | times _ _ r, h, p, q => by
    have hsteps {n : Nat} : Steps r.Leads n p q ↔ ∃ w ∈ r.language ^ n, p.Spans w q :=
      steps_iff_mem_pow (leads_iff_mem_language r h)
    simp only [Leads, hsteps, language]
    constructor
    · rintro ⟨n, hn, w, hw, hspans⟩
      exact ⟨w, ⟨n, hn, hw⟩, hspans⟩
    · rintro ⟨w, ⟨n, hn, hw⟩, hspans⟩
      exact ⟨n, hn, w, hw, hspans⟩
  | concat rs, h, _, _ => leadsAll_iff_mem_language rs h
  | either rs, h, _, _ => leadsAny_iff_mem_language rs h

theorem leadsAll_iff_mem_language : (rs : List Pattern) → arePlain rs = true → ∀ {p q},
    (LeadsAll rs p q ↔ ∃ w ∈ languageOfAll rs, p.Spans w q)
  | [], _, _, _ => exists_mem_one_spans_iff.symm
  | r :: rs, h, p, q => by
    obtain ⟨hr, hrs⟩ := Bool.and_eq_true_iff.mp h
    rw [LeadsAll, languageOfAll, exists_mem_mul_spans_iff]
    exact exists_congr fun t =>
      and_congr (leads_iff_mem_language r hr) (leadsAll_iff_mem_language rs hrs)

theorem leadsAny_iff_mem_language : (rs : List Pattern) → arePlain rs = true → ∀ {p q},
    (LeadsAny rs p q ↔ ∃ w ∈ languageOfAny rs, p.Spans w q)
  | [], _, _, _ => by simp [LeadsAny, languageOfAny, Language.notMem_zero]
  | r :: rs, h, p, q => by
    obtain ⟨hr, hrs⟩ := Bool.and_eq_true_iff.mp h
    rw [LeadsAny, languageOfAny, leads_iff_mem_language r hr, leadsAny_iff_mem_language rs hrs]
    simp only [Language.mem_add, or_and_right, exists_or]
end

theorem leadsAll_append_iff {rs ss : List Pattern} {p q : Place} :
    LeadsAll (rs ++ ss) p q ↔ ∃ t, LeadsAll rs p t ∧ LeadsAll ss t q := by
  induction rs generalizing p with
  | nil => simp [LeadsAll]
  | cons r rs ih =>
    simp only [List.cons_append, LeadsAll, ih]
    constructor
    · rintro ⟨u, hu, t, ht, hq⟩
      exact ⟨t, ⟨u, hu, ht⟩, hq⟩
    · rintro ⟨t, ⟨u, hu, ht⟩, hq⟩
      exact ⟨u, hu, t, ht, hq⟩

/-- The place before a text is the only one with nothing before it. -/
theorem textStart_holds_iff {cs : List Char} {p : Place} (hp : p ∈ ofText cs) :
    Look.textStart.holds p = true ↔ p = Place.start cs := by
  obtain ⟨w, hw⟩ := Place.mem_ofText_iff.mp hp
  constructor
  · intro h
    have hbefore : w.getLast?.or none = none :=
      hw.before.symm.trans (Option.isNone_iff_eq_none.mp h)
    obtain rfl : w = [] := by simpa using hbefore
    exact Place.spans_nil_iff.mp hw
  · rintro rfl
    rfl

/-- Between both ends of the text a plain pattern matches the words of its language. -/
theorem isMatch_between_ends_iff {rs : List Pattern} (h : arePlain rs = true) (cs : List Char) :
    (concat (look .textStart :: rs ++ [look .textEnd])).isMatch cs = true ↔
      cs ∈ languageOfAll rs := by
  have hstart : Place.start cs ∈ ofText cs :=
    Place.mem_ofText_iff.mpr ⟨[], Place.spans_nil_iff.mpr rfl⟩
  rw [isMatch_iff]
  constructor
  · rintro ⟨p, hp, q, t, ⟨hfirst, rfl⟩, hrest⟩
    obtain rfl := (textStart_holds_iff hp).mp hfirst
    obtain ⟨u, hall, _, ⟨hlast, -⟩, -⟩ := leadsAll_append_iff.mp hrest
    obtain ⟨w, hw, hspans⟩ := (leadsAll_iff_mem_language rs h).mp hall
    have hcs : cs = w ++ u.after := hspans.after
    rw [List.isEmpty_iff.mp hlast, List.append_nil] at hcs
    rwa [hcs]
  · intro hcs
    have hspans : (Place.start cs).Spans cs ⟨cs.length, cs.getLast?, []⟩ :=
      ⟨(List.append_nil cs).symm, by simp [Place.start], by simp [Place.start]⟩
    have hall := (leadsAll_iff_mem_language rs h).mpr ⟨cs, hcs, hspans⟩
    exact ⟨_, hstart, _, _, ⟨rfl, rfl⟩, leadsAll_append_iff.mpr ⟨_, hall, _, ⟨rfl, rfl⟩, rfl⟩⟩

end FieldRules.Pattern
