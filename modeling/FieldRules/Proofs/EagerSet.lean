import FieldRules.Proofs.Registration
import Mathlib.Data.Finset.Erase
import Mathlib.Data.Finset.Insert

namespace FieldRules

/-- A table kept in two parts, the verbs by name and the names of those that are eager. Only what is
done to it keeps the two in step. -/
structure SplitTable where
  verbs : Entries Handler := []
  eager : Finset String := ∅

namespace SplitTable

def register (t : SplitTable) (name : String) (verb : Handler) : SplitTable where
  eager := t.eager.erase name
  verbs := t.verbs.insert name verb

def registerEager (t : SplitTable) (name : String) (verb : Handler) : SplitTable where
  eager := insert name t.eager
  verbs := t.verbs.insert name verb

def verb? (t : SplitTable) (name : String) : Option Handler := t.verbs.get? name

def contains (t : SplitTable) (name : String) : Bool := t.verbs.contains name

def isEager (t : SplitTable) (name : String) : Bool := name ∈ t.eager

/-- Whatever is eager is a verb. -/
def InStep (t : SplitTable) : Prop := ∀ name ∈ t.eager, (t.verb? name).isSome

theorem inStep_empty : ({} : SplitTable).InStep := by
  intro name h
  cases h

section Step

variable (t : SplitTable) (name : String) (verb : Handler)

@[simp] theorem verb?_register (k : String) :
    (t.register name verb).verb? k = if k = name then some verb else t.verb? k :=
  Entries.get?_insert name k verb t.verbs

@[simp] theorem verb?_registerEager (k : String) :
    (t.registerEager name verb).verb? k = if k = name then some verb else t.verb? k :=
  Entries.get?_insert name k verb t.verbs

@[simp] theorem isEager_register (k : String) :
    (t.register name verb).isEager k = if k = name then false else t.isEager k := by
  by_cases hk : k = name <;> simp [isEager, register, hk]

@[simp] theorem isEager_registerEager (k : String) :
    (t.registerEager name verb).isEager k = if k = name then true else t.isEager k := by
  by_cases hk : k = name <;> simp [isEager, registerEager, hk]

variable {t}

/-- A verb that replaces an eager one takes its name out of the set. -/
theorem InStep.register (h : t.InStep) : (t.register name verb).InStep := by
  intro k hk
  rw [verb?_register]
  split
  · rfl
  · exact h k (Finset.mem_of_mem_erase hk)

theorem InStep.registerEager (h : t.InStep) : (t.registerEager name verb).InStep := by
  intro k hk
  rw [verb?_registerEager]
  split
  · rfl
  · rename_i hne
    exact h k (Finset.mem_of_mem_insert_of_ne hk hne)

end Step

/-- The entry that the two parts make up. -/
def lookup? (t : SplitTable) (name : String) : Option TableEntry :=
  (t.verb? name).map fun verb => ⟨verb, t.isEager name⟩

theorem lookup?_register (t : SplitTable) (name k : String) (verb : Handler) :
    (t.register name verb).lookup? k = if k = name then some ⟨verb, false⟩ else t.lookup? k := by
  by_cases hk : k = name <;> simp [lookup?, hk]

theorem lookup?_registerEager (t : SplitTable) (name k : String) (verb : Handler) :
    (t.registerEager name verb).lookup? k =
      if k = name then some ⟨verb, true⟩ else t.lookup? k := by
  by_cases hk : k = name <;> simp [lookup?, hk]

theorem verb?_eq (t : SplitTable) (name : String) :
    t.verb? name = (t.lookup? name).map TableEntry.run := by
  simp [lookup?, Function.comp_def]

/-- Without the two in step the set could hold a name that no entry has. -/
theorem InStep.isEager_eq {t : SplitTable} (h : t.InStep) (name : String) :
    t.isEager name = (t.lookup? name).any TableEntry.eager := by
  cases hv : t.verb? name with
  | some verb => simp [lookup?, hv]
  | none =>
    have hnot : name ∉ t.eager := fun hmem => by simpa [hv] using h name hmem
    simp [lookup?, hv, isEager, hnot]

end SplitTable

/-- A registry with such tables. A type has one from its first registration on. -/
structure SplitRegistry where
  shared : SplitTable := {}
  typed : TypeTag → Option SplitTable := fun _ => none

namespace SplitRegistry

open Registration

def empty : SplitRegistry := {}

/-- The table of a type, empty if the type has none yet. -/
def table (s : SplitRegistry) (type : TypeTag) : SplitTable := (s.typed type).getD {}

def onType (s : SplitRegistry) (type : TypeTag) (change : SplitTable → SplitTable) :
    SplitRegistry :=
  { s with typed := fun t => if t = type then some (change (s.table type)) else s.typed t }

def register (s : SplitRegistry) : Registration → SplitRegistry
  | .shared name verb => { s with shared := s.shared.register name verb }
  | .typed type name verb => s.onType type fun t => t.register name verb
  | .eager type name verb => s.onType type fun t => t.registerEager name verb

def registerAll (s : SplitRegistry) (regs : List Registration) : SplitRegistry :=
  regs.foldl register s

/-- All verbs of the library. -/
def standard : SplitRegistry := empty.registerAll Registry.standardRegistrations

def shared? (s : SplitRegistry) (name : String) : Option Handler := s.shared.verb? name

def typed? (s : SplitRegistry) (type : TypeTag) (name : String) : Option Handler :=
  (s.typed type).bind (·.verb? name)

def isEager (s : SplitRegistry) (type : TypeTag) (name : String) : Bool :=
  (s.typed type).any (·.isEager name)

def knows (s : SplitRegistry) (type : TypeTag) (name : String) : Bool :=
  s.shared.contains name || (s.typed? type name).isSome

def answers (s : SplitRegistry) : VerbAnswers := ⟨s.shared?, s.typed?, s.isEager, s.knows⟩

theorem typed?_eq (s : SplitRegistry) (type : TypeTag) (name : String) :
    s.typed? type name = (s.table type).verb? name := by
  cases h : s.typed type with
  | none => simp [typed?, table, h]; rfl
  | some t => simp [typed?, table, h]

theorem isEager_eq (s : SplitRegistry) (type : TypeTag) (name : String) :
    s.isEager type name = (s.table type).isEager name := by
  cases h : s.typed type with
  | none => simp [isEager, table, h]; rfl
  | some t => simp [isEager, table, h]

theorem table_onType (s : SplitRegistry) (type t : TypeTag) (change : SplitTable → SplitTable) :
    (s.onType type change).table t = if t = type then change (s.table type) else s.table t := by
  by_cases ht : t = type <;> simp [table, onType, ht]

/-- Every table has its two parts in step. -/
structure InStep (s : SplitRegistry) : Prop where
  shared : s.shared.InStep
  typed (type : TypeTag) : (s.table type).InStep

theorem inStep_empty : empty.InStep := ⟨SplitTable.inStep_empty, fun _ => SplitTable.inStep_empty⟩

theorem InStep.onType {s : SplitRegistry} (h : s.InStep) (type : TypeTag)
    {change : SplitTable → SplitTable} (hchange : ∀ t : SplitTable, t.InStep → (change t).InStep) :
    (s.onType type change).InStep := by
  refine ⟨h.shared, fun t => ?_⟩
  rw [table_onType]
  split
  · exact hchange _ (h.typed type)
  · exact h.typed t

theorem InStep.register {s : SplitRegistry} (h : s.InStep) (reg : Registration) :
    (s.register reg).InStep := by
  cases reg with
  | shared name verb => exact ⟨h.shared.register name verb, h.typed⟩
  | typed type name verb => exact h.onType type fun _ ht => ht.register name verb
  | eager type name verb => exact h.onType type fun _ ht => ht.registerEager name verb

theorem InStep.registerAll {s : SplitRegistry} (h : s.InStep) (regs : List Registration) :
    (s.registerAll regs).InStep := by
  induction regs generalizing s with
  | nil => exact h
  | cons reg regs ih => exact ih (h.register reg)

/-- The registry holds in two parts what `r` holds in one. -/
structure Refines (s : SplitRegistry) (r : Registry) : Prop where
  shared (name : String) : s.shared? name = r.shared? name
  typed (type : TypeTag) (name : String) : (s.table type).lookup? name = r.lookup? type name

theorem refines_empty : empty.Refines .empty := ⟨fun _ => rfl, fun _ _ => rfl⟩

theorem shared?_register (s : SplitRegistry) (reg : Registration) (name : String) :
    (s.register reg).shared? name = (reg.sharedVerb? name).or (s.shared? name) := by
  cases reg with
  | shared n verb =>
    by_cases hn : n = name
    · simp [register, shared?, sharedVerb?, hn]
    · simp [register, shared?, sharedVerb?, hn, Ne.symm hn]
  | typed t n verb => rfl
  | eager t n verb => rfl

theorem lookup?_onType (s : SplitRegistry) {t : TypeTag} {change : SplitTable → SplitTable}
    {n : String} {e : TableEntry}
    (hchange : ∀ (u : SplitTable) k, (change u).lookup? k = if k = n then some e else u.lookup? k)
    (type : TypeTag) (name : String) :
    ((s.onType t change).table type).lookup? name =
      (if t = type ∧ n = name then some e else none).or ((s.table type).lookup? name) := by
  rw [table_onType]
  by_cases ht : t = type
  · subst ht
    by_cases hn : n = name
    · simp [hchange, hn]
    · simp [hchange, hn, Ne.symm hn]
  · simp [ht, Ne.symm ht]

theorem lookup?_register (s : SplitRegistry) (reg : Registration) (type : TypeTag) (name : String) :
    ((s.register reg).table type).lookup? name =
      (reg.typedVerb? type name).or ((s.table type).lookup? name) := by
  cases reg with
  | shared n verb => rfl
  | typed t n verb =>
    exact s.lookup?_onType (fun u k => u.lookup?_register n k verb) type name
  | eager t n verb =>
    exact s.lookup?_onType (fun u k => u.lookup?_registerEager n k verb) type name

theorem Refines.register {s : SplitRegistry} {r : Registry} (h : s.Refines r)
    (reg : Registration) : (s.register reg).Refines (r.register reg) where
  shared name := by rw [shared?_register, Registry.shared?_register, h.shared]
  typed type name := by rw [lookup?_register, Registry.lookup?_register, h.typed]

theorem Refines.registerAll {s : SplitRegistry} {r : Registry} (h : s.Refines r)
    (regs : List Registration) : (s.registerAll regs).Refines (r.registerAll regs) := by
  induction regs generalizing s r with
  | nil => exact h
  | cons reg regs ih => exact ih (h.register reg)

/-- With its parts in step, a registry answers as the one that it refines. -/
theorem Refines.answers_eq {s : SplitRegistry} {r : Registry} (h : s.Refines r) (hs : s.InStep) :
    s.answers = r.answers := by
  have hshared : s.shared? = r.shared? := funext h.shared
  have htyped : s.typed? = r.typed? := by
    funext type name
    rw [typed?_eq, SplitTable.verb?_eq, h.typed, Registry.typed?_eq]
  have heager : s.isEager = r.isEager := by
    funext type name
    rw [isEager_eq, (hs.typed type).isEager_eq, h.typed, Registry.isEager_eq]
  have hknows : s.knows = r.knows := by
    funext type name
    have hcontains : s.shared.contains name = (s.shared? name).isSome := rfl
    rw [knows, Registry.knows, hcontains, hshared, htyped]
  rw [answers, Registry.answers, hshared, htyped, heager, hknows]

/-- The registrations decide all that the registry answers, and it answers as `r` does. -/
structure SettledBy (s : SplitRegistry) (regs : List Registration) (r : Registry) : Prop where
  /-- No name is eager without being that of a verb. -/
  inStep : s.InStep
  decided : s.answers.DecidedBy regs
  same : s.answers = r.answers

theorem settledBy_registerAll (regs : List Registration) :
    (empty.registerAll regs).SettledBy regs (Registry.empty.registerAll regs) := by
  have hstep : (empty.registerAll regs).InStep := inStep_empty.registerAll regs
  have hsame := (refines_empty.registerAll regs).answers_eq hstep
  exact ⟨hstep, hsame ▸ Registry.answers_decidedBy regs, hsame⟩

theorem settledBy_standard (regs : List Registration) :
    (standard.registerAll regs).SettledBy (Registry.standardRegistrations ++ regs)
      (Registry.standard.registerAll regs) := by
  have hrun : standard.registerAll regs =
      empty.registerAll (Registry.standardRegistrations ++ regs) := List.foldl_append.symm
  rw [hrun, Registry.standard_eq, ← Registry.registerAll_append]
  exact settledBy_registerAll (Registry.standardRegistrations ++ regs)

theorem shared?_register_of_type? {s : SplitRegistry} {reg : Registration} (h : reg.type? ≠ none)
    (name : String) : (s.register reg).shared? name = s.shared? name := by
  cases reg with
  | shared n verb => exact absurd rfl h
  | typed t n verb => rfl
  | eager t n verb => rfl

theorem typed_register_of_type? {s : SplitRegistry} {reg : Registration} {type : TypeTag}
    (h : reg.type? ≠ some type) : (s.register reg).typed type = s.typed type := by
  cases reg with
  | shared n verb => rfl
  | typed t n verb => exact if_neg fun ht => h (congrArg some ht.symm)
  | eager t n verb => exact if_neg fun ht => h (congrArg some ht.symm)

end SplitRegistry

/-- From the empty registry or the standard one, any sequence of registrations leaves a name the
verb of the last one for it, and the verb is eager if that one was. The set of the eager names stays
among the names of the verbs, so that one table of both answers the same. A registration leaves what
the tables of other types say as it is. -/
theorem Registry.last_registration_decides (regs : List Registration) :
    (SplitRegistry.empty.registerAll regs).SettledBy regs (empty.registerAll regs) ∧
    (SplitRegistry.standard.registerAll regs).SettledBy (standardRegistrations ++ regs)
      (standard.registerAll regs) ∧
    ∀ (s : SplitRegistry) (reg : Registration),
      (reg.type? ≠ none → ∀ name, (s.register reg).shared? name = s.shared? name) ∧
      ∀ type, reg.type? ≠ some type → ∀ name,
        (s.register reg).typed? type name = s.typed? type name ∧
          (s.register reg).isEager type name = s.isEager type name := by
  refine ⟨SplitRegistry.settledBy_registerAll regs, SplitRegistry.settledBy_standard regs,
    fun s reg => ⟨fun h => SplitRegistry.shared?_register_of_type? h, fun type h name => ?_⟩⟩
  simp only [SplitRegistry.typed?, SplitRegistry.isEager,
    SplitRegistry.typed_register_of_type? h, and_self]

/-- An eager verb that is replaced is eager no more. -/
example (s : SplitRegistry) (type : TypeTag) (name : String) (verb : Handler) :
    ((s.register (.eager type name verb)).register (.typed type name verb)).isEager type name =
      false := by
  simp [SplitRegistry.isEager_eq, SplitRegistry.register, SplitRegistry.table_onType]

end FieldRules
