import FieldRules.Proofs.Entries
import FieldRules.Verb.Table

namespace FieldRules

/-- A change of a registry: a verb for every type, or one for a type of its own. -/
inductive Registration where
  | shared (name : String) (verb : Handler)
  | typed (type : TypeTag) (name : String) (verb : Handler)
  | eager (type : TypeTag) (name : String) (verb : Handler)

namespace Registration

/-- The type that the verb is for; `none` when it is for every type. -/
def type? : Registration → Option TypeTag
  | shared _ _ => none
  | typed type _ _ => some type
  | eager type _ _ => some type

/-- The verb of every type that `name` gets. -/
def sharedVerb? (name : String) : Registration → Option Handler
  | shared n verb => if n = name then some verb else none
  | typed _ _ _ => none
  | eager _ _ _ => none

/-- The entry that `name` gets in the table of `type`. -/
def typedVerb? (type : TypeTag) (name : String) : Registration → Option TableEntry
  | shared _ _ => none
  | typed t n verb => if t = type ∧ n = name then some ⟨verb, false⟩ else none
  | eager t n verb => if t = type ∧ n = name then some ⟨verb, true⟩ else none

/-- The verb of every type from the last registration that gives `name` one. -/
def lastShared? (name : String) (regs : List Registration) : Option Handler :=
  (regs.filterMap (sharedVerb? name)).getLast?

/-- The entry in the table of `type` from the last registration that gives `name` one. -/
def lastTyped? (type : TypeTag) (name : String) (regs : List Registration) : Option TableEntry :=
  (regs.filterMap (typedVerb? type name)).getLast?

end Registration

namespace Registry

open Registration

def register (r : Registry) : Registration → Registry
  | .shared name verb => r.registerShared name verb
  | .typed type name verb => r.registerTyped type name verb
  | .eager type name verb => r.registerEager type name verb

/-- Makes the registrations in turn. -/
def registerAll (r : Registry) (regs : List Registration) : Registry := regs.foldl register r

theorem registerAll_append (r : Registry) (xs ys : List Registration) :
    r.registerAll (xs ++ ys) = (r.registerAll xs).registerAll ys := List.foldl_append

/-- The entry of a name in the table of a type. -/
def lookup? (r : Registry) (type : TypeTag) (name : String) : Option TableEntry :=
  (r.typed type).get? name

theorem typed?_eq (r : Registry) (type : TypeTag) (name : String) :
    r.typed? type name = (r.lookup? type name).map TableEntry.run := rfl

theorem isEager_eq (r : Registry) (type : TypeTag) (name : String) :
    r.isEager type name = (r.lookup? type name).any TableEntry.eager := rfl

theorem shared?_register (r : Registry) (reg : Registration) (name : String) :
    (r.register reg).shared? name = (reg.sharedVerb? name).or (r.shared? name) := by
  cases reg with
  | shared n verb =>
    rw [register, registerShared, shared?, VerbTable.verb?, VerbTable.register,
      Entries.get?_insert]
    by_cases hn : n = name
    · simp [sharedVerb?, hn]
    · simp [sharedVerb?, hn, Ne.symm hn, shared?, VerbTable.verb?]
  | typed t n verb => rfl
  | eager t n verb => rfl

theorem lookup?_register (r : Registry) (reg : Registration) (type : TypeTag) (name : String) :
    (r.register reg).lookup? type name = (reg.typedVerb? type name).or (r.lookup? type name) := by
  have hinsert (t : TypeTag) (n : String) (e : TableEntry) :
      (r.onType t fun table => table.insert n e).lookup? type name =
        (if t = type ∧ n = name then some e else none).or (r.lookup? type name) := by
    by_cases ht : t = type
    · subst ht
      simp only [lookup?, onType, if_true, Entries.get?_insert, true_and]
      by_cases hn : n = name
      · simp [hn]
      · simp [hn, Ne.symm hn]
    · simp [lookup?, onType, ht, Ne.symm ht]
  cases reg with
  | shared n verb => rfl
  | typed t n verb => exact hinsert t n ⟨verb, false⟩
  | eager t n verb => exact hinsert t n ⟨verb, true⟩

/-- What each registration replaces or leaves, the last one that replaces it decides. -/
theorem registerAll_last {α : Type} (see : Registry → Option α) (new? : Registration → Option α)
    (hstep : ∀ r reg, see (r.register reg) = (new? reg).or (see r)) (r : Registry)
    (regs : List Registration) :
    see (r.registerAll regs) = (regs.filterMap new?).getLast?.or (see r) := by
  induction regs generalizing r with
  | nil => rfl
  | cons reg regs ih =>
    have hrun : see (r.registerAll (reg :: regs)) =
        (regs.filterMap new?).getLast?.or ((new? reg).or (see r)) := by
      rw [← hstep]
      exact ih (r.register reg)
    rw [hrun]
    cases hnew : new? reg with
    | none => simp [hnew]
    | some a =>
      rw [List.filterMap_cons_some hnew, List.getLast?_cons]
      cases (regs.filterMap new?).getLast? <;> rfl

/-- The registrations that make the standard registry out of the empty one. -/
def standardRegistrations : List Registration :=
  SharedVerb.all.map (fun v => .shared v.name v.run) ++
  TextVerb.all.map (fun v =>
    if v.readsDocument then .eager .string v.name v.run else .typed .string v.name v.run) ++
  NumberVerb.all.map (fun v => .typed .number v.name v.run) ++
  DateVerb.all.map (fun v => .typed .date v.name v.run)

theorem registerAll_map_shared {ι : Type} (name : ι → String) (run : ι → Handler) (vs : List ι)
    (r : Registry) :
    r.registerAll (vs.map fun v => .shared (name v) (run v)) =
      { r with shared := vs.foldl (fun t v => t.register (name v) (run v)) r.shared } := by
  induction vs generalizing r with
  | nil => rfl
  | cons v vs ih => exact ih (r.registerShared (name v) (run v))

theorem onType_onType (r : Registry) (type : TypeTag) (f g : VerbTable → VerbTable) :
    (r.onType type f).onType type g = r.onType type fun t => g (f t) := by
  have htyped :
      ((r.onType type f).onType type g).typed = (r.onType type fun t => g (f t)).typed := by
    funext t
    by_cases ht : t = type <;> simp [onType, ht]
  exact congrArg (Registry.mk r.shared) htyped

theorem onType_id (r : Registry) (type : TypeTag) : (r.onType type fun t => t) = r := by
  have htyped : (r.onType type fun t => t).typed = r.typed := by
    funext t
    simp [onType]
  exact congrArg (Registry.mk r.shared) htyped

/-- Registrations for one type change the table of the type, one after another. -/
theorem registerAll_map_onType {ι : Type} {type : TypeTag} {reg : ι → Registration}
    {change : ι → VerbTable → VerbTable}
    (hreg : ∀ (r : Registry) v, r.register (reg v) = r.onType type (change v)) (vs : List ι)
    (r : Registry) :
    r.registerAll (vs.map reg) = r.onType type fun t => vs.foldl (fun t v => change v t) t := by
  induction vs generalizing r with
  | nil => exact (onType_id r type).symm
  | cons v vs ih =>
    have hrun : r.registerAll ((v :: vs).map reg) =
        (r.onType type (change v)).onType type fun t => vs.foldl (fun t v => change v t) t := by
      rw [← hreg]
      exact ih (r.register (reg v))
    rw [hrun, onType_onType]
    rfl

theorem standard_eq : standard = empty.registerAll standardRegistrations := by
  have htext (r : Registry) (v : TextVerb) :
      r.register (if v.readsDocument then .eager .string v.name v.run
        else .typed .string v.name v.run) =
      r.onType .string fun t =>
        if v.readsDocument then t.registerEager v.name v.run else t.register v.name v.run := by
    cases v.readsDocument <;> rfl
  have hnumber (r : Registry) (v : NumberVerb) : r.register (.typed .number v.name v.run) =
      r.onType .number fun t => t.register v.name v.run := rfl
  have hdate (r : Registry) (v : DateVerb) : r.register (.typed .date v.name v.run) =
      r.onType .date fun t => t.register v.name v.run := rfl
  rw [standardRegistrations, registerAll_append, registerAll_append, registerAll_append,
    registerAll_map_shared, registerAll_map_onType htext, registerAll_map_onType hnumber,
    registerAll_map_onType hdate]
  apply congrArg (Registry.mk _)
  funext t
  cases t <;> rfl

end Registry

/-- What a registry answers about names. -/
structure VerbAnswers where
  shared? : String → Option Handler
  typed? : TypeTag → String → Option Handler
  isEager : TypeTag → String → Bool
  knows : TypeTag → String → Bool

open Registration in
/-- Every answer is the one of the last registration that bears on it. -/
structure VerbAnswers.DecidedBy (a : VerbAnswers) (regs : List Registration) : Prop where
  shared (name : String) : a.shared? name = lastShared? name regs
  typed (type : TypeTag) (name : String) :
    a.typed? type name = (lastTyped? type name regs).map TableEntry.run
  eager (type : TypeTag) (name : String) :
    a.isEager type name ↔ ∃ e, lastTyped? type name regs = some e ∧ e.eager
  knows (type : TypeTag) (name : String) :
    a.knows type name ↔ (a.shared? name).isSome ∨ (a.typed? type name).isSome

namespace Registry

open Registration

def answers (r : Registry) : VerbAnswers := ⟨r.shared?, r.typed?, r.isEager, r.knows⟩

theorem answers_decidedBy (regs : List Registration) :
    (empty.registerAll regs).answers.DecidedBy regs := by
  have hshared (name : String) :
      (empty.registerAll regs).shared? name = lastShared? name regs := by
    have hlast := registerAll_last (·.shared? name) (sharedVerb? name)
      (fun r reg => shared?_register r reg name) empty regs
    exact hlast.trans Option.or_none
  have hlookup (type : TypeTag) (name : String) :
      (empty.registerAll regs).lookup? type name = lastTyped? type name regs := by
    have hlast := registerAll_last (·.lookup? type name) (typedVerb? type name)
      (fun r reg => lookup?_register r reg type name) empty regs
    exact hlast.trans Option.or_none
  refine ⟨hshared, fun type name => ?_, fun type name => ?_, fun type name => ?_⟩
  · simp only [answers, typed?_eq, hlookup]
  · simp only [answers, isEager_eq, hlookup, Option.any_eq_true]
  · simp only [answers, knows, Bool.or_eq_true]

end Registry
end FieldRules
