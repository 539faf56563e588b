import FieldRules.Proofs.Declaration
import FieldRules.Proofs.NestedList
import FieldRules.Proofs.Run
import FieldRules.Proofs.WrittenRule

namespace FieldRules

/-- A field can be named so, with or without its type in parentheses behind it. -/
structure FieldName (name : String) : Prop where
  ne_empty : name ≠ ""
  no_space : ' ' ∉ name.toList
  no_paren : '(' ∉ name.toList
  slash : name.toList.getLast? ≠ some '\\'

instance (name : String) : Decidable (FieldName name) :=
  decidable_of_iff
    (name ≠ "" ∧ ' ' ∉ name.toList ∧ '(' ∉ name.toList ∧ name.toList.getLast? ≠ some '\\')
    ⟨fun ⟨ne_empty, no_space, no_paren, slash⟩ => ⟨ne_empty, no_space, no_paren, slash⟩,
      fun h => ⟨h.ne_empty, h.no_space, h.no_paren, h.slash⟩⟩

namespace TypeTag

theorem name_writable (type : TypeTag) : Call.Writable ⟨type.name, [], false⟩ := by
  cases type <;> decide

theorem name_argument (type : TypeTag) : Argument.Writable type.name := by cases type <;> decide

theorem name_ne_empty (type : TypeTag) : type.name ≠ "" := by cases type <;> decide

theorem escape_name (type : TypeTag) : Argument.escape type.name.toList = type.name.toList := by
  cases type <;> decide

end TypeTag

variable {name : String}

theorem FieldName.writable (h : FieldName name) : Call.Writable ⟨name, [], false⟩ :=
  ⟨h.no_space, Scanner.isChain_of_notMem h.no_paren ' ', fun _ => ⟨h.ne_empty, rfl⟩,
    fun hlist => absurd hlist Bool.false_ne_true⟩

theorem FieldName.writable_typed (h : FieldName name) (type : TypeTag) :
    Call.Writable ⟨name, [type.name], true⟩ := by
  refine ⟨h.no_space, Scanner.isChain_of_notMem h.no_paren ' ',
    fun hbare => absurd hbare.symm Bool.false_ne_true,
    fun _ => ⟨h.slash, by simpa using type.name_ne_empty, fun arg harg => ?_⟩⟩
  rw [List.mem_singleton.mp harg]
  exact type.name_argument

theorem write_typed (name : String) (type : TypeTag) :
    Call.write ⟨name, [type.name], true⟩ = name ++ "(" ++ type.name ++ ")" := by
  rw [← String.toList_inj]
  simp [Call.write, writeArgs, TypeTag.escape_name]

theorem scan_typed_in_parens (h : FieldName name) (type : TypeTag) (s : String) :
    scan (name ++ "(" ++ type.name ++ ") " ++ s) = ⟨name, [type.name], true⟩ :: scan s := by
  have hwritable := h.writable_typed type
  have htext : name ++ "(" ++ type.name ++ ") " ++ s =
      Call.write ⟨name, [type.name], true⟩ ++ " " ++ s := by
    rw [write_typed, ← String.toList_inj]
    simp
  rw [htext, scan_append_space (openLists_write hwritable), scan_write hwritable]
  rfl

theorem scan_typed_by_word (h : FieldName name) (type : TypeTag) (s : String) :
    scan (name ++ " " ++ type.name ++ " " ++ s) =
      ⟨name, [], false⟩ :: ⟨type.name, [], false⟩ :: scan s := by
  have hname : scan name = [⟨name, [], false⟩] ∧ openLists name = 0 :=
    ⟨scan_write h.writable, openLists_write h.writable⟩
  have htype : scan type.name = [⟨type.name, [], false⟩] ∧ openLists type.name = 0 :=
    ⟨scan_write type.name_writable, openLists_write type.name_writable⟩
  have htext : name ++ " " ++ type.name ++ " " ++ s = name ++ " " ++ (type.name ++ " " ++ s) := by
    simp only [String.append_assoc]
  rw [htext, scan_append_space hname.2, scan_append_space htype.2, hname.1, htype.1]
  rfl

theorem declaredType_in_parens (name : String) (type : TypeTag) (calls : List Call) :
    declaredType ⟨name, [type.name], true⟩ calls = (some type.name, calls) := rfl

theorem declaredType_by_word (name : String) (type : TypeTag) (calls : List Call) :
    declaredType ⟨name, [], false⟩ (⟨type.name, [], false⟩ :: calls) = (some type.name, calls) := by
  have htag : (TypeTag.ofName? type.name).isSome = true := by simp [TypeTag.ofName?_name]
  simp [declaredType, htag]

namespace Registry

/-- A field declared either way starts with its value coerced to the type, and with the calls of the
text behind. -/
theorem start?_typed (now : Instant) (d : Document) (h : FieldName name) (type : TypeTag)
    (s : String) :
    start? now d (name ++ "(" ++ type.name ++ ") " ++ s) =
        some ((Field.ofDocument name d).declare now type.name, scan s) ∧
      start? now d (name ++ " " ++ type.name ++ " " ++ s) =
        some ((Field.ofDocument name d).declare now type.name, scan s) := by
  constructor
  · rw [start?_of_scan now d (scan_typed_in_parens h type s), declaredType_in_parens]
  · rw [start?_of_scan now d (scan_typed_by_word h type s), declaredType_by_word]

/-- Whether a type stands in parentheses or is a word of its own, the rule has the same outcome,
whatever text follows. -/
theorem type_forms_agree (r : Registry) (now : Instant) (d : Document) (h : FieldName name)
    (type : TypeTag) (s : String) :
    ∃ o, r.outcome now d (name ++ "(" ++ type.name ++ ") " ++ s) = some o ∧
      r.outcome now d (name ++ " " ++ type.name ++ " " ++ s) = some o := by
  obtain ⟨hparens, hword⟩ := start?_typed now d h type s
  exact ⟨_, outcome_of_start? r hparens, outcome_of_start? r hword⟩

/-- The text behind starts with the name of another type and ends in a list that is never closed. -/
theorem type_forms_agree_before_tag :
    FieldName "a)\\b" ∧
    standard.outcome ⟨0, 0⟩ [("a)\\b", .text "")] ("a)\\b" ++ "(" ++ TypeTag.name .bool ++ ") " ++
      "string required in(x") = some (.error (Failure.ofField "type.bool" "a)\\b")) ∧
    standard.outcome ⟨0, 0⟩ [("a)\\b", .text "")] ("a)\\b" ++ " " ++ TypeTag.name .bool ++ " " ++
      "string required in(x") = some (.error (Failure.ofField "type.bool" "a)\\b")) := by
  have hname : FieldName "a)\\b" := by decide
  obtain ⟨o, hparens, hword⟩ := type_forms_agree standard ⟨0, 0⟩ [("a)\\b", .text "")] hname .bool
    "string required in(x"
  have hfails : standard.outcome ⟨0, 0⟩ [("a)\\b", .text "")] ("a)\\b" ++ "(" ++
      TypeTag.name .bool ++ ") " ++ "string required in(x") =
        some (.error (Failure.ofField "type.bool" "a)\\b")) := rfl
  exact ⟨hname, hfails, hword.trans (hparens.symm.trans hfails)⟩

end Registry
end FieldRules
