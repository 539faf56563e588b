import FieldRules.Text.Numeral
import FieldRules.Text.Rest

namespace FieldRules.Template

/-- Reads a placeholder behind its opening brace: the argument it names and the text after it. -/
def placeholder? (args : List (List Char)) (cs : List Char) : Option (List Char × Rest cs) :=
  let ⟨rest, h⟩ := Tail.dropWhile (· ≠ '\x7d') cs
  match rest, h with
  | [], _ => none
  | c :: rest, h => do
    let index ← Text.count? (cs.takeWhile (· ≠ '\x7d'))
    return (← args[index]?, (Rest.next c rest).within h)

/-- Puts the arguments in place. Brace text that names no argument stays as it is. -/
def interpolate (args : List (List Char)) : List Char → List Char
  | [] => []
  | c :: cs =>
    if c = '\x7b' then
      match placeholder? args cs with
      | some (arg, ⟨rest, _⟩) => arg ++ interpolate args rest
      | none => c :: interpolate args cs
    else c :: interpolate args cs
termination_by cs => cs.length
decreasing_by all_goals simp only [List.length_cons]; omega

end FieldRules.Template

namespace FieldRules

def interpolate (template : String) (args : List String) : String :=
  String.ofList (Template.interpolate (args.map String.toList) template.toList)

end FieldRules
