import Signpost.Pattern.Reader
import Signpost.Pattern.Template
import Signpost.Rule

/-!
# Pattern rules

Where no candidate answers, the pattern rules are tried in the order of the store. A rule answers if
its pattern is found in the path and it is active; the part of the path that was found is replaced
by its target. Rules whose pattern or target is malformed are passed over.
-/
namespace Signpost.Resolve

open Pattern (Fault)

/-- The path with the match replaced by the target, if the target is a template that can be put
in. -/
def substitute (expression : Expression) (target : String) (found : Match) :
    Except Fault String :=
  (Pattern.expand expression (Pattern.convert target.toList) found).map fun replacement =>
    String.ofList (found.replace replacement)

variable [Platform]

/-- The rule with the target that it gives to the path; nothing if it does not answer. -/
def applyPattern (rule : Rule) (path : String) (now : Int) : Except Fault (Option Rule) := do
  let expression ← Expression.ofText rule.path
  match expression.pattern.search path.toList with
  | none => return none
  | some found =>
    if rule.activeAt now then
      let target ← substitute expression rule.target found
      return some { rule with target }
    else return none

/-- The first of the rules that answers, with the target that it gives to the path. -/
def matchPattern (path : String) (now : Int) : List Rule → Except Fault (Option Rule)
  | [] => .ok none
  | rule :: rest =>
    match applyPattern rule path now with
    | .ok (some found) => .ok (some found)
    | .ok none | .error .malformed => matchPattern path now rest
    | .error fault => .error fault

end Signpost.Resolve
