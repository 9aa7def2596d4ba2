import Signpost.RuleBase

/-!
# Health

The health of a service is that of its store, which is asked for the number of its rules.
-/
namespace Signpost

/-- What a check has found. -/
structure Check where
  name : String
  healthy : Bool
  message : String
  deriving DecidableEq, Repr, Inhabited

/-- The word for what a check has found. -/
def Check.status (check : Check) : String :=
  if check.healthy then "healthy" else "unhealthy"

/-- The check of the store. A failure that is not the store's own comes through. -/
def RuleBase.check (base : RuleBase) : Except Store.Failure Check :=
  match base.count with
  | .ok _ => .ok ⟨"store", true, "Store reachable"⟩
  | .error failure =>
    if failure.isOwn then .ok ⟨"store", false, "Store error: " ++ failure.message⟩
    else .error failure

end Signpost
