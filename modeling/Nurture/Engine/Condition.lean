import Nurture.Funnel.Node
import Nurture.Lead

/-!
  Conditions

  A condition tests whether a lead has a tag, or has not. On any other target
  than the tags it does not hold.
-/

namespace Nurture

/-- Whether the condition holds of the lead. -/
def ConditionData.holds (d : ConditionData) (lead : Lead) : Bool :=
  d.target == "tags" &&
    match d.operator with
    | .contains => lead.tags.contains d.value
    | .notContains => !lead.tags.contains d.value

end Nurture
