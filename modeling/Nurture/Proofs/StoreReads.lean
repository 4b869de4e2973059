import Nurture.Engine.Trigger
import Nurture.Proofs.Frame

/-!
  Calls of the store that read

  Whatever they come to, they change no table, attempt no message and give out no identifier.
-/

namespace Nurture

open Nurture.Action Nurture.Action.Takes

variable {σ : Type} {s : Surroundings σ}

namespace Store

theorem listExecutions_still (status funnelId leadId : Option String) :
    Takes World.Still s (listExecutions status funnelId leadId) := by
  refine guarded' (bind' (ofExcept' _) fun _ => bind' (ofExcept' _) fun _ => ?_)
  exact bind' (ofExcept' _) fun _ => bind' database' fun _ => ofExcept' _

theorem executionRow?_still (id : String) : Takes World.Still s (executionRow? id) :=
  bind' (ofExcept' _) fun _ => bind' database' fun _ => pure' _

theorem getExecution_still (id : String) : Takes World.Still s (getExecution id) := by
  refine guarded' (bind' (executionRow?_still id) fun row => ?_)
  cases row with
  | none => exact pure' none
  | some row => exact map' (ofExcept' _)

theorem listFunnels_still : Takes World.Still s listFunnels :=
  guarded' (bind' database' fun _ => ofExcept' _)

theorem funnelRow?_still (id : String) : Takes World.Still s (funnelRow? id) :=
  bind' (ofExcept' _) fun _ => bind' database' fun _ => pure' _

theorem getFunnel_still (id : String) : Takes World.Still s (getFunnel id) := by
  refine guarded' (bind' (funnelRow?_still id) fun row => ?_)
  cases row with
  | none => exact pure' none
  | some row => exact map' (ofExcept' _)

theorem listTemplates_still : Takes World.Still s listTemplates :=
  guarded' (bind' database' fun _ => pure' _)

theorem templateRow?_still (id : String) : Takes World.Still s (templateRow? id) :=
  bind' (ofExcept' _) fun _ => bind' database' fun _ => pure' _

theorem listLeads_still (status : Option String) : Takes World.Still s (listLeads status) :=
  guarded' (bind' (ofExcept' _) fun _ => bind' database' fun _ => ofExcept' _)

theorem leadRow?_still (id : String) : Takes World.Still s (leadRow? id) :=
  bind' (ofExcept' _) fun _ => bind' database' fun _ => pure' _

theorem leadRowByEmail?_still (email : String) : Takes World.Still s (leadRowByEmail? email) :=
  bind' (ofExcept' _) fun _ => bind' database' fun _ => pure' _

theorem getLead_still (id : String) : Takes World.Still s (getLead id) := by
  refine guarded' (bind' (leadRow?_still id) fun row => ?_)
  cases row with
  | none => exact pure' none
  | some row => exact map' (ofExcept' _)

end Store

theorem runningFunnels_still (lead : Reply String) : Takes World.Still s (runningFunnels lead) := by
  refine bind' policy' fun policy => ?_
  split
  · refine bind' (ofExcept' _) fun id => bind' (Store.listExecutions_still _ _ _) fun reply => ?_
    exact bind' (ofExcept' _) fun _ => pure' _
  · exact pure' []

end Nurture
