import Nurture.Proofs.Traversal

/-!
  What the engine writes

  Triggers add rows of executions, passes hand messages over and patch such rows, and neither does
  anything else. So a relation of worlds that covers these three deeds (`CoversDeeds`) covers every
  trigger and every pass, whatever comes in their way. One of them is that all other tables, and
  the numbers of their identifiers, are what they were (`World.Aside`).
-/

namespace Nurture

open Nurture.Action Nurture.Action.Takes

variable {σ : Type} {s : Surroundings σ} {E : World σ → World σ → Prop}

/-- The relation covers what the engine does to the world. -/
structure CoversDeeds (E : World σ → World σ → Prop) (s : Surroundings σ) : Prop where
  deliver : ∀ m, Takes E s (Action.deliver m)
  create : ∀ draft, Takes E s (Store.createExecution draft)
  patch : ∀ id p, Takes E s (Store.updateExecution id p)

namespace CoversDeeds

variable [Tolerant E] [IsTrans (World σ) E] (h : CoversDeeds E s)
include h

/-! ## Steps and walks -/

section
variable (ctx : StepContext)

theorem perform (n : Node) : Takes E s (Step.perform ctx n) :=
  Step.Closed.takes.perform ctx h.deliver n

theorem walk (f : Funnel) (k visited : Nat) (start : Option String) (history : List Json.Fields) :
    Takes E s (walk f ctx k visited start history) := by
  -- By induction on the nodes left to visit, as the walk is defined.
  induction k generalizing visited start history with
  | zero =>
    unfold Nurture.walk
    split
    · exact pure' _
    · split <;> exact pure' _
  | succ k ih =>
    unfold Nurture.walk
    split
    · exact pure' _
    · split
      · exact pure' _
      · refine bind' (h.perform ctx _) fun result => ?_
        cases result with
        | failed error retryable => exact pure' _
        | suspended node resumeAt => exact pure' _
        | advanced next sent => exact ih _ _ _

theorem completeExecution (id : String) (history : List Json.Fields) :
    Takes E s (completeExecution id history) :=
  bind' (h.patch id _) fun _ => pure' _

theorem settle (f : Funnel) (j : Journey) (history : List Json.Fields) :
    Takes E s (settle f ctx j history) := by
  cases j with
  | ended => exact bind' (h.completeExecution _ _) fun _ => bind' (note' _) fun _ => pure' _
  | unreachable id | looping n visited =>
    exact bind' (note' _) fun _ => bind' (h.completeExecution _ _) fun _ => pure' _
  | parked n node resumeAt =>
    exact bind' (h.patch _ _) fun _ => bind' (note' _) fun _ => pure' _
  | failed n error => exact bind' (note' _) fun _ => pure' _

end

/-! ## Passes and triggers -/

theorem processExecution (e : Execution) (funnel : Option Funnel) (lead : Option Lead)
    (now : Calendar.Stamp) : Takes E s (processExecution e funnel lead now) := by
  unfold Nurture.processExecution
  split
  · refine bind' policy' fun policy => bind' (h.walk _ _ _ _ _ _) fun arrived => ?_
    exact h.settle _ _ _ _
  · exact bind' (note' _) fun _ => bind' (h.completeExecution _ _) fun _ => pure' _

theorem processDue (funnels : List Funnel) (leads : List Lead) (now : Calendar.Stamp)
    (e : Execution) : Takes E s (processDue funnels leads now e) := by
  refine bind' (attempt' (h.processExecution e _ _ now)) fun result => ?_
  cases result with
  | ok departure => exact pure' _
  | error cause => exact bind' (note' _) fun _ => pure' _

/-- What covers the deeds covers every pass. -/
theorem processExecutions (now : Calendar.Stamp) : Takes E s (processExecutions now) := by
  refine bind' (Store.listExecutions_still _ _ _).ofStill fun reply => ?_
  refine bind' (ofExcept' _) fun waiting => bind' (ofExcept' _) fun due => ?_
  split
  · exact pure' _
  · refine bind' Store.listFunnels_still.ofStill fun reply => bind' (ofExcept' _) fun funnels => ?_
    refine bind' (relayed' (Store.listLeads_still none).ofStill) fun reply => ?_
    refine bind' (ofExcept' _) fun leads => ?_
    refine bind' (collect' fun e _ => h.processDue funnels leads now e) fun departures => ?_
    exact bind' (note' _) fun _ => pure' _

theorem startFunnel (trigger : String) (lead : Reply String) (context : Json.Fields)
    (running : List String) (now : Calendar.Stamp) (f : Funnel) :
    Takes E s (startFunnel trigger lead context running now f) := by
  unfold Nurture.startFunnel
  split
  · exact bind' (note' _) fun _ => pure' _
  · refine bind' (ofExcept' _) fun leadId => ?_
    split
    · exact bind' (note' _) fun _ => pure' _
    · refine bind' (ofExcept' _) fun draft => bind' (h.create draft) fun reply => ?_
      exact bind' (note' _) fun _ => pure' _

theorem triggerFunnels (trigger : String) (lead : Reply String) (context : Json.Fields) :
    Takes E s (triggerFunnels trigger lead context false) := by
  refine bind' Store.listFunnels_still.ofStill fun reply => bind' (ofExcept' _) fun all => ?_
  dsimp only
  split
  · exact bind' (note' _) fun _ => pure' _
  · refine bind' (runningFunnels_still lead).ofStill fun running => bind' clock' fun now => ?_
    refine bind' (collect' fun f _ => h.startFunnel trigger lead context running now f) ?_
    intro started
    simp only [Bool.and_false, Bool.false_eq_true, if_false]
    exact pure' _

end CoversDeeds

/-! ## What is not written -/

/-- The tables apart from that of executions are what they were, and so are the numbers of their
identifiers. -/
structure World.Aside (w w' : World σ) : Prop where
  tables : w'.database = { w.database with executions := w'.database.executions }
  numbers : w'.issued = { w.issued with executions := w'.issued.executions }

namespace World.Aside

variable {w w' : World σ}

theorem funnels_eq (h : w.Aside w') : w'.database.funnels = w.database.funnels :=
  congrArg (·.funnels) h.tables

theorem leads_eq (h : w.Aside w') : w'.database.leads = w.database.leads :=
  congrArg (·.leads) h.tables

theorem naming_eq (h : w.Aside w') : w'.issued.naming = w.issued.naming :=
  congrArg (·.naming) h.numbers

theorem issued_leads_eq (h : w.Aside w') : w'.issued.leads = w.issued.leads :=
  congrArg (·.leads) h.numbers

instance : Tolerant (World.Aside (σ := σ)) where
  of_still {w w'} hdb _ hissued := ⟨by rw [hdb], by rw [hissued]⟩

instance : IsTrans (World σ) World.Aside where
  trans _ _ _ h h' := ⟨by rw [h'.tables, h.tables], by rw [h'.numbers, h.numbers]⟩

end World.Aside

theorem keepRow_aside (e : Execution) : Takes World.Aside s (Store.keepRow e) := by
  refine bind' databaseClock' fun now => bind' (ofExcept' _) fun row => bind' database' fun db => ?_
  have hadd : Takes World.Aside s (do
      Action.modifyDatabase fun db => { db with executions := db.executions ++ [row] }
      Action.note [.executionCreated e.id e.funnelId e.leadId]
      return e : Action σ Execution) :=
    bind' (modify' fun _ => ⟨rfl, rfl⟩) fun _ => bind' (note' _) fun _ => pure' _
  dsimp only
  split
  · exact bind' (fail' _) fun _ => hadd
  · exact hadd

theorem patchRow_aside (id : String) (p : ExecutionPatch) :
    Takes World.Aside s (Store.patchRow id p) := by
  unfold Store.patchRow
  dsimp only
  split
  · exact fail' _
  · refine bind' (Store.executionRow?_still id).ofStill fun row => ?_
    cases row with
    | none => exact pure' _
    | some row =>
      refine bind' databaseClock' fun now => bind' (ofExcept' _) fun row => ?_
      exact bind' (modify' fun _ => ⟨rfl, rfl⟩) fun _ => pure' _

/-- The engine writes no other table than that of executions. -/
theorem coversDeeds_aside : CoversDeeds World.Aside s where
  deliver _ _ := ⟨rfl, rfl⟩
  create draft := by
    rw [Store.createExecution_eq]
    refine guarded' (bind' ?_ fun id => keepRow_aside _)
    unfold Store.chooseId
    cases draft.id with
    | some id => exact pure' _
    | none => exact issue' fun _ => ⟨rfl, rfl⟩
  patch id p := by
    rw [Store.updateExecution_eq]
    exact guarded' (patchRow_aside id p)

end Nurture
