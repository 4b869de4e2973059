import Mathlib.Data.List.Perm.Basic
import Nurture.Proofs.FunnelTable
import Nurture.Proofs.Operations
import Nurture.Proofs.ParallelRuns
import Nurture.Proofs.PassReport

/-!
  Only the work of funnels counts

  A funnel is shown in an editor, which keeps places, titles and other fields with its nodes and has
  them in some order. What is left without all this is the work of the funnel: which nodes it has,
  what each of them does and where it leads, and where it begins (`Funnel.SameWork`). In two
  databases whose funnels do the same work, triggers create the same executions, and passes make the
  same sends in the same order and leave the same rows (`work_decides`). A pass does not even ask
  whether a funnel is active.

  Both worlds are driven side by side. Nodes are found by identifiers that no two of them share, so
  their order makes no difference; a handler reads nothing of a node but its work; and the name of a
  funnel goes to the journal only. Saving keeps the work of a funnel, so rows in which funnels of
  the same work were saved are matched (`FunnelRow.Holds.matched`).
-/

namespace Nurture

open Nurture.Action

variable {σ : Type} {s : Surroundings σ} {R : Funnel → Funnel → Prop}

/-! ## The work of nodes -/

/-- The task without what only the editor shows: titles and undeclared fields. -/
def Task.work : Task → Task
  | email data next => email { data with customTitle := none, extra := [] } next
  | whatsApp data next =>
    whatsApp { data with customTitle := none, templateTitle := none, extra := [] } next
  | delay data next => delay { data with customTitle := none, extra := [] } next
  | condition data ifTrue ifFalse =>
    condition { data with customTitle := none, extra := [] } ifTrue ifFalse

/-- The node without its place on the canvas and what else only the editor shows. -/
def Node.work (n : Node) : Node := ⟨⟨n.id, .origin⟩, n.task.work⟩

@[simp] theorem Task.work_withExtra (t : Task) (fs : Json.Fields) :
    (t.withExtra fs).work = t.work := by
  cases t <;> rfl

@[simp] theorem Task.kind_work (t : Task) : t.work.kind = t.kind := by
  cases t <;> rfl

namespace Node

@[simp] theorem id_work (n : Node) : n.work.id = n.id := rfl

@[simp] theorem kind_work (n : Node) : n.work.kind = n.kind := n.task.kind_work

@[simp] theorem work_dumped (n : Node) : n.dumped.work = n.work := by
  rw [work, dumped, Task.work_withExtra]
  rfl

theorem Alike.work_eq {n m : Node} (h : n.Alike m) : n.work = m.work := by
  have htask := congrArg Task.work h.task_eq
  rw [Task.work_withExtra, Task.work_withExtra] at htask
  rw [work, work, h.id_eq, htask]

/-- Handlers read nothing of a node but its work. -/
theorem perform_work (ctx : StepContext) (n : Node) :
    (Step.perform ctx n.work : Action σ StepResult) = Step.perform ctx n := by
  have hexecute : (Step.execute ctx n.work : Action σ StepResult) = Step.execute ctx n := by
    rcases n with ⟨frame, data | data | data | data⟩ <;> rfl
  rw [Step.perform, Step.perform, hexecute]

end Node

/-! ## Funnels that do the same work -/

/-- The funnels differ only in their names, in whether they are active, in the order of their nodes,
and in what only the editor shows of these. -/
structure Funnel.SameWork (f f' : Funnel) : Prop where
  id_eq : f'.id = f.id
  trigger_eq : f'.trigger = f.trigger
  start_eq : f'.start = f.start
  nodes : (f.nodes.map Node.work).Perm (f'.nodes.map Node.work)

/-- The funnels do the same work, and both of them are active or neither is. -/
structure Funnel.SameRole (f f' : Funnel) : Prop extends f.SameWork f' where
  isActive_eq : f'.isActive = f.isActive

namespace Funnel.SameWork

variable {f f' : Funnel} (h : f.SameWork f')
include h

theorem isEmpty_eq : f'.nodes.isEmpty = f.nodes.isEmpty := by
  have hlength := h.nodes.length_eq
  rw [List.length_map, List.length_map] at hlength
  rw [Bool.eq_iff_iff, List.isEmpty_iff_length_eq_zero, List.isEmpty_iff_length_eq_zero, hlength]

theorem node?_cases (hf : f.Validated) (id : String) :
    (f.node? id = none ∧ f'.node? id = none) ∨
      ∃ n n', f.node? id = some n ∧ f'.node? id = some n' ∧ n'.work = n.work := by
  have hlook : ∀ nodes : List Node, (nodes.map Node.work).find? (fun n => n.id == id)
      = (findNode nodes id).map Node.work := fun _ => List.find?_map
  have hunique : ((f.nodes.map Node.work).map (·.id)).Nodup := by
    rw [List.map_map]
    exact hf.graph.nodup
  have hsame : ((f.nodes.map Node.work).find? fun n => n.id == id)
      = (f'.nodes.map Node.work).find? fun n => n.id == id := find?_perm h.nodes hunique id
  rw [hlook, hlook] at hsame
  unfold Funnel.node?
  cases hn : findNode f.nodes id with
  | none =>
    rw [hn, Option.map_none] at hsame
    exact .inl ⟨rfl, Option.map_eq_none_iff.mp hsame.symm⟩
  | some n =>
    rw [hn, Option.map_some] at hsame
    obtain ⟨n', hn', hwork⟩ := Option.map_eq_some_iff.mp hsame.symm
    exact .inr ⟨n, n', rfl, hn', hwork⟩

theorem dumped : f.dumped.SameWork f'.dumped := by
  refine ⟨h.id_eq, h.trigger_eq, h.start_eq, ?_⟩
  have hwork : ∀ nodes : List Node, (nodes.map Node.dumped).map Node.work = nodes.map Node.work :=
    fun nodes => by
      rw [List.map_map]
      exact List.map_congr_left fun n _ => n.work_dumped
  rw [Funnel.dumped, Funnel.dumped, hwork, hwork]
  exact h.nodes

end Funnel.SameWork

/-! ### Funnels that were saved -/

theorem Funnel.SameWork.symm {f f' : Funnel} (h : f.SameWork f') : f'.SameWork f :=
  ⟨h.id_eq.symm, h.trigger_eq.symm, h.start_eq.symm, h.nodes.symm⟩

theorem Funnel.SameWork.trans {f f' f'' : Funnel} (h : f.SameWork f') (h' : f'.SameWork f'') :
    f.SameWork f'' :=
  ⟨h'.id_eq.trans h.id_eq, h'.trigger_eq.trans h.trigger_eq, h'.start_eq.trans h.start_eq,
    h.nodes.trans h'.nodes⟩

theorem Funnel.Alike.sameWork {f f' : Funnel} (h : f.Alike f') : f.SameWork f' := by
  refine ⟨h.id_eq.symm, h.trigger_eq.symm, h.start_eq.symm, ?_⟩
  rw [map_eq_map_of_forall₂ h.nodes fun _ _ => Node.Alike.work_eq]

/-- Rows in which funnels of the same work were saved are read as funnels of the same work. -/
theorem FunnelRow.Holds.matched {r r' : FunnelRow} {f f' : Funnel} (h : r.Holds f)
    (h' : r'.Holds f') (hf : f.SameWork f') (ht : r'.createdAt = r.createdAt) :
    r.Matched Funnel.SameWork r' := by
  obtain ⟨g, hload, hg⟩ := h.load
  obtain ⟨g', hload', hg'⟩ := h'.load
  refine ⟨ht, ?_⟩
  rw [hload, hload']
  exact .came ((hg.sameWork.trans hf.dumped).trans hg'.sameWork.symm)

/-! ## Steps and walks -/

theorem Step.Closed.blind : Step.Closed fun _ x => Blind R s x where
  pure' := .pure'
  bind' := .bind'
  ofExcept' := .ofExcept'
  policy' := .policy'
  note' := .note'
  guarded' := .guarded'
  templateRow? := Store.templateRow?_blind

theorem Step.perform_blind (ctx : StepContext) (n : Node) : Blind R s (Step.perform ctx n) :=
  Closed.blind.perform ctx .deliver' n

/-- The journey without what only the editor shows of its last node. -/
def Journey.work : Journey → Journey
  | .looping n visited => .looping n.work visited
  | .parked n resumeNode resumeAt => .parked n.work resumeNode resumeAt
  | .failed n error => .failed n.work error
  | j => j

theorem advancedEntry_work (n : Node) (sent : Bool) (now : Calendar.Stamp) :
    advancedEntry n.work sent now = advancedEntry n sent now := by
  rw [advancedEntry, advancedEntry, Node.kind_work, Node.id_work]

theorem settle_work (f : Funnel) (ctx : StepContext) (j : Journey) (history : List Json.Fields) :
    (settle f ctx j.work history : Action σ Departure) = settle f ctx j history := by
  cases j with
  | ended | unreachable id => rfl
  | looping n visited | parked n node resumeAt | failed n error =>
    simp only [settle, Journey.work, suspendedEntry, Node.kind_work, Node.id_work]

section
variable {f f' : Funnel} (h : f.SameWork f') (ctx : StepContext)
include h

/-- Walks through funnels of the same work end in the same way, with the same history. -/
theorem walk_parallel (hf : f.Validated) (remaining visited : Nat) (start : Option String)
    (history : List Json.Fields) :
    Parallel R s (fun arrived arrived' => arrived.1.work = arrived'.1.work ∧ arrived.2 = arrived'.2)
      (walk f ctx remaining visited start history)
      (walk f' ctx remaining visited start history) := by
  -- By induction on the nodes left to visit. Both walks stand at the same identifier, so they find
  -- nodes of the same work, and go on to the same one.
  induction remaining generalizing visited start history with
  | zero =>
    unfold walk
    cases reference start with
    | none => exact .pure' ⟨rfl, rfl⟩
    | some id =>
      obtain ⟨hn, hn'⟩ | ⟨n, n', hn, hn', hwork⟩ := h.node?_cases hf id
      · simp only [hn, hn']
        exact .pure' ⟨rfl, rfl⟩
      · simp only [hn, hn']
        exact .pure' ⟨by rw [Journey.work, Journey.work, hwork], rfl⟩
  | succ remaining ih =>
    unfold walk
    cases reference start with
    | none => exact .pure' ⟨rfl, rfl⟩
    | some id =>
      obtain ⟨hn, hn'⟩ | ⟨n, n', hn, hn', hwork⟩ := h.node?_cases hf id
      · simp only [hn, hn']
        exact .pure' ⟨rfl, rfl⟩
      · simp only [hn, hn']
        have hperform : Parallel R s Eq (Step.perform ctx n) (Step.perform ctx n') := by
          rw [← n'.perform_work ctx, hwork, n.perform_work]
          exact Step.perform_blind ctx n
        refine .andThen' hperform fun result => ?_
        cases result with
        | failed error retryable =>
          exact .pure' ⟨by rw [Journey.work, Journey.work, hwork], rfl⟩
        | suspended node resumeAt =>
          exact .pure' ⟨by rw [Journey.work, Journey.work, hwork], rfl⟩
        | advanced next sent =>
          have hentry : advancedEntry n' sent ctx.now = advancedEntry n sent ctx.now := by
            rw [← advancedEntry_work n', hwork, advancedEntry_work]
          dsimp only
          rw [hentry]
          exact ih _ _ _

end

theorem completeExecution_blind (id : String) (history : List Json.Fields) :
    Blind R s (completeExecution id history) :=
  Blind.bind' (Store.updateExecution_blind id _) fun _ => .pure' _

theorem settle_parallel (f f' : Funnel) (ctx : StepContext) (j : Journey)
    (history : List Json.Fields) :
    Parallel R s Eq (settle f ctx j history) (settle f' ctx j history) := by
  cases j with
  | ended =>
    refine .andThen' (completeExecution_blind _ _) fun _ => ?_
    exact .andThen' (.note' _ _) fun _ => .pure' rfl
  | unreachable id | looping n visited =>
    refine .andThen' (.note' _ _) fun _ => ?_
    exact .andThen' (completeExecution_blind _ _) fun _ => .pure' rfl
  | parked n node resumeAt =>
    refine .andThen' (Store.updateExecution_blind _ _) fun _ => ?_
    exact .andThen' (.note' _ _) fun _ => .pure' rfl
  | failed n error => exact .andThen' (.note' _ _) fun _ => .pure' rfl

/-! ## Passes -/

theorem processExecution_parallel (e : Execution) {funnel funnel' : Option Funnel}
    (h : Option.Rel (fun f f' => f.Validated ∧ f.SameWork f') funnel funnel') (lead : Option Lead)
    (now : Calendar.Stamp) :
    Parallel R s Eq (processExecution e funnel lead now) (processExecution e funnel' lead now) := by
  have horphan : Blind R s (do
      Action.note [.execution e.id e.leadId (.orphaned e.funnelId)]
      completeExecution e.id
        (e.history ++ [historyEntry (e.currentNodeId.getD "") none "orphaned" now []])
      return .completed : Action σ Departure) :=
    Blind.bind' (.note' _) fun _ => Blind.bind' (completeExecution_blind _ _) fun _ => .pure' _
  cases h with
  | none => exact horphan
  | @some f f' hf =>
    cases lead with
    | none => exact horphan
    | some lead =>
      refine .andThen' Blind.policy' fun policy => ?_
      refine .bind' (walk_parallel hf.2 ⟨e, lead, now⟩ hf.1 _ _ _ _) ?_
      rintro ⟨j, history⟩ ⟨j', history'⟩ ⟨hwork, rfl⟩
      change j.work = j'.work at hwork
      show Parallel R s Eq (settle f _ j history) (settle f' _ j' history)
      rw [← settle_work f _ j, ← settle_work f' _ j', hwork]
      exact settle_parallel f f' _ _ _

theorem processDue_parallel {funnels funnels' : List Funnel}
    (h : List.Forall₂ (fun f f' => f.Validated ∧ f.SameWork f') funnels funnels')
    (leads : List Lead) (now : Calendar.Stamp) (e : Execution) :
    Parallel R s Eq (processDue funnels leads now e) (processDue funnels' leads now e) := by
  have hfunnel : Option.Rel (fun f f' => f.Validated ∧ f.SameWork f')
      (funnels.find? fun f => f.id == e.funnelId) (funnels'.find? fun f => f.id == e.funnelId) :=
    find?_forall₂ h fun f f' hf => by rw [hf.2.id_eq]
  refine .bind' (.attempt' (processExecution_parallel e hfunnel _ now)) ?_
  rintro result _ (cause | rfl)
  · exact .andThen' (.note' _ _) fun _ => .pure' rfl
  · exact .pure' rfl

/-- A pass is blind to all but the work of funnels. -/
theorem processExecutions_blind (hR : ∀ f f', R f f' → f.SameWork f') (now : Calendar.Stamp) :
    Blind R s (processExecutions now) := by
  refine Blind.bind' (Store.listExecutions_blind _ _ _) fun reply => ?_
  refine Blind.bind' (.ofExcept' _) fun waiting => Blind.bind' (.ofExcept' _) fun due => ?_
  split
  · exact .pure' _
  · refine Parallel.bind' Store.listFunnels_parallel fun reply reply' hreply => ?_
    refine Parallel.bind' (.ofExcept' (hreply.records "id")) fun funnels funnels' hfunnels => ?_
    refine Parallel.andThen' Store.allLeads_blind fun reply => ?_
    refine Parallel.andThen' (Blind.ofExcept' _) fun leads => ?_
    have hwork : List.Forall₂ (fun f f' => f.Validated ∧ f.SameWork f') funnels funnels' :=
      hfunnels.imp fun f f' h => ⟨h.1, hR f f' h.2⟩
    have hdue : List.Forall₂ Eq due due := List.forall₂_same.mpr fun _ _ => rfl
    refine Parallel.andThen' (.collect' hdue ?_) fun departures => ?_
    · rintro e _ rfl
      exact processDue_parallel hwork leads now e
    · exact Blind.bind' (.note' _) fun _ => .pure' _

/-! ## Triggers -/

theorem runningFunnels_blind (lead : Reply String) : Blind R s (runningFunnels lead) := by
  refine Blind.bind' .policy' fun policy => ?_
  split
  · refine Blind.bind' (.ofExcept' _) fun id => ?_
    refine Blind.bind' (Store.listExecutions_blind _ _ _) fun reply => ?_
    exact Blind.bind' (.ofExcept' _) fun running => .pure' _
  · exact .pure' _

theorem startFunnel_parallel {f f' : Funnel} (h : f.SameWork f') (trigger : String)
    (lead : Reply String) (context : Json.Fields) (running : List String) (now : Calendar.Stamp) :
    Parallel R s Eq (startFunnel trigger lead context running now f)
      (startFunnel trigger lead context running now f') := by
  have hnew : ∀ start leadId,
      newExecution f' start leadId context now = newExecution f start leadId context now := by
    intro start leadId
    rw [newExecution, newExecution, h.id_eq]
  unfold startFunnel
  rw [h.isEmpty_eq, h.start_eq, h.id_eq]
  split
  · exact .andThen' (.note' _ _) fun _ => .pure' rfl
  · refine .andThen' (Blind.ofExcept' _) fun leadId => ?_
    split
    · exact .andThen' (.note' _ _) fun _ => .pure' rfl
    · rw [hnew]
      refine .andThen' (Blind.ofExcept' _) fun draft => ?_
      refine .andThen' (Store.createExecution_blind draft) fun reply => ?_
      exact .andThen' (.note' _ _) fun _ => .pure' rfl

theorem triggerFunnels_false_blind (hR : ∀ f f', R f f' → f.SameRole f') (trigger : String)
    (lead : Reply String) (context : Json.Fields) :
    Blind R s (triggerFunnels trigger lead context false) := by
  refine Parallel.bind' Store.listFunnels_parallel fun reply reply' hreply => ?_
  refine Parallel.bind' (.ofExcept' (hreply.records "is_active")) fun all all' hall => ?_
  have hlistening : List.Forall₂ Funnel.SameRole
      (all.filter fun f => f.isActive && f.trigger == trigger)
      (all'.filter fun f => f.isActive && f.trigger == trigger) := by
    refine List.rel_filter (fun f f' h => ?_) (hall.imp fun f f' h => hR f f' h.2)
    beta_reduce
    rw [h.isActive_eq, h.trigger_eq]
  have hempty : (all'.filter fun f => f.isActive && f.trigger == trigger).isEmpty
      = (all.filter fun f => f.isActive && f.trigger == trigger).isEmpty := by
    rw [Bool.eq_iff_iff, List.isEmpty_iff_length_eq_zero, List.isEmpty_iff_length_eq_zero,
      hlistening.length_eq]
  dsimp only
  rw [hempty]
  split
  · exact .andThen' (.note' _ _) fun _ => .pure' rfl
  · refine .andThen' (runningFunnels_blind lead) fun running => ?_
    refine .andThen' Blind.clock' fun now => ?_
    refine .andThen' (.collect' hlistening fun f f' h =>
      startFunnel_parallel h.toSameWork trigger lead context running now) fun started => ?_
    simp only [Bool.and_false, Bool.false_eq_true, if_false]
    exact .pure' rfl

/-- A trigger is blind to all but the work of funnels and whether they are active, and so is the
pass that it may end with. -/
theorem triggerFunnels_blind (hR : ∀ f f', R f f' → f.SameRole f') (trigger : String)
    (lead : Reply String) (context : Json.Fields) (process : Bool) :
    Blind R s (triggerFunnels trigger lead context process) := by
  cases process with
  | false => exact triggerFunnels_false_blind hR trigger lead context
  | true =>
    rw [triggerFunnels_true]
    refine Blind.bind' (triggerFunnels_false_blind hR trigger lead context) fun created => ?_
    have hpass : Blind R s (processNow : Action σ PassReport) :=
      Blind.bind' .clock' fun now =>
        processExecutions_blind (fun f f' h => (hR f f' h).toSameWork) now
    split
    · exact .pure' _
    · exact Blind.bind' hpass fun _ => .pure' _

/-! ## Two databases -/

/-- In both worlds the action has the same answer, makes the same sends in the same order, and
leaves the same rows of executions. The worlds that it leaves are matched again. -/
structure Action.SameRun {α : Type} (R : Funnel → Funnel → Prop) (s : Surroundings σ)
    (x : Action σ α) (w w' : World σ) : Prop where
  answer : (x.run s w').1 = (x.run s w).1
  sends : (x.run s w').2.attempts = (x.run s w).2.attempts
  rows : (x.run s w').2.database.executions = (x.run s w).2.database.executions
  matched : (x.run s w).2.Matched R (x.run s w').2

theorem Action.Blind.sameRun {α : Type} {x : Action σ α} (hx : Blind R s x) {w w' : World σ}
    (hw : w.Matched R w') : x.SameRun R s w w' := by
  obtain ⟨hagree, hmatched⟩ := hx hw
  exact ⟨hagree.eq.symm, hmatched.attempts, hmatched.database.executions, hmatched⟩

/-- Only the work of funnels counts. In worlds that differ in the presentation of funnels, every
trigger creates the same executions; and every pass makes the same sends and leaves the same rows,
even if funnels are active in one of them only. -/
theorem work_decides (s : Surroundings σ) (w w' : World σ) :
    (w.Matched Funnel.SameRole w' → ∀ trigger lead context process,
      (triggerFunnels trigger lead context process).SameRun Funnel.SameRole s w w') ∧
    (w.Matched Funnel.SameWork w' → ∀ now,
      (processExecutions now).SameRun Funnel.SameWork s w w') := by
  constructor
  · intro hw trigger lead context process
    exact (triggerFunnels_blind (fun _ _ h => h) trigger lead context process).sameRun hw
  · intro hw now
    exact (processExecutions_blind (fun _ _ h => h) now).sameRun hw

namespace Rearranged

open Newsletter

/-- The pause under a title, elsewhere on the canvas, and marked by the editor. -/
def movedPause : Node :=
  ⟨⟨"pause", ⟨.finite false 1 0, .finite false 1 0⟩⟩,
    .delay ⟨some "An hour", 1, [("color", .str "red")]⟩ (some "letter")⟩

/-- The newsletter under another name, with its nodes the other way round. -/
def letters (isActive : Bool) : Funnel :=
  { funnel with name := "Letters", isActive := isActive, nodes := [movedPause, letter] }

/-- A funnel with an execution that is due, and its lead. -/
def shop (f : Funnel) : World Unit :=
  { World.fresh () with database := ⟨[f.toRow 0], [row], [leadRow], []⟩ }

theorem load_letters (isActive : Bool) :
    FunnelRow.load ((letters isActive).toRow 0) = .ok (letters isActive) := by
  cases isActive <;> rfl

theorem letters_sameWork (isActive : Bool) : funnel.SameWork (letters isActive) :=
  ⟨rfl, rfl, rfl, .swap _ _ _⟩

theorem shop_matched {isActive : Bool} (h : R funnel (letters isActive)) :
    (shop funnel).Matched R (shop (letters isActive)) := by
  have hload : FunnelRow.load (funnel.toRow 0) = .ok funnel := by rfl
  have hrow : (funnel.toRow 0).Matched R ((letters isActive).toRow 0) := by
    refine ⟨rfl, ?_⟩
    rw [hload, load_letters]
    exact .came h
  exact ⟨⟨.cons hrow .nil, rfl, rfl, rfl⟩, rfl, rfl, rfl⟩

/-- A subscription starts the same in both shops, and a pass does the same even where the letters
were put aside. -/
theorem letters_same :
    ((shop funnel).Matched Funnel.SameRole (shop (letters true)) ∧
      (shop funnel).Matched Funnel.SameWork (shop (letters false))) ∧
    (triggerFunnels Trigger.leadSubscribed (.own lead.id) [] true).SameRun Funnel.SameRole
      surroundings (shop funnel) (shop (letters true)) ∧
    (processExecutions start).SameRun Funnel.SameWork surroundings (shop funnel)
      (shop (letters false)) := by
  have hrole : (shop funnel).Matched Funnel.SameRole (shop (letters true)) :=
    shop_matched ⟨letters_sameWork true, rfl⟩
  have hwork : (shop funnel).Matched Funnel.SameWork (shop (letters false)) :=
    shop_matched (letters_sameWork false)
  exact ⟨⟨hrole, hwork⟩,
    (work_decides surroundings _ _).1 hrole Trigger.leadSubscribed (.own lead.id) [] true,
    (work_decides surroundings _ _).2 hwork start⟩

end Rearranged

end Nurture
