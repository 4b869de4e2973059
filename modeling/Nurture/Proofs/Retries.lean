import Mathlib.Data.List.Chain
import Mathlib.Logic.Relation
import Nurture.Proofs.PassRows

/-!
  What is delivered again

  In a funnel without cycles a walk never comes back to a node, and an execution
  that was parked goes on behind every node that sent something. So no message is accepted
  twice over the passes that are recorded (`passes_deliver`). A pass that fails is not
  recorded: the next one begins where it began, and what it had sent is sent again
  (`Letters`).

  The proof follows the place of the execution, the node at which its row says that it goes
  on. A pass runs nodes that can be reached from there, and a recorded one leaves a place
  behind those that sent (`Orderly`); the rest is an induction over the passes.
-/

namespace Nurture

open Relation

variable {σ : Type} {s : Surroundings σ} {f : Funnel} {ctx : StepContext} {policy : Policy}
  {now : Calendar.Stamp}

/-! ## The graph of a funnel -/

/-- From the first node one may go on at the second. -/
def Funnel.Leads (f : Funnel) (a b : String) : Prop := ∃ n, f.node? a = some n ∧ b ∈ n.successors

/-- No node leads back to itself. -/
def Funnel.Acyclic (f : Funnel) : Prop := ∀ id, ¬ TransGen f.Leads id id

theorem Funnel.acyclic_of_rank (rank : String → Nat)
    (h : ∀ n ∈ f.nodes, ∀ b ∈ n.successors, rank n.id < rank b) : f.Acyclic := by
  have hstep : ∀ {a b}, f.Leads a b → rank a < rank b := by
    rintro a b ⟨n, hn, hb⟩
    rw [← findNode_id hn]
    exact h n (mem_of_findNode hn) b hb
  have hpath : ∀ {a b}, TransGen f.Leads a b → rank a < rank b := by
    intro a b hab
    induction hab with
    | single hab => exact hstep hab
    | tail _ hbc ih => exact Nat.lt_trans ih (hstep hbc)
  exact fun id hcycle => Nat.lt_irrefl _ (hpath hcycle)

/-! ## Where a trail leads -/

namespace Trail

variable {start : Option String} {visits : List Visit} {outcome : Except Failure Journey}

theorem leads_of_came {id : String} {n : Node} {next : Option String} {sent : Bool}
    {tried : List Attempt} (hn : f.node? id = some n)
    (hcame : Step.Came ctx policy n (.ok (.advanced next sent)) tried) {b : String}
    (hb : reference next = some b) : f.Leads n.id b := by
  obtain rfl := findNode_id hn
  exact ⟨n, hn, hcame.leadsTo b hb⟩

theorem reached (ht : Trail f ctx policy start visits outcome) :
    ∀ v ∈ visits, ∃ a, reference start = some a ∧ ReflTransGen f.Leads a v.node.id := by
  induction ht with
  | stopped hj => simp
  | failed hid hn hcame | broke hid hn hcame | parked hid hn hcame =>
    obtain rfl := findNode_id hn
    rw [List.forall_mem_singleton]
    exact ⟨_, hid, .refl⟩
  | @step start next id n sent tried visits outcome hid hn hcame ht ih =>
    obtain rfl := findNode_id hn
    rw [List.forall_mem_cons]
    refine ⟨⟨_, hid, .refl⟩, fun v hv => ?_⟩
    obtain ⟨b, hb, hreach⟩ := ih v hv
    exact ⟨_, hid, .head (leads_of_came hn hcame hb) hreach⟩

theorem pairwise (ht : Trail f ctx policy start visits outcome) :
    visits.Pairwise fun v v' => TransGen f.Leads v.node.id v'.node.id := by
  induction ht with
  | stopped hj => exact .nil
  | failed | broke | parked => exact List.pairwise_singleton _ _
  | step hid hn hcame ht ih =>
    refine List.pairwise_cons.mpr ⟨fun v hv => ?_, ih⟩
    obtain ⟨b, hb, hreach⟩ := ht.reached v hv
    exact .head' (leads_of_came hn hcame hb) hreach

/-- An execution is parked at a node that can be reached from where it started, and behind every
node that sent something. -/
theorem parked_at {n : Node} {node : String} {resumeAt : Calendar.Stamp}
    (ht : Trail f ctx policy start visits outcome)
    (houtcome : outcome = .ok (.parked n node resumeAt)) :
    (∃ a, reference start = some a ∧ ReflTransGen f.Leads a node) ∧
      ∀ v ∈ visits, v.sent = true → TransGen f.Leads v.node.id node := by
  induction ht with
  | stopped hj =>
    cases houtcome
    cases hj
  | failed | broke => cases houtcome
  | @parked start id m node' resumeAt' tried hid hn hcame =>
    obtain rfl := findNode_id hn
    cases houtcome
    refine ⟨⟨_, hid, ?_⟩, ?_⟩
    · -- a delay parks at the node that comes next, a window at the node itself
      cases hcame.waits with
      | delay hdelays => exact .single ⟨_, hn, hdelays.mem_successors⟩
      | window hnext => exact .refl
    · rw [List.forall_mem_singleton]
      intro hsent
      have hunsent := hcame.unsent (by intro _ _ h; cases h)
      rw [Visit.sent, hunsent] at hsent
      cases hsent
  | @step start next id m sent tried visits outcome hid hn hcame ht ih =>
    obtain rfl := findNode_id hn
    obtain ⟨⟨b, hb, hreach⟩, hsent⟩ := ih houtcome
    have hleads := leads_of_came hn hcame hb
    refine ⟨⟨_, hid, .head hleads hreach⟩, ?_⟩
    rw [List.forall_mem_cons]
    exact ⟨fun _ => .head' hleads hreach, hsent⟩

end Trail

/-! ## The place of an execution -/

/-- The nodes run for an execution are those that its place leads to, one behind the other, and
its row is what it was or has a place behind those that sent something. -/
structure Orderly (f : Funnel) (r : ExecutionRow) (visits : List Visit) (r' : ExecutionRow) :
    Prop where
  id_eq : r'.id = r.id
  funnelId_eq : r'.funnelId = r.funnelId
  reached : ∀ v ∈ visits,
    ∃ a, reference r.currentNodeId = some a ∧ ReflTransGen f.Leads a v.node.id
  pairwise : visits.Pairwise fun v v' => TransGen f.Leads v.node.id v'.node.id
  head : ∀ v, visits.head? = some v → reference r.currentNodeId = some v.node.id
  single : ∀ v ∈ visits, v.tried.length ≤ 1
  recorded : r' = r ∨ ∀ b, reference r'.currentNodeId = some b →
    (∃ a, reference r.currentNodeId = some a ∧ ReflTransGen f.Leads a b) ∧
      ∀ v ∈ visits, v.sent = true → TransGen f.Leads v.node.id b

section
variable {r r' : ExecutionRow} {visits : List Visit}

theorem Orderly.nothing (hid : r'.id = r.id) (hfunnelId : r'.funnelId = r.funnelId)
    (h : r' = r ∨ r'.currentNodeId = none) : Orderly f r [] r' where
  id_eq := hid
  funnelId_eq := hfunnelId
  reached := by simp
  pairwise := .nil
  head := by simp
  single := by simp
  recorded := h.imp_right fun hnone b hb => by
    rw [hnone] at hb
    cases hb

theorem Proceeded.orderly {rows : List FunnelRow} (h : Proceeded s now rows r visits r')
    (hf : ∀ row ∈ rows, row.id = r.funnelId → row.load = .ok f) : Orderly f r visits r' := by
  obtain ⟨hsame, hfunnelId⟩ := h.ids_eq
  cases h with
  | idle => exact .nothing hsame hfunnelId (.inl rfl)
  | orphaned hdue hload => exact .nothing hsame hfunnelId (.inr rfl)
  | @walked row f' e lead _ outcome answer _ hdue hload hrow hid hfload hwalked htrail hsettled =>
    obtain rfl : f' = f := Except.ok.inj (hfload.symm.trans (hf row hrow hid))
    refine ⟨hsame, hfunnelId, htrail.reached, htrail.pairwise, htrail.head, fun v hv => ?_, ?_⟩
    · obtain ⟨-, result, hcame⟩ := htrail.came v hv
      exact hcame.length_le
    · cases hsettled with
      | broke | failed | refused | answered => exact .inl rfl
      | ended hj history => exact .inr fun b hb => by cases hb
      | parked history htime =>
        refine .inr fun b hb => ?_
        obtain ⟨hb, -⟩ := reference_eq_some_iff.mp hb
        cases hb
        exact htrail.parked_at rfl

end

/-! ## One pass -/

namespace PassRun

/-- The execution's funnel, if there is one, is read as `f`. -/
def Runs (p : PassRun σ) (f : Funnel) (id : String) : Prop :=
  ∀ r ∈ p.before.database.executions, r.id = id →
    ∀ row ∈ p.before.database.funnels, row.id = r.funnelId → row.load = .ok f

/-- The execution's row is let alone from the one pass to the other. -/
def Follows (id : String) (p q : PassRun σ) : Prop := q.rowBefore id = p.rowAfter id

end PassRun

namespace PassRun

variable {p : PassRun σ} {id : String}

/-- A pass leaves the execution's row, and runs its nodes in order; for an execution that is not
there it runs none. -/
theorem orderly (hk : p.before.database.Keyed) (hf : p.Runs f id) :
    (p.rowBefore id = none ∧ p.rowAfter id = none ∧ p.visits id = []) ∨
      ∃ r r', p.rowBefore id = some r ∧ p.rowAfter id = some r' ∧
        Orderly f r (p.visits id) r' := by
  refine (proceeded hk id).imp_right ?_
  rintro ⟨r, r', hbefore, hafter, hproceeded⟩
  have hr : r ∈ p.before.database.executions := List.mem_of_find?_eq_some hbefore
  have hrid : r.id = id := by simpa using List.find?_some hbefore
  exact ⟨r, r', hbefore, hafter, hproceeded.orderly (hf r hr hrid)⟩

/-- Where the execution of a row goes on, if it does. -/
def place (r? : Option ExecutionRow) : Option String := r?.bind fun r => reference r.currentNodeId

section
variable (hk : p.before.database.Keyed) (hf : p.Runs f id)
include hk hf

theorem reached {v : Visit} (hv : v ∈ p.visits id) :
    ∃ a, place (p.rowBefore id) = some a ∧ ReflTransGen f.Leads a v.node.id := by
  rcases orderly hk hf with ⟨-, -, hnone⟩ | ⟨r, r', hr, -, h⟩
  · rw [hnone] at hv
    cases hv
  · rw [hr]
    exact h.reached v hv

theorem place_reached {b : String} (hb : place (p.rowAfter id) = some b) :
    ∃ a, place (p.rowBefore id) = some a ∧ ReflTransGen f.Leads a b := by
  rcases orderly hk hf with ⟨-, hnone, -⟩ | ⟨r, r', hr, hr', h⟩
  · rw [hnone] at hb
    cases hb
  · rw [hr'] at hb
    rw [hr]
    rcases h.recorded with rfl | hmoved
    · exact ⟨b, hb, .refl⟩
    · exact (hmoved b hb).1

/-- The place after a pass that was written down is behind every node that sent something. -/
theorem place_behind (hrecorded : p.Recorded id) {v : Visit} (hv : v ∈ p.visits id)
    (hsent : v.sent = true) {b : String} (hb : place (p.rowAfter id) = some b) :
    TransGen f.Leads v.node.id b := by
  rcases orderly hk hf with ⟨-, hnone, -⟩ | ⟨r, r', hr, hr', h⟩
  · rw [hnone] at hb
    cases hb
  · rw [hr'] at hb
    rcases h.recorded with rfl | hmoved
    · exact absurd (hr'.trans hr.symm) hrecorded
    · exact (hmoved b hb).2 v hv hsent

end

end PassRun

/-! ## Runs of passes -/

/-- Passes right after each other, from a world on. -/
def passesFrom : World σ → List (Surroundings σ × Calendar.Stamp) → List (PassRun σ)
  | _, [] => []
  | w, (s, now) :: turns => ⟨s, now, w⟩ :: passesFrom (PassRun.mk s now w).after turns

theorem PassRun.next {id : String} {p q : PassRun σ} (hk : p.before.database.Keyed)
    (hf : p.Runs f id) (hq : q.before = p.after) :
    q.before.database.Keyed ∧ q.Runs f id ∧ PassRun.Follows id p q := by
  obtain ⟨rows, answers, g, -, hpassed⟩ : DroveSome p.surroundings p.now p.before.database _ :=
    processExecutions_droveSome hk
  have hk' : q.before.database.Keyed := by
    rw [hq]
    exact hpassed.keyed hk
  refine ⟨hk', fun r hr hrid row hrow hid => ?_, by rw [Follows, rowBefore, hq, rowAfter]⟩
  have hafter : p.rowAfter id = some r := by
    have hfound := hk'.find?_id hr
    rw [hrid, hq] at hfound
    exact hfound
  have hfunnels : q.before.database.funnels = p.before.database.funnels := by
    rw [hq]
    exact congrArg (·.funnels) hpassed.database
  rcases PassRun.orderly hk hf with ⟨-, hnone, -⟩ | ⟨r₀, r', hbefore, hr', horderly⟩
  · rw [hnone] at hafter
    cases hafter
  · obtain rfl : r' = r := Option.some.inj (hr'.symm.trans hafter)
    have hr₀ : r₀ ∈ p.before.database.executions := List.mem_of_find?_eq_some hbefore
    have hid₀ : r₀.id = id := horderly.id_eq.symm.trans hrid
    exact hf r₀ hr₀ hid₀ row (hfunnels ▸ hrow) (hid.trans horderly.funnelId_eq)

/-- In passes right after each other, the funnel stays what it is. -/
theorem passesFrom_run {id : String} (turns : List (Surroundings σ × Calendar.Stamp)) {w : World σ}
    (hk : w.database.Keyed) (hf : ∀ s now, (PassRun.mk s now w).Runs f id) :
    (∀ p ∈ passesFrom w turns, p.before.database.Keyed ∧ p.Runs f id) ∧
      (passesFrom w turns).IsChain (PassRun.Follows id) := by
  induction turns generalizing w with
  | nil => exact ⟨by simp [passesFrom], .nil⟩
  | cons turn turns ih =>
    obtain ⟨s, now⟩ := turn
    have hnext : ∀ s' now', (PassRun.mk s' now' (PassRun.mk s now w).after).before.database.Keyed ∧
        (PassRun.mk s' now' (PassRun.mk s now w).after).Runs f id ∧
        PassRun.Follows id ⟨s, now, w⟩ ⟨s', now', (PassRun.mk s now w).after⟩ := fun s' now' =>
      PassRun.next hk (hf s now) rfl
    obtain ⟨hall, hchain⟩ := ih (hnext s now).1 fun s' now' => (hnext s' now').2.1
    refine ⟨List.forall_mem_cons.mpr ⟨⟨hk, hf s now⟩, hall⟩, ?_⟩
    cases turns with
    | nil => exact .singleton _
    | cons turn turns =>
      obtain ⟨s', now'⟩ := turn
      exact List.isChain_cons_cons.mpr ⟨(hnext s' now').2.2, hchain⟩

/-- How many messages of a node were accepted. -/
def acceptances (nodeId : String) (visits : List Visit) : Nat :=
  ((visits.filter fun v => v.node.id == nodeId).flatMap (·.tried)).countP fun a => !a.refused

/-- Where a node that sent something is not run again, no message is accepted twice. -/
theorem acceptances_le_one {visits : List Visit} (nodeId : String)
    (hleft : visits.Pairwise fun v v' => v.sent = true → v'.node.id ≠ v.node.id)
    (hsingle : ∀ v ∈ visits, v.tried.length ≤ 1) : acceptances nodeId visits ≤ 1 := by
  induction visits with
  | nil => exact Nat.zero_le 1
  | cons v visits ih =>
    obtain ⟨hv, hleft⟩ := List.pairwise_cons.mp hleft
    rw [List.forall_mem_cons] at hsingle
    have hrest := ih hleft hsingle.2
    by_cases hid : v.node.id = nodeId
    · have hcons : acceptances nodeId (v :: visits)
          = v.tried.countP (fun a => !a.refused) + acceptances nodeId visits := by
        rw [acceptances, List.filter_cons_of_pos (by simpa using hid), List.flatMap_cons,
          List.countP_append, acceptances]
      rw [hcons]
      cases hsent : v.sent with
      | true =>
        -- the node is not run again
        have hnone : visits.filter (fun v => v.node.id == nodeId) = [] := by
          rw [List.filter_eq_nil_iff]
          intro v' hv'
          simpa [← hid] using hv v' hv' hsent
        have hzero : acceptances nodeId visits = 0 := by
          rw [acceptances, hnone]
          rfl
        have hone : v.tried.countP (fun a => !a.refused) ≤ 1 :=
          Nat.le_trans List.countP_le_length hsingle.1
        omega
      | false =>
        have hzero : v.tried.countP (fun a => !a.refused) = 0 := by
          rw [List.countP_eq_zero]
          exact List.any_eq_false.mp hsent
        omega
    · have hcons : acceptances nodeId (v :: visits) = acceptances nodeId visits := by
        rw [acceptances, List.filter_cons_of_neg (by simpa using hid), acceptances]
      rw [hcons]
      exact hrest

open Classical in
/-- What a run of passes delivers for an execution. -/
structure DeliversOnce (id : String) (passes : List (PassRun σ)) : Prop where
  /-- In one pass no message is accepted twice. -/
  within : ∀ p ∈ passes, ∀ nodeId, acceptances nodeId (p.visits id) ≤ 1
  /-- In all passes that were written down no message is accepted twice. -/
  recorded : ∀ nodeId,
    acceptances nodeId ((passes.filter (·.Recorded id)).flatMap (·.visits id)) ≤ 1
  /-- After a pass that was written down, a node whose message was accepted is not run again. -/
  left : passes.Pairwise fun p q => p.Recorded id → ∀ v ∈ p.visits id, v.sent = true →
    ∀ v' ∈ q.visits id, v'.node.id ≠ v.node.id
  /-- After a pass that was not, the next one begins again with the node that it began with. -/
  again : passes.IsChain fun p q => ¬ p.Recorded id → ∀ v v', (p.visits id).head? = some v →
    (q.visits id).head? = some v' → v'.node.id = v.node.id

section
variable {id : String} {p : PassRun σ} {passes : List (PassRun σ)}

theorem reached_later (hk : ∀ q ∈ p :: passes, q.before.database.Keyed)
    (hf : ∀ q ∈ p :: passes, q.Runs f id)
    (hchain : (p :: passes).IsChain (PassRun.Follows id)) :
    ∀ q ∈ p :: passes, ∀ v ∈ q.visits id,
      ∃ a, PassRun.place (p.rowBefore id) = some a ∧ ReflTransGen f.Leads a v.node.id := by
  induction passes generalizing p with
  | nil =>
    intro q hq v hv
    obtain rfl := List.mem_singleton.mp hq
    exact PassRun.reached (hk q hq) (hf q hq) hv
  | cons p' passes ih =>
    intro q hq v hv
    obtain ⟨hfollows, hrest⟩ := List.isChain_cons_cons.mp hchain
    rcases List.mem_cons.mp hq with rfl | hq
    · exact PassRun.reached (hk q List.mem_cons_self) (hf q List.mem_cons_self) hv
    · obtain ⟨b, hb, hreach⟩ := ih (fun q hq => hk q (List.mem_cons_of_mem p hq))
        (fun q hq => hf q (List.mem_cons_of_mem p hq)) hrest q hq v hv
      rw [hfollows] at hb
      obtain ⟨a, ha, hab⟩ :=
        PassRun.place_reached (hk p List.mem_cons_self) (hf p List.mem_cons_self) hb
      exact ⟨a, ha, hab.trans hreach⟩

/-- A node that sent something in a pass that was written down is not run again. -/
theorem left_behind (hacyclic : f.Acyclic) (hk : ∀ q ∈ passes, q.before.database.Keyed)
    (hf : ∀ q ∈ passes, q.Runs f id) (hchain : passes.IsChain (PassRun.Follows id)) :
    passes.Pairwise fun p q => p.Recorded id → ∀ v ∈ p.visits id, v.sent = true →
      ∀ v' ∈ q.visits id, v'.node.id ≠ v.node.id := by
  induction passes with
  | nil => exact .nil
  | cons p passes ih =>
    have hk' : ∀ q ∈ passes, q.before.database.Keyed := fun q hq =>
      hk q (List.mem_cons_of_mem p hq)
    have hf' : ∀ q ∈ passes, q.Runs f id := fun q hq => hf q (List.mem_cons_of_mem p hq)
    refine List.pairwise_cons.mpr ⟨?_, ih hk' hf' (List.IsChain.of_cons hchain)⟩
    intro q hq hrecorded v hv hsent v' hv' heq
    cases passes with
    | nil => cases hq
    | cons p' passes =>
      obtain ⟨hfollows, hrest⟩ := List.isChain_cons_cons.mp hchain
      -- The node would lead to the place that the pass left, and from there back to itself.
      obtain ⟨b, hb, hreach⟩ := reached_later hk' hf' hrest q hq v' hv'
      rw [hfollows] at hb
      have hbehind : TransGen f.Leads v.node.id b :=
        PassRun.place_behind (hk p List.mem_cons_self) (hf p List.mem_cons_self) hrecorded hv
          hsent hb
      exact hacyclic v.node.id (heq ▸ hbehind.trans_left hreach)

theorem distinct_within (hacyclic : f.Acyclic) (hk : p.before.database.Keyed) (hf : p.Runs f id) :
    (p.visits id).Pairwise (fun v v' => v'.node.id ≠ v.node.id) ∧
      ∀ v ∈ p.visits id, v.tried.length ≤ 1 := by
  rcases PassRun.orderly hk hf with ⟨-, -, hnone⟩ | ⟨r, r', -, -, h⟩
  · rw [hnone]
    exact ⟨.nil, by simp⟩
  · refine ⟨h.pairwise.imp fun {v v'} hleads heq => ?_, h.single⟩
    rw [heq] at hleads
    exact hacyclic _ hleads

/-- The next pass begins where a pass began that was not written down. -/
theorem begins_again (hk : ∀ q ∈ passes, q.before.database.Keyed)
    (hf : ∀ q ∈ passes, q.Runs f id) (hchain : passes.IsChain (PassRun.Follows id)) :
    passes.IsChain fun p q => ¬ p.Recorded id → ∀ v v', (p.visits id).head? = some v →
      (q.visits id).head? = some v' → v'.node.id = v.node.id := by
  have hhead : ∀ q ∈ passes, ∀ v, (q.visits id).head? = some v →
      PassRun.place (q.rowBefore id) = some v.node.id := by
    intro q hq v hv
    rcases PassRun.orderly (hk q hq) (hf q hq) with ⟨-, -, hnone⟩ | ⟨r, r', hr, -, h⟩
    · rw [hnone] at hv
      cases hv
    · rw [hr]
      exact h.head v hv
  -- The row is the same before both passes, and so is its place.
  refine hchain.imp_of_mem_imp fun p q hp hq hfollows hkept v v' hv hv' => ?_
  have hrow : q.rowBefore id = p.rowBefore id := hfollows.trans (not_not.mp hkept)
  have hplace := hhead q hq v' hv'
  rw [hrow, hhead p hp v hv] at hplace
  exact (Option.some.inj hplace).symm

/-- In a funnel without cycles that stays what it is, whatever the senders refuse: no message is
accepted twice in one pass, nor in all the passes that were written down; after one that was not,
the next pass begins again where it began. -/
theorem passes_deliver (hacyclic : f.Acyclic) (hk : ∀ q ∈ passes, q.before.database.Keyed)
    (hf : ∀ q ∈ passes, q.Runs f id) (hchain : passes.IsChain (PassRun.Follows id)) :
    DeliversOnce id passes := by
  classical
  have hwithin := fun q hq => distinct_within hacyclic (hk q hq) (hf q hq)
  have hleft := left_behind hacyclic hk hf hchain
  refine ⟨fun p hp nodeId => ?_, fun nodeId => ?_, hleft, begins_again hk hf hchain⟩
  · obtain ⟨hdistinct, hsingle⟩ := hwithin p hp
    exact acceptances_le_one nodeId (hdistinct.imp fun {v _} h (_ : v.sent = true) => h) hsingle
  · refine acceptances_le_one nodeId (List.pairwise_flatMap.mpr ⟨?_, ?_⟩) ?_
    · intro p hp
      exact (hwithin p (List.mem_of_mem_filter hp)).1.imp fun {v _} h (_ : v.sent = true) => h
    · rw [List.pairwise_filter]
      refine hleft.imp fun {p q} h hp hq v hv v' hv' hsent => ?_
      exact h (of_decide_eq_true hp) v hv hsent v' hv'
    · intro v hv
      obtain ⟨p, hp, hv⟩ := List.mem_flatMap.mp hv
      exact (hwithin p (List.mem_of_mem_filter hp)).2 v hv

end

/-! ## A letter and a reminder -/

namespace Letters

/-- A letter, after which there is a reminder by phone. -/
def letter : Node :=
  ⟨⟨"letter", .origin⟩, .email ⟨none, some "News", some "Welcome", []⟩ (some "reminder")⟩

def reminder : Node :=
  ⟨⟨"reminder", .origin⟩, .whatsApp { WhatsAppData.blank with content := some "Read on" } none⟩

def funnel : Funnel :=
  ⟨"funnel-1", "Letters", Trigger.leadSubscribed, true, [letter, reminder], some letter.id⟩

def row : ExecutionRow :=
  ⟨"exec-1", funnel.id, "lead-1", some letter.id, Status.waiting.name, 0, .arr [], [], 0⟩

def leadRow : LeadRow :=
  ⟨"lead-1", "ada@example.com", "Ada", "+351 900 000 000", Lead.active, [], "new", none, 0⟩

def world : World Unit :=
  { World.fresh () with database := ⟨[funnel.toRow 0], [row], [leadRow], []⟩ }

/-- The start of the calendar, on a UTC clock. -/
def start : Calendar.Stamp := .ahead 0 0

/-- Letters are accepted and messages to phones are refused. -/
def phonesDown : Surroundings Unit :=
  { Surroundings.calm start (.usual .utc 5) with
    deliver := fun m _ =>
      match m with
      | .email .. => (.accepted, ())
      | .whatsApp .. => (⟨some (.undelivered "down"), []⟩, ()) }

/-- Two passes: in the first one the reminder is refused, in the next one nothing is. -/
def turns : List (Surroundings Unit × Calendar.Stamp) :=
  [(phonesDown, start), (.calm start (.usual .utc 5), start)]

theorem acyclic : funnel.Acyclic :=
  Funnel.acyclic_of_rank (fun id => if id = "letter" then 0 else 1) (by decide)

theorem load_funnel : FunnelRow.load (funnel.toRow 0) = .ok funnel := by rfl

theorem runs (s : Surroundings Unit) (now : Calendar.Stamp) :
    (PassRun.mk s now world).Runs funnel "exec-1" := by
  intro r _ _ row hrow _
  obtain rfl := List.mem_singleton.mp hrow
  exact load_funnel

/-- Neither message is accepted twice in a pass, or in passes that were written down. -/
theorem delivered_once :
    (funnel.Acyclic ∧ (∀ p ∈ passesFrom world turns, p.before.database.Keyed) ∧
      (∀ p ∈ passesFrom world turns, p.Runs funnel "exec-1") ∧
      (passesFrom world turns).IsChain (PassRun.Follows "exec-1")) ∧
    DeliversOnce "exec-1" (passesFrom world turns) := by
  have hkeyed : world.database.Keyed := ⟨by decide, by decide⟩
  obtain ⟨hall, hchain⟩ := passesFrom_run turns hkeyed runs
  have hk := fun p hp => (hall p hp).1
  have hf := fun p hp => (hall p hp).2
  exact ⟨⟨acyclic, hk, hf, hchain⟩, passes_deliver acyclic hk hf hchain⟩

/-- The pass in which the reminder is refused is not written down, so the letter is sent again, and
accepted twice in the whole run. -/
theorem sent_again :
    funnel.Acyclic ∧
    acceptances "letter" ((passesFrom world turns).flatMap (·.visits "exec-1")) = 2 ∧
    (passesFrom world turns).map (fun p => (p.visits "exec-1").map fun v => (v.node.id, v.sent))
      = [[("letter", true), ("reminder", false)], [("letter", true), ("reminder", true)]] := by
  refine ⟨acyclic, ?_, ?_⟩
  · decide +kernel
  · decide +kernel

end Letters

end Nurture
