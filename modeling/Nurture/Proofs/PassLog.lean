import Nurture.Proofs.PassReading

/-!
  The log of a pass

  The attempts of a world tell which messages were handed over, but not by which node
  of which execution. The log of a pass tells that: it goes through the same runs as
  the pass itself and cuts the attempts up, node by node. Nothing is attempted in a pass
  but what stands in its log (`attempts_processExecutions`).

  A `Trail` is what the log of one execution looks like: each node of it came
  to something that a handler can come to, and the next one is where it leads.
-/

namespace Nurture

variable {σ : Type} {s : Surroundings σ} {f : Funnel} {ctx : StepContext} {now : Calendar.Stamp}

/-! ## The log -/

/-- The nodes that a walk runs, each with the messages attempted there. -/
def walkVisits (f : Funnel) (ctx : StepContext) (s : Surroundings σ) :
    Nat → Option String → World σ → List Visit
  | 0, _, _ => []
  | remaining + 1, start, w =>
    match (reference start).bind f.node? with
    | none => []
    | some n =>
      let (result, w₁) := (Step.perform ctx n).run s w
      ⟨n, w₁.attempts.drop w.attempts.length⟩ ::
        match result with
        | .ok (.advanced next _) => walkVisits f ctx s remaining next w₁
        | _ => []

/-- The driving of one execution: the nodes that were run for it. -/
structure Drive where
  execution : Execution
  visits : List Visit

/-- The messages attempted for the execution. -/
def Drive.attempts (d : Drive) : List Attempt := d.visits.flatMap (·.tried)

/-- The nodes run for an execution, none if its funnel or its lead is gone. -/
def driveVisits (e : Execution) (funnel : Option Funnel) (lead : Option Lead)
    (now : Calendar.Stamp) (s : Surroundings σ) (w : World σ) : List Visit :=
  match funnel, lead with
  | some f, some lead => walkVisits f ⟨e, lead, now⟩ s s.policy.maxNodes.toNat e.currentNodeId w
  | _, _ => []

/-- The driving of one execution of a pass. -/
def dueDrive (funnels : List Funnel) (leads : List Lead) (now : Calendar.Stamp)
    (s : Surroundings σ) (e : Execution) (w : World σ) : Drive :=
  ⟨e, driveVisits e (funnels.find? fun f => f.id == e.funnelId)
    (leads.find? fun l => l.id == e.leadId) now s w⟩

/-- The drivings of executions one after the other. -/
def driveLog (funnels : List Funnel) (leads : List Lead) (now : Calendar.Stamp)
    (s : Surroundings σ) : List Execution → World σ → List Drive
  | [], _ => []
  | e :: rest, w =>
    dueDrive funnels leads now s e w ::
      driveLog funnels leads now s rest ((processDue funnels leads now e).run s w).2

/-- The drivings of a pass. -/
def passLog (now : Calendar.Stamp) (s : Surroundings σ) (w : World σ) : List Drive :=
  match (readDue now).run s w with
  | (.ok (due, funnels, leads), w₁) => driveLog funnels leads now s due w₁
  | (.error _, _) => []

/-! ## The attempts of a pass -/

/-- The action attempts no message. -/
def Action.Mute {α : Type} (s : Surroundings σ) (x : Action σ α) : Prop :=
  ∀ w, (x.run s w).2.attempts = w.attempts

namespace Action

variable {α β : Type}

namespace Mute

theorem of_quiet {x : Action σ α} (hx : Quiet s x) : Mute s x := hx.attempts_eq

theorem bind' {x : Action σ α} {g : α → Action σ β} (hx : Mute s x) (hg : ∀ a, Mute s (g a)) :
    Mute s (x >>= g) := by
  intro w
  have h := hx w
  rw [run_bind]
  rcases hrun : x.run s w with ⟨e | a, w'⟩
  · rw [hrun] at h
    exact h
  · rw [hrun] at h
    exact (hg a w').trans h

theorem guarded' {c : Call} {body : Action σ α} (hb : Mute s body) : Mute s (guarded c body) := by
  intro w
  unfold guarded
  obtain ⟨o, ⟨reason, h⟩ | ⟨j, -, h⟩ | h⟩ := relayed_cases c (.own <$> body) s w
  · rw [h]
  · rw [h]
  · rw [h, run_map]
    exact hb { w with outside := o }

end Mute

end Action

open Nurture.Action

theorem updateExecution_mute (id : String) (p : ExecutionPatch) :
    Mute s (Store.updateExecution id p) := by
  rw [Store.updateExecution_eq]
  refine Mute.guarded' ?_
  unfold Store.patchRow
  split
  · exact fun _ => rfl
  · refine Mute.bind' (Mute.of_quiet (Store.executionRow?_still id).quiet) fun row => ?_
    cases row with
    | none => exact fun _ => rfl
    | some row =>
      refine Mute.bind' (fun _ => rfl) fun now => Mute.bind' ?_ fun row' => fun _ => rfl
      exact Mute.of_quiet (Quiet.ofExcept' _)

theorem completeExecution_mute (id : String) (history : List Json.Fields) :
    Mute s (completeExecution id history) :=
  Mute.bind' (updateExecution_mute id _) fun _ _ => rfl

theorem settle_mute (j : Journey) (history : List Json.Fields) :
    Mute s (settle f ctx j history) := by
  have hnote : ∀ events, Mute s (note events : Action σ Unit) := fun _ _ => rfl
  have hpure : ∀ d, Mute s (pure d : Action σ Departure) := fun _ _ => rfl
  cases j with
  | ended =>
    exact Mute.bind' (completeExecution_mute _ _) fun _ => Mute.bind' (hnote _) fun _ => hpure _
  | unreachable id =>
    exact Mute.bind' (hnote _) fun _ => Mute.bind' (completeExecution_mute _ _) fun _ => hpure _
  | looping n visited =>
    exact Mute.bind' (hnote _) fun _ => Mute.bind' (completeExecution_mute _ _) fun _ => hpure _
  | parked n node resumeAt =>
    exact Mute.bind' (updateExecution_mute _ _) fun _ => Mute.bind' (hnote _) fun _ => hpure _
  | failed n error => exact Mute.bind' (hnote _) fun _ => hpure _

/-! ## Trails -/

/-- How it ends where no node is run: nothing comes next, the funnel lacks the node, or the bound is
reached before it. -/
inductive Stops (f : Funnel) (start : Option String) : Journey → Prop
  | ended (hstart : reference start = none) : Stops f start .ended
  | unreachable {id : String} (hid : reference start = some id) (hn : f.node? id = none) :
      Stops f start (.unreachable id)
  | looping {id : String} {n : Node} (hid : reference start = some id)
      (hn : f.node? id = some n) (visited : Nat) : Stops f start (.looping n visited)

/-- The nodes run one after the other from a reference on, each with the messages attempted there,
and how that ended. -/
inductive Trail (f : Funnel) (ctx : StepContext) (policy : Policy) :
    Option String → List Visit → Except Failure Journey → Prop
  /-- No node is run. -/
  | stopped {start : Option String} {j : Journey} (hj : Stops f start j) :
      Trail f ctx policy start [] (.ok j)
  /-- The last node failed. -/
  | failed {start : Option String} {id : String} {n : Node} {error : String} {retryable : Bool}
      {tried : List Attempt} (hid : reference start = some id) (hn : f.node? id = some n)
      (hcame : Step.Came ctx policy n (.ok (.failed error retryable)) tried) :
      Trail f ctx policy start [⟨n, tried⟩] (.ok (.failed n error))
  /-- The last node broke. -/
  | broke {start : Option String} {id : String} {n : Node} {cause : Failure}
      {tried : List Attempt} (hid : reference start = some id) (hn : f.node? id = some n)
      (hcame : Step.Came ctx policy n (.error cause) tried) :
      Trail f ctx policy start [⟨n, tried⟩] (.error cause)
  /-- The last node is one that the execution is parked by. -/
  | parked {start : Option String} {id : String} {n : Node} {node : String}
      {resumeAt : Calendar.Stamp} {tried : List Attempt} (hid : reference start = some id)
      (hn : f.node? id = some n)
      (hcame : Step.Came ctx policy n (.ok (.suspended node resumeAt)) tried) :
      Trail f ctx policy start [⟨n, tried⟩] (.ok (.parked n node resumeAt))
  | step {start next : Option String} {id : String} {n : Node} {sent : Bool}
      {tried : List Attempt} {visits : List Visit} {outcome : Except Failure Journey}
      (hid : reference start = some id) (hn : f.node? id = some n)
      (hcame : Step.Came ctx policy n (.ok (.advanced next sent)) tried)
      (ht : Trail f ctx policy next visits outcome) :
      Trail f ctx policy start (⟨n, tried⟩ :: visits) outcome

theorem Trail.came {policy : Policy} {start : Option String} {visits : List Visit}
    {outcome : Except Failure Journey} (ht : Trail f ctx policy start visits outcome) :
    ∀ v ∈ visits, v.node ∈ f.nodes ∧ ∃ r, Step.Came ctx policy v.node r v.tried := by
  induction ht with
  | stopped hj => simp
  | failed hid hn hcame | broke hid hn hcame | parked hid hn hcame =>
    simpa using ⟨mem_of_findNode hn, _, hcame⟩
  | step hid hn hcame ht ih =>
    rw [List.forall_mem_cons]
    exact ⟨⟨mem_of_findNode hn, _, hcame⟩, ih⟩

theorem Trail.head {policy : Policy} {start : Option String} {visits : List Visit}
    {outcome : Except Failure Journey} (ht : Trail f ctx policy start visits outcome) :
    ∀ v, visits.head? = some v → reference start = some v.node.id := by
  intro v hv
  cases ht with
  | stopped hj => cases hv
  | failed hid hn | broke hid hn | parked hid hn | step hid hn =>
    obtain rfl := findNode_id hn
    cases hv
    exact hid

section
variable {k visited : Nat} {start : Option String} {history : List Json.Fields} {w w₁ : World σ}

theorem walk_stopped (h : k = 0 ∨ (reference start).bind f.node? = none) :
    ∃ j, Stops f start j ∧ ∀ (s : Surroundings σ) (w : World σ),
      (walk f ctx k visited start history).run s w = (.ok (j, history), w) ∧
        walkVisits f ctx s k start w = [] := by
  have hnone : ∀ (s : Surroundings σ) (w : World σ), walkVisits f ctx s k start w = [] := by
    intro s w
    cases k with
    | zero => rfl
    | succ k =>
      have h : (reference start).bind f.node? = none := h.resolve_left (Nat.succ_ne_zero k)
      simp only [walkVisits, h]
  cases hid : reference start with
  | none =>
    exact ⟨.ended, .ended hid, fun s w => ⟨run_walk_ended hid, hnone s w⟩⟩
  | some id =>
    cases hn : f.node? id with
    | none =>
      exact ⟨.unreachable id, .unreachable hid hn,
        fun s w => ⟨run_walk_unreachable hid hn, hnone s w⟩⟩
    | some n =>
      rw [hid] at h
      have hfound : (some id).bind f.node? ≠ none := by
        rw [Option.bind_some, hn]
        exact Option.some_ne_none n
      obtain rfl : k = 0 := h.resolve_right hfound
      exact ⟨.looping n visited, .looping hid hn visited,
        fun s w => ⟨run_walk_looping hid hn, hnone s w⟩⟩

theorem walkVisits_succ {id : String} {n : Node} {result : Except Failure StepResult}
    {tried : List Attempt} (hid : reference start = some id) (hn : f.node? id = some n)
    (hrun : (Step.perform ctx n).run s w = (result, w₁))
    (htried : w₁.attempts = w.attempts ++ tried) :
    walkVisits f ctx s (k + 1) start w = ⟨n, tried⟩ ::
      match result with
      | .ok (.advanced next _) => walkVisits f ctx s k next w₁
      | _ => [] := by
  have hdrop : w₁.attempts.drop w.attempts.length = tried := by
    rw [htried, List.drop_left]
  have hfound : (reference start).bind f.node? = some n := by
    rw [hid]
    exact hn
  simp only [walkVisits, hfound, hrun, hdrop]

/-- A walk leaves a trail, whose attempts are all that it attempts. -/
theorem walk_trail (f : Funnel) (ctx : StepContext) (s : Surroundings σ) (k visited : Nat)
    (start : Option String) (history : List Json.Fields) (w : World σ) :
    Trail f ctx s.policy start (walkVisits f ctx s k start w)
        (((walk f ctx k visited start history).run s w).1.map (·.1)) ∧
      ((walk f ctx k visited start history).run s w).2.attempts
        = w.attempts ++ (walkVisits f ctx s k start w).flatMap (·.tried) := by
  -- By induction on the nodes left to visit, as the walk and its log are defined.
  induction k generalizing visited start history w with
  | zero =>
    obtain ⟨j, hj, hstop⟩ := walk_stopped (σ := σ) (f := f) (.inl rfl)
    rw [(hstop s w).1, (hstop s w).2]
    exact ⟨.stopped hj, by simp⟩
  | succ k ih =>
    cases hfound : (reference start).bind f.node? with
    | none =>
      obtain ⟨j, hj, hstop⟩ := walk_stopped (σ := σ) (.inr hfound)
      rw [(hstop s w).1, (hstop s w).2]
      exact ⟨.stopped hj, by simp⟩
    | some n =>
      obtain ⟨id, hid, hn⟩ := Option.bind_eq_some_iff.mp hfound
      obtain ⟨-, tried, htried, hcame⟩ := Step.perform_came (s := s) ctx n w
      rw [run_walk_succ hid hn]
      rcases hrun : (Step.perform ctx n).run s w with ⟨result, w₁⟩
      rw [hrun] at htried hcame
      rw [walkVisits_succ hid hn hrun htried]
      cases result with
      | error cause => exact ⟨.broke hid hn hcame, by simpa using htried⟩
      | ok result =>
        cases result with
        | failed error retryable => exact ⟨.failed hid hn hcame, by simpa using htried⟩
        | suspended node resumeAt => exact ⟨.parked hid hn hcame, by simpa using htried⟩
        | advanced next sent =>
          obtain ⟨htrail, hattempts⟩ :=
            ih (visited + 1) next (history ++ [advancedEntry n sent ctx.now]) w₁
          refine ⟨.step hid hn hcame htrail, hattempts.trans ?_⟩
          rw [htried, List.flatMap_cons, List.append_assoc]

end

/-! ## Attempts and their log -/

theorem attempts_processExecution (e : Execution) (funnel : Option Funnel) (lead : Option Lead)
    (now : Calendar.Stamp) (s : Surroundings σ) (w : World σ) :
    ((processExecution e funnel lead now).run s w).2.attempts
      = w.attempts ++ (driveVisits e funnel lead now s w).flatMap (·.tried) := by
  have horphan : ∀ history, ((do
      Action.note [.execution e.id e.leadId (.orphaned e.funnelId)]
      completeExecution e.id history
      return .completed : Action σ Departure).run s w).2.attempts = w.attempts ++ [] := by
    intro history
    rw [List.append_nil]
    exact Mute.bind' (fun _ => rfl) (fun _ =>
      Mute.bind' (completeExecution_mute _ _) fun _ _ => rfl) w
  cases funnel with
  | none => exact horphan _
  | some f =>
    cases lead with
    | none => exact horphan _
    | some lead =>
      obtain ⟨-, hattempts⟩ := walk_trail f ⟨e, lead, now⟩ s s.policy.bound 0 e.currentNodeId
        e.history w
      change _ = w.attempts ++
        (walkVisits f ⟨e, lead, now⟩ s s.policy.bound e.currentNodeId w).flatMap (·.tried)
      rw [← hattempts, run_processExecution, run_bind]
      rcases (walk f ⟨e, lead, now⟩ s.policy.bound 0 e.currentNodeId e.history).run s w
        with ⟨cause | ⟨j, after⟩, w₁⟩
      · rfl
      · exact settle_mute j after w₁

section
variable (funnels : List Funnel) (leads : List Lead) (now : Calendar.Stamp) (s : Surroundings σ)
  (e : Execution) (w : World σ)

theorem run_processDue : ∃ d, ((processDue funnels leads now e).run s w).1 = .ok d ∧
    SameButNotes
      ((processExecution e (funnels.find? fun f => f.id == e.funnelId)
        (leads.find? fun l => l.id == e.leadId) now).run s w).2
      ((processDue funnels leads now e).run s w).2 := by
  have hattempt := run_attempt (processExecution e (funnels.find? fun f => f.id == e.funnelId)
    (leads.find? fun l => l.id == e.leadId) now) s w
  unfold processDue
  dsimp only
  rw [run_bind_ok hattempt]
  rcases (processExecution e (funnels.find? fun f => f.id == e.funnelId)
    (leads.find? fun l => l.id == e.leadId) now).run s w with ⟨cause | d, w₁⟩
  · exact ⟨_, rfl, .noted w₁ _⟩
  · exact ⟨_, rfl, rfl, rfl, rfl⟩

theorem attempts_processDue :
    ((processDue funnels leads now e).run s w).2.attempts
      = w.attempts ++ (dueDrive funnels leads now s e w).attempts := by
  obtain ⟨d, -, -, hattempts, -⟩ := run_processDue funnels leads now s e w
  exact hattempts.trans (attempts_processExecution e _ _ now s w)

end

theorem run_collect_cons {α β : Type} {g : α → Action σ β} {a : α} {rest : List α} {b : β}
    {bs : List β} {w w₁ w₂ : World σ} (h : (g a).run s w = (.ok b, w₁))
    (hrest : (collect g rest).run s w₁ = (.ok bs, w₂)) :
    (collect g (a :: rest)).run s w = (.ok (b :: bs), w₂) := by
  change (g a >>= fun b => collect g rest >>= fun bs => pure (b :: bs)).run s w = _
  rw [run_bind_ok h, run_bind_ok hrest]
  rfl

theorem attempts_collect (funnels : List Funnel) (leads : List Lead) (now : Calendar.Stamp)
    (s : Surroundings σ) (es : List Execution) (w : World σ) :
    (∃ departures, ((collect (processDue funnels leads now) es).run s w).1 = .ok departures) ∧
      ((collect (processDue funnels leads now) es).run s w).2.attempts
        = w.attempts ++ (driveLog funnels leads now s es w).flatMap Drive.attempts := by
  induction es generalizing w with
  | nil => exact ⟨⟨[], rfl⟩, (List.append_nil w.attempts).symm⟩
  | cons e es ih =>
    obtain ⟨d, hd, -⟩ := run_processDue funnels leads now s e w
    obtain ⟨⟨departures, hdepartures⟩, hrest⟩ :=
      ih ((processDue funnels leads now e).run s w).2
    rw [run_collect_cons (Prod.ext hd rfl) (Prod.ext hdepartures rfl)]
    refine ⟨⟨_, rfl⟩, hrest.trans ?_⟩
    rw [attempts_processDue funnels leads now s e w, List.append_assoc, driveLog,
      List.flatMap_cons]

theorem run_driveDue (funnels : List Funnel) (leads : List Lead) (now : Calendar.Stamp)
    (s : Surroundings σ) (due : List Execution) (w : World σ) :
    ((driveDue now due funnels leads).run s w).2.attempts
        = w.attempts ++ (driveLog funnels leads now s due w).flatMap Drive.attempts ∧
      ((driveDue now due funnels leads).run s w).2.database
        = ((collect (processDue funnels leads now) due).run s w).2.database := by
  obtain ⟨⟨departures, h⟩, hattempts⟩ := attempts_collect funnels leads now s due w
  obtain ⟨w', hrun, hdb, hattempts'⟩ := run_driveDue_of_collect (Prod.ext h rfl)
  rw [hrun]
  exact ⟨hattempts'.trans hattempts, hdb⟩

/-- What a pass attempts is what its log says. -/
theorem attempts_processExecutions (now : Calendar.Stamp) (s : Surroundings σ) (w : World σ) :
    ((processExecutions now).run s w).2.attempts
      = w.attempts ++ (passLog now s w).flatMap Drive.attempts := by
  rw [processExecutions_eq, run_bind]
  unfold passLog
  rcases hread : (readDue now).run s w with ⟨e | ⟨due, funnels, leads⟩, w₁⟩
  · obtain ⟨-, hattempts⟩ := (readDue_quiet s now).same_of_run hread
    exact hattempts.trans (List.append_nil w.attempts).symm
  · obtain ⟨-, hattempts⟩ := (readDue_quiet s now).same_of_run hread
    dsimp only
    rw [(run_driveDue funnels leads now s due w₁).1, hattempts]

/-! ## What stands in the log -/

section
variable {e : Execution} {due : List Execution} {funnels : List Funnel} {leads : List Lead}
  {w w₁ : World σ}

theorem driveVisits_came {funnel : Option Funnel} {lead : Option Lead} :
    ∀ v ∈ driveVisits e funnel lead now s w, ∃ f l, funnel = some f ∧ lead = some l ∧
      v.node ∈ f.nodes ∧ ∃ r, Step.Came ⟨e, l, now⟩ s.policy v.node r v.tried := by
  intro v hv
  cases funnel with
  | none => cases hv
  | some f =>
    cases lead with
    | none => cases hv
    | some l =>
      obtain ⟨htrail, -⟩ := walk_trail f ⟨e, l, now⟩ s s.policy.bound 0 e.currentNodeId e.history w
      obtain ⟨hnode, hcame⟩ := htrail.came v hv
      exact ⟨f, l, rfl, rfl, hnode, hcame⟩

theorem mem_driveLog {d : Drive} (h : d ∈ driveLog funnels leads now s due w) :
    ∃ e ∈ due, ∃ w', d = dueDrive funnels leads now s e w' := by
  induction due generalizing w with
  | nil => cases h
  | cons e due ih =>
    rcases List.mem_cons.mp h with rfl | h
    · exact ⟨e, List.mem_cons_self, w, rfl⟩
    · obtain ⟨e', he', w', hd⟩ := ih h
      exact ⟨e', List.mem_cons_of_mem e he', w', hd⟩

/-- A pass drives executions that are due, and runs nodes that came to what a handler can come
to. -/
theorem mem_passLog {d : Drive} (h : d ∈ passLog now s w) :
    d.execution.isDue now = true ∧ ∀ v ∈ d.visits,
      ∃ l r, Step.Came ⟨d.execution, l, now⟩ s.policy v.node r v.tried := by
  unfold passLog at h
  rcases hread : (readDue now).run s w with ⟨e | ⟨due, funnels, leads⟩, w₁⟩
  · rw [hread] at h
    cases h
  · rw [hread] at h
    obtain ⟨e, he, w', rfl⟩ := mem_driveLog h
    refine ⟨isDue_of_readDue hread e he, fun v hv => ?_⟩
    obtain ⟨f, l, -, -, -, r, hcame⟩ := driveVisits_came v hv
    exact ⟨l, r, hcame⟩

end

/-! ## Rows and their log -/

section
variable {funnels : List Funnel} {leads : List Lead} {templates : List TemplateRow}
  {P : ExecutionRow → Drive → ExecutionRow → Prop}

/-- In every world with these templates, driving the execution of a row changes no other row, and
what it makes of the row is related to its log. -/
def Logs (s : Surroundings σ) (now : Calendar.Stamp) (funnels : List Funnel) (leads : List Lead)
    (templates : List TemplateRow) (P : ExecutionRow → Drive → ExecutionRow → Prop)
    (r : ExecutionRow) (e : Execution) : Prop :=
  ∀ w : World σ, w.database.Keyed → r ∈ w.database.executions → w.database.templates = templates →
    ∃ r', ((processDue funnels leads now e).run s w).2.database
        = w.database.change r.id (fun _ => r') ∧
      r'.id = r.id ∧ P r (dueDrive funnels leads now s e w) r'

theorem Logs.mono {Q : ExecutionRow → Drive → ExecutionRow → Prop} {r : ExecutionRow}
    {e : Execution} (h : Logs s now funnels leads templates P r e)
    (hPQ : ∀ d r', P r d r' → Q r d r') : Logs s now funnels leads templates Q r e := by
  intro w hk hr htemplates
  obtain ⟨r', hdb, hid, hP⟩ := h w hk hr htemplates
  exact ⟨r', hdb, hid, hPQ _ _ hP⟩

/-- What is made of one row is made of each, whatever comes before it. -/
theorem collect_logs {rows : List ExecutionRow} {es : List Execution}
    (h : List.Forall₂ (Logs s now funnels leads templates P) rows es) {w : World σ}
    (hk : w.database.Keyed) (hr : ∀ r ∈ rows, r ∈ w.database.executions)
    (hnodup : (rows.map (·.id)).Nodup) (htemplates : w.database.templates = templates) :
    ∃ g, Replaced w.database rows g
        ((collect (processDue funnels leads now) es).run s w).2.database ∧
      List.Forall₂ (fun r d => P r d (g r)) rows (driveLog funnels leads now s es w) := by
  induction h generalizing w with
  | nil => exact ⟨id, .nothing w.database, .nil⟩
  | @cons r e rows es hlogs _ ih =>
    rw [List.map_cons, List.nodup_cons] at hnodup
    obtain ⟨hfresh, hnodup⟩ := hnodup
    obtain ⟨r', hdb, hid, hP⟩ := hlogs w hk (hr r List.mem_cons_self) htemplates
    obtain ⟨d, hd, -⟩ := run_processDue funnels leads now s e w
    have hk₁ : ((processDue funnels leads now e).run s w).2.database.Keyed :=
      hdb ▸ hk.change_keyed fun _ _ => hid
    -- The rows further on are still there, under their identifiers.
    have hr₁ : ∀ x ∈ rows,
        x ∈ ((processDue funnels leads now e).run s w).2.database.executions := by
      intro x hx
      rw [hdb, Database.mem_change]
      refine .inr ⟨hr x (List.mem_cons_of_mem r hx), fun heq => hfresh ?_⟩
      rw [← heq]
      exact List.mem_map_of_mem hx
    have htemplates₁ : ((processDue funnels leads now e).run s w).2.database.templates
        = templates := by
      rw [hdb]
      exact htemplates
    obtain ⟨g, hreplaced, hrest⟩ := ih hk₁ hr₁ hnodup htemplates₁
    obtain ⟨⟨departures, hdepartures⟩, -⟩ := attempts_collect funnels leads now s es
      ((processDue funnels leads now e).run s w).2
    refine ⟨fun x => if x.id = r.id then r' else g x, ?_, forall₂_cons_of_fresh hfresh hP hrest⟩
    rw [run_collect_cons (Prod.ext hd rfl) (Prod.ext hdepartures rfl)]
    exact hreplaced.cons hfresh hdb hid

theorem passLog_rows_of_reads {w w₁ : World σ} (hk : w.database.Keyed) {due : List Execution}
    {rows : List ExecutionRow} (hread : (readDue now).run s w = (.ok (due, funnels, leads), w₁))
    (hr : ∀ r ∈ rows, r ∈ w.database.executions) (hnodup : (rows.map (·.id)).Nodup)
    (h : List.Forall₂ (Logs s now funnels leads w.database.templates P) rows due) :
    ∃ g, Replaced w.database rows g ((processExecutions now).run s w).2.database ∧
      List.Forall₂ (fun r d => P r d (g r)) rows (passLog now s w) := by
  obtain ⟨hdb, -⟩ := (readDue_quiet s now).same_of_run hread
  rw [← hdb] at hk hr
  obtain ⟨g, hreplaced, hrest⟩ := collect_logs h hk hr hnodup (by rw [hdb])
  rw [processExecutions_eq, run_bind_ok hread, (run_driveDue funnels leads now s due w₁).2, passLog,
    hread]
  rw [hdb] at hreplaced
  exact ⟨g, hreplaced, hrest⟩

/-- A pass changes the rows that it drives, and what it makes of each of them is related to its
log. -/
theorem passLog_rows (now : Calendar.Stamp) (s : Surroundings σ) {w : World σ}
    (hk : w.database.Keyed)
    (h : ∀ due funnels leads, ReadsDue now w.database due funnels leads → ∀ r e, r.load = .ok e →
      Logs s now funnels leads w.database.templates P r e) :
    ∃ rows g, (∀ r ∈ rows, r ∈ w.database.due now) ∧ (rows.map (·.id)).Nodup ∧
      Replaced w.database rows g ((processExecutions now).run s w).2.database ∧
      List.Forall₂ (fun r d => P r d (g r)) rows (passLog now s w) := by
  rcases hread : (readDue now).run s w with ⟨e | ⟨due, funnels, leads⟩, w₁⟩
  · obtain ⟨hdb, -⟩ := (readDue_quiet s now).same_of_run hread
    rw [processExecutions_eq, run_bind_error hread, passLog, hread, hdb]
    exact ⟨[], id, by simp, List.nodup_nil, .nothing _, .nil⟩
  · have hreads := readDue_reads hk hread
    obtain ⟨rows, hload, hdue, hnodup⟩ := hreads.rows
    obtain ⟨g, hreplaced, hrest⟩ := passLog_rows_of_reads hk hread
      (fun r hr => (Database.mem_due.mp (hdue r hr)).1) hnodup
      (hload.imp fun r e he => h due funnels leads hreads r e he)
    exact ⟨rows, g, hdue, hnodup, hreplaced, hrest⟩

end

/-- The nodes run for the execution with the identifier. -/
def visitsFor (id : String) (log : List Drive) : List Visit :=
  (log.filter fun d => d.execution.id == id).flatMap (·.visits)

section
variable {R : ExecutionRow → Drive → Prop} {rows : List ExecutionRow} {log : List Drive}
  {r : ExecutionRow}

theorem visitsFor_of_absent {id : String}
    (h : List.Forall₂ (fun r d => d.execution.id = r.id ∧ R r d) rows log)
    (hid : id ∉ rows.map (·.id)) : visitsFor id log = [] := by
  have hfilter : log.filter (fun d => d.execution.id == id) = [] := by
    induction h with
    | nil => rfl
    | @cons r d rows log hd _ ih =>
      rw [List.map_cons, List.mem_cons, not_or] at hid
      have hne : (d.execution.id == id) = false := by
        rw [hd.1]
        exact beq_eq_false_iff_ne.mpr fun heq => hid.1 heq.symm
      rw [List.filter_cons, hne, if_neg Bool.false_ne_true]
      exact ih hid.2
  rw [visitsFor, hfilter, List.flatMap_nil]

/-- A row that was driven is driven once. -/
theorem visitsFor_of_mem
    (h : List.Forall₂ (fun r d => d.execution.id = r.id ∧ R r d) rows log)
    (hnodup : (rows.map (·.id)).Nodup) (hr : r ∈ rows) :
    ∃ d ∈ log, visitsFor r.id log = d.visits ∧ R r d := by
  induction h with
  | nil => cases hr
  | @cons r₀ d rows log hd hrest ih =>
    rw [List.map_cons, List.nodup_cons] at hnodup
    rcases List.mem_cons.mp hr with rfl | hr
    · -- none of the others has its identifier
      have hothers := visitsFor_of_absent hrest hnodup.1
      rw [visitsFor] at hothers
      refine ⟨d, List.mem_cons_self, ?_, hd.2⟩
      rw [visitsFor, List.filter_cons, hd.1, beq_self_eq_true, if_pos rfl, List.flatMap_cons,
        hothers, List.append_nil]
    · have hne : (d.execution.id == r.id) = false := by
        rw [hd.1]
        refine beq_eq_false_iff_ne.mpr fun heq => hnodup.1 ?_
        rw [heq]
        exact List.mem_map_of_mem hr
      obtain ⟨d', hd', hvisits, hR⟩ := ih hnodup.2 hr
      refine ⟨d', List.mem_cons_of_mem d hd', ?_, hR⟩
      rw [visitsFor, List.filter_cons, hne, if_neg Bool.false_ne_true]
      exact hvisits

end

/-- A pass: its surroundings, its time, and the world that it begins with. -/
structure PassRun (σ : Type) where
  surroundings : Surroundings σ
  now : Calendar.Stamp
  before : World σ

namespace PassRun

/-- The world that the pass ends with. -/
def after (p : PassRun σ) : World σ := ((processExecutions p.now).run p.surroundings p.before).2

/-- The nodes that the pass runs for an execution. -/
def visits (p : PassRun σ) (id : String) : List Visit :=
  visitsFor id (passLog p.now p.surroundings p.before)

def rowBefore (p : PassRun σ) (id : String) : Option ExecutionRow :=
  p.before.database.executions.find? fun r => r.id == id

def rowAfter (p : PassRun σ) (id : String) : Option ExecutionRow :=
  p.after.database.executions.find? fun r => r.id == id

/-- What the pass came to for the execution was written down. -/
def Recorded (p : PassRun σ) (id : String) : Prop := p.rowAfter id ≠ p.rowBefore id

end PassRun

end Nurture
