import Nurture.Proofs.StepParts
import Nurture.Proofs.Validated

/-!
  What running a node comes to

  `Step.Came` lists what the handler of a node can come to, with the messages
  attempted meanwhile: at most one message, and the answer tells of it exactly when it was
  accepted. `Step.Waits` lists the nodes and times at which an execution can be
  parked. The theorem `Step.perform_came` is all that later proofs use of
  the handlers.
-/

namespace Nurture

variable {σ : Type} {s : Surroundings σ}

namespace Step

open Nurture.Action

/-! ## What a handler comes to -/

/-- The node is a delay, and there is a node at which to go on after it. -/
def Delays (n : Node) (data : DelayData) (node : String) : Prop :=
  ∃ next, n.task = .delay data next ∧ reference next = some node

/-- How many hours a delay lasts. -/
def delayHours (policy : Policy) (data : DelayData) : Nat :=
  if data.hours = 0 then policy.defaultHours else data.hours

theorem delayHours_pos (policy : Policy) (data : DelayData) : 0 < delayHours policy data := by
  unfold delayHours
  split
  · exact policy.defaultHours_pos
  · rename_i hne
    exact Nat.pos_of_ne_zero hne

theorem hour_le_of_delayHours {policy : Policy} {data : DelayData} {span : Int}
    (hspan : Calendar.Span.ofHours (delayHours policy data) = .ok span) :
    Calendar.hour ≤ span := by
  have hpos : (1 : Int) ≤ delayHours policy data := by exact_mod_cast delayHours_pos policy data
  calc Calendar.hour = 1 * Calendar.hour := (Int.one_mul _).symm
    _ ≤ delayHours policy data * Calendar.hour := Int.mul_le_mul_of_nonneg_right hpos (by decide)
    _ = span := (Calendar.Span.ofHours_eq hspan).symm

/-- The nodes at which an execution is parked by a node, and until when: a delay parks at the node
that comes next, a closed window at the node itself. -/
inductive Waits (ctx : StepContext) (policy : Policy) (n : Node) : String → Calendar.Stamp → Prop
  | delay {data : DelayData} {node : String} {span : Int} {resumeAt : Calendar.Stamp}
      (hdelays : Delays n data node)
      (hspan : Calendar.Span.ofHours (delayHours policy data) = .ok span)
      (hadd : ctx.now.add span = .ok resumeAt) : Waits ctx policy n node resumeAt
  | window {data : WhatsAppData} {next : Option String} {sendTime : String} {w : Calendar.Moment}
      (htask : n.task = .whatsApp data next)
      (hwindow : windowToAwait ctx data policy = .ok (some (sendTime, w))) :
      Waits ctx policy n n.id w.toStamp

theorem Delays.mem_successors {n : Node} {data : DelayData} {node : String}
    (h : Delays n data node) : node ∈ n.successors := by
  obtain ⟨next, htask, hnode⟩ := h
  rw [Node.successors, htask, Task.successors, hnode]
  exact List.mem_singleton_self node

/-- What comes next, if anything does, comes after the node in its funnel. -/
def LeadsTo (n : Node) (next : Option String) : Prop :=
  ∀ id, reference next = some id → id ∈ n.successors

/-- The messages that a node hands over: to the address of the lead, or to its phone if there is
no window to wait for. -/
inductive Sends (ctx : StepContext) (policy : Policy) (n : Node) : Message → Prop
  | email {data : EmailData} {next : Option String} (htask : n.task = .email data next)
      (subject body : String) : Sends ctx policy n (.email ctx.lead.email subject body)
  | whatsApp {data : WhatsAppData} {next : Option String} (htask : n.task = .whatsApp data next)
      (hwindow : windowToAwait ctx data policy = .ok none) (text : String) :
      Sends ctx policy n (.whatsApp ctx.lead.phone plainTextOnly [] text)

/-- What running a node comes to, and the messages attempted meanwhile. -/
inductive Came (ctx : StepContext) (policy : Policy) (n : Node) :
    Except Failure StepResult → List Attempt → Prop
  | passed (next : Option String) (hnext : LeadsTo n next)
      (hdelays : ∀ data node, ¬ Delays n data node) :
      Came ctx policy n (.ok (.advanced next false)) []
  | sent (next : Option String) (m : Message) (hnext : LeadsTo n next)
      (hm : Sends ctx policy n m) : Came ctx policy n (.ok (.advanced next true)) [⟨m, false⟩]
  | refused (error : String) (m : Message) (hm : Sends ctx policy n m) :
      Came ctx policy n (.ok (.failed error true)) [⟨m, true⟩]
  | parked {node : String} {resumeAt : Calendar.Stamp} (h : Waits ctx policy n node resumeAt) :
      Came ctx policy n (.ok (.suspended node resumeAt)) []
  | broke (cause : Failure) : Came ctx policy n (.error cause) []

section
variable {ctx : StepContext} {policy : Policy} {n : Node} {tried : List Attempt}

theorem Came.sent_eq {next : Option String} {sent : Bool}
    (h : Came ctx policy n (.ok (.advanced next sent)) tried) :
    (tried.any fun a => !a.refused) = sent := by
  cases h <;> rfl

theorem Came.sends {r : Except Failure StepResult} (h : Came ctx policy n r tried) :
    ∀ a ∈ tried, Sends ctx policy n a.message := by
  cases h with
  | sent next m hnext hm => simpa using hm
  | refused error m hm => simpa using hm
  | passed | parked | broke => simp

theorem Came.length_le {r : Except Failure StepResult} (h : Came ctx policy n r tried) :
    tried.length ≤ 1 := by
  cases h with
  | sent | refused => exact Nat.le_refl 1
  | passed | parked | broke => exact Nat.zero_le 1

theorem Came.leadsTo {next : Option String} {sent : Bool}
    (h : Came ctx policy n (.ok (.advanced next sent)) tried) : LeadsTo n next := by
  cases h with
  | passed next hnext hdelays => exact hnext
  | sent next m hnext hm => exact hnext

theorem Came.unsent {r : Except Failure StepResult} (h : Came ctx policy n r tried)
    (hr : ∀ next sent, r ≠ .ok (.advanced next sent)) :
    (tried.any fun a => !a.refused) = false := by
  cases h with
  | sent next m hnext hm => exact absurd rfl (hr next true)
  | refused | passed | parked | broke => rfl

theorem Came.waits {node : String} {resumeAt : Calendar.Stamp}
    (h : Came ctx policy n (.ok (.suspended node resumeAt)) tried) :
    Waits ctx policy n node resumeAt := by
  cases h with
  | parked h => exact h

/-- A delay parks at the node after it, or breaks; no message is attempted. -/
theorem Came.of_delays {r : Except Failure StepResult} {data : DelayData} {node : String}
    (h : Came ctx policy n r tried) (hn : Delays n data node) :
    tried = [] ∧ ((∃ cause, r = .error cause) ∨ ∃ span resumeAt,
      Calendar.Span.ofHours (delayHours policy data) = .ok span ∧
      ctx.now.add span = .ok resumeAt ∧ r = .ok (.suspended node resumeAt)) := by
  obtain ⟨next, htask, hnode⟩ := hn
  have hsends : ∀ m, ¬ Sends ctx policy n m := by
    intro m hm
    cases hm with
    | email htask' => cases htask.symm.trans htask'
    | whatsApp htask' => cases htask.symm.trans htask'
  cases h with
  | passed next' hnext hdelays => exact absurd ⟨next, htask, hnode⟩ (hdelays data node)
  | sent next' m hnext hm => exact absurd hm (hsends m)
  | refused error m hm => exact absurd hm (hsends m)
  | broke cause => exact ⟨rfl, .inl ⟨cause, rfl⟩⟩
  | parked hwaits =>
    cases hwaits with
    | window htask' => cases htask.symm.trans htask'
    | delay hdelays hspan hadd =>
      obtain ⟨next', htask', hnode'⟩ := hdelays
      obtain ⟨rfl, rfl⟩ := Task.delay.inj (htask.symm.trans htask')
      obtain rfl := Option.some.inj (hnode.symm.trans hnode')
      exact ⟨rfl, .inr ⟨_, _, hspan, hadd, rfl⟩⟩

theorem Waits.mem_ids {f : Funnel} {node : String} {resumeAt : Calendar.Stamp}
    (hf : f.Validated) (hn : n ∈ f.nodes) (h : Waits ctx policy n node resumeAt) :
    node ∈ Graph.ids f.nodes := by
  cases h with
  | delay hdelays => exact hf.graph.reference_mem n hn node hdelays.mem_successors
  | window => exact List.mem_map_of_mem hn

end

variable (ctx : StepContext) (n : Node)

theorem render_still (template : String) :
    Takes World.Still s (render ctx template : Action σ String) :=
  Closed.takes.render ctx template

theorem whatsAppText_still (nodeId : String) (data : WhatsAppData) :
    Takes World.Still s (whatsAppText ctx nodeId data) :=
  Closed.takes.whatsAppText ctx nodeId data

/-- Handing over a message ends a handler: the node was passed, or it failed. -/
theorem deliver_came {m : Message} {next : Option String} {error : Failure → String}
    {event : Failure → Journal.Event} (hnext : LeadsTo n next) (hm : Sends ctx s.policy n m) :
    Tries s (do
      match ← Action.deliver m with
      | none => return StepResult.advanced next true
      | some cause =>
        Action.note [event cause]
        return .failed (error cause) true : Action σ StepResult) (Came ctx s.policy n) := by
  refine Tries.bind' (Tries.deliver' m) ?_ ?_
  · rintro refusal _ ⟨refusal', h, rfl⟩
    obtain rfl : refusal = refusal' := Except.ok.inj h
    -- The answer of the sender decides, and it is all that is looked at.
    cases refusal with
    | none => exact Tries.pure' (.sent next m hnext hm)
    | some cause =>
      refine Tries.bind' (Tries.note' _) ?_ ?_
      · rintro _ _ ⟨-, rfl⟩
        exact Tries.pure' (.refused (error cause) m hm)
      · rintro e _ ⟨he, -⟩
        cases he
  · rintro e _ ⟨_, he, -⟩
    cases he

theorem leadsTo_of_successors {next : Option String}
    (h : n.task.successors = (reference next).toList) : LeadsTo n next := by
  intro id hid
  rw [Node.successors, h, hid]
  exact List.mem_singleton_self id

theorem not_delays {task : Task} (htask : n.task = task)
    (h : ∀ data next, task ≠ .delay data next) : ∀ data node, ¬ Delays n data node := by
  rintro data node ⟨next, hdelay, -⟩
  exact h data next (htask.symm.trans hdelay)

theorem email_came {data : EmailData} {next : Option String} (htask : n.task = .email data next) :
    Tries s (email ctx n.id data next) (Came ctx s.policy n) := by
  have hnext : LeadsTo n next := leadsTo_of_successors n (by rw [htask]; rfl)
  have hnot := not_delays n htask (by simp)
  unfold email
  split
  · refine Tries.afterQuiet (render_still ctx _).quiet (fun subject => ?_) .broke
    refine Tries.afterQuiet (render_still ctx _).quiet (fun body => ?_) .broke
    exact deliver_came ctx n hnext (.email htask _ _)
  · exact Tries.afterQuiet (Quiet.note' _) (fun _ => Tries.pure' (.passed next hnext hnot)) .broke

/-- A window that is awaited is closed, and it is the next one. -/
theorem windowToAwait_eq_some {ctx : StepContext} {data : WhatsAppData} {policy : Policy}
    {sendTime : String} {w : Calendar.Moment}
    (h : windowToAwait ctx data policy = .ok (some (sendTime, w))) :
    SendWindow.isOpen sendTime ctx.execution.nextRunAt ctx.now policy.zone policy.tolerance
        policy.grace = .ok false ∧
      SendWindow.next sendTime ctx.now policy.zone = .ok w := by
  unfold windowToAwait at h
  split at h
  · cases h
  · obtain ⟨isOpen, hisOpen, h⟩ := bind_eq_ok_iff.mp h
    cases isOpen with
    | true => cases h
    | false =>
      obtain ⟨w', hw', h⟩ := bind_eq_ok_iff.mp h
      cases h
      exact ⟨hisOpen, hw'⟩

/-- A node with a send time has no window to wait for only if its window is open. -/
theorem isOpen_of_windowToAwait {ctx : StepContext} {data : WhatsAppData} {policy : Policy}
    {sendTime : String} (htime : filled data.sendTime = some sendTime)
    (h : windowToAwait ctx data policy = .ok none) :
    SendWindow.isOpen sendTime ctx.execution.nextRunAt ctx.now policy.zone policy.tolerance
      policy.grace = .ok true := by
  unfold windowToAwait at h
  rw [htime] at h
  obtain ⟨isOpen, hisOpen, h⟩ := bind_eq_ok_iff.mp h
  cases isOpen with
  | true => exact hisOpen
  | false =>
    obtain ⟨w, -, h⟩ := bind_eq_ok_iff.mp h
    cases h

theorem whatsApp_came {data : WhatsAppData} {next : Option String}
    (htask : n.task = .whatsApp data next) :
    Tries s (whatsApp ctx n.id data next) (Came ctx s.policy n) := by
  have hnext : LeadsTo n next := leadsTo_of_successors n (by rw [htask]; rfl)
  have hnot := not_delays n htask (by simp)
  refine Tries.afterPolicy ?_
  refine Tries.afterOfExcept (fun window hwindow => ?_) .broke
  cases window with
  | some window =>
    obtain ⟨sendTime, w⟩ := window
    refine Tries.afterQuiet (Quiet.note' _) (fun _ => Tries.pure' ?_) .broke
    exact .parked (.window htask hwindow)
  | none =>
    dsimp only
    split
    · exact Tries.afterQuiet (Quiet.note' _) (fun _ => Tries.pure' (.passed next hnext hnot)) .broke
    · refine Tries.afterQuiet (whatsAppText_still ctx n.id data).quiet (fun text => ?_) .broke
      cases text with
      | none => exact Tries.pure' (.passed next hnext hnot)
      | some text => exact deliver_came ctx n hnext (.whatsApp htask hwindow _)

theorem delay_came {data : DelayData} {next : Option String} (htask : n.task = .delay data next) :
    Tries s (delay ctx data next) (Came ctx s.policy n) := by
  refine Tries.afterPolicy ?_
  cases hnode : reference next with
  | none =>
    refine Tries.pure' (.passed none (fun id hid => by cases hid) ?_)
    rintro data' node ⟨next', htask', hnode'⟩
    obtain ⟨-, rfl⟩ := Task.delay.inj (htask.symm.trans htask')
    rw [hnode] at hnode'
    cases hnode'
  | some node =>
    refine Tries.afterOfExcept (fun span hspan => ?_) .broke
    refine Tries.afterOfExcept (fun resumeAt hadd => ?_) .broke
    rw [mapError_eq_ok_iff] at hspan hadd
    refine Tries.pure' (.parked ?_)
    exact .delay ⟨next, htask, hnode⟩ hspan hadd

theorem execute_came : Tries s (execute ctx n) (Came ctx s.policy n) := by
  unfold execute
  cases htask : n.task with
  | email data next => exact email_came ctx n htask
  | whatsApp data next => exact whatsApp_came ctx n htask
  | delay data next => exact delay_came ctx n htask
  | condition data ifTrue ifFalse =>
    refine Tries.pure' (.passed _ (fun id hid => ?_) (not_delays n htask (by intro _ _ h; cases h)))
    rw [Node.successors, htask, Task.successors, List.mem_append]
    cases hholds : data.holds ctx.lead with
    | true => exact .inl (by simpa [hholds] using hid)
    | false => exact .inr (by simpa [hholds] using hid)

/-- Whatever comes in the way of a handler, it comes to one of the listed things. -/
theorem perform_came : Tries s (perform ctx n) (Came ctx s.policy n) := by
  have hcall : Tries s (guarded .runNode (execute ctx n)) fun r tried =>
      ∀ r', r.bind (·.record "outcome") = r' → Came ctx s.policy n r' tried := by
    refine Tries.guarded' ?_ ?_ ?_
    · refine Tries.mono (execute_came ctx n) ?_
      rintro (e | result) tried h r' rfl
      · exact h
      · exact h
    · rintro e r' rfl
      exact .broke e
    · -- data in place of a result is none, whatever it is
      rintro j r' rfl
      exact .broke _
  refine Tries.bind' hcall ?_ ?_
  · intro reply tried h
    refine Tries.ofExcept' ?_
    rw [List.append_nil]
    exact h _ rfl
  · intro e tried h
    exact h _ rfl

end Step

end Nurture
