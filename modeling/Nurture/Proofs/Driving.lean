import Nurture.Engine.Trigger
import Nurture.Proofs.Traversal

/-!
  Driving one execution

  What a walk came to is recorded in one write, or not at all (`settle_writes`). With
  that, `processExecution_follows_traversal` says what driving an execution makes of
  its row, for each way in which the traversal from its node can go on:
  nothing comes next, the node parks, the funnel lacks it, the bound is reached
  before it, it fails, its handler breaks. The history gains one entry for each node passed, in
  the order of the visits, and at most one entry more.
-/

namespace Nurture

variable {σ : Type} {s : Surroundings σ} {f : Funnel} {ctx : StepContext}

/-! ## What a walk is recorded as -/

namespace Journey

/-- How an execution leaves a pass whose walk ended so. -/
def departure : Journey → Departure
  | ended | unreachable _ | looping .. => .completed
  | parked .. => .suspended
  | failed .. => .failed

/-- The entries that the end of a walk adds to the history. -/
def entries (now : Calendar.Stamp) : Journey → List Json.Fields
  | ended | failed .. => []
  | unreachable id => [historyEntry id none "unreachable" now []]
  | looping n _ => [historyEntry n.id n.kind "loop_detected" now []]
  | parked n _ resumeAt => [suspendedEntry n resumeAt now]

/-- The patch that records the walk, given its history; a failure is not recorded. -/
def patch? (now : Calendar.Stamp) (history : List Json.Fields) (j : Journey) :
    Option ExecutionPatch :=
  match j with
  | ended | unreachable _ | looping .. => some (.complete (history ++ j.entries now))
  | parked _ node resumeAt => some (.park node resumeAt (history ++ j.entries now))
  | failed .. => none

end Journey

/-- The worlds agree but for what was noted. -/
def SameButNotes (w w' : World σ) : Prop :=
  w'.database = w.database ∧ w'.attempts = w.attempts ∧ w'.outside = w.outside

section
variable {history : List Json.Fields} {p : ExecutionPatch}

theorem SameButNotes.noted (w : World σ) (events : List Journal.Event) :
    SameButNotes w { w with journal := w.journal ++ events } :=
  ⟨rfl, rfl, rfl⟩

/-- The action makes one write, with nothing but notes before and after it, and answers `d` unless
the write fails. -/
def Action.Writes (x : Action σ Departure) (s : Surroundings σ) (w : World σ) (id : String)
    (p : ExecutionPatch) (d : Departure) : Prop :=
  ∃ w₀, SameButNotes w w₀ ∧ ∀ r w₁, (Store.updateExecution id p).run s w₀ = (r, w₁) →
    ∃ w₂, SameButNotes w₁ w₂ ∧ x.run s w = (r.map fun _ => d, w₂)

theorem run_thenNote {α : Type} {x : Action σ α} {r : Except Failure α} {w w₁ : World σ}
    (h : x.run s w = (r, w₁)) (events : List Journal.Event) (d : Departure) :
    ∃ w₂, SameButNotes w₁ w₂ ∧
      (x >>= fun _ => Action.note events >>= fun _ => pure d).run s w = (r.map fun _ => d, w₂) := by
  cases r with
  | error e => exact ⟨w₁, ⟨rfl, rfl, rfl⟩, Action.run_bind_error h⟩
  | ok a =>
    rw [Action.run_bind_ok h]
    exact ⟨_, .noted w₁ events, rfl⟩

theorem run_completeExecution {id : String} {r : Except Failure (Reply Bool)} {w w₁ : World σ}
    (h : (Store.updateExecution id (.complete history)).run s w = (r, w₁)) :
    (completeExecution id history).run s w = (r.map fun _ => (), w₁) := by
  unfold completeExecution
  cases r with
  | error e => exact Action.run_bind_error h
  | ok reply => rw [Action.run_bind_ok h]; rfl

theorem noteThenComplete_writes (id : String) (events : List Journal.Event) (w : World σ) :
    (do Action.note events
        completeExecution id history
        return .completed : Action σ Departure).Writes s w id (.complete history) .completed := by
  refine ⟨_, .noted w events, fun r w₁ h => ⟨w₁, ⟨rfl, rfl, rfl⟩, ?_⟩⟩
  rw [Action.run_bind_ok (Action.run_note events s w), Action.run_bind, run_completeExecution h]
  cases r <;> rfl

/-- What a walk came to is recorded in one write. -/
theorem settle_writes {j : Journey} (hp : j.patch? ctx.now history = some p) (w : World σ) :
    (settle f ctx j history).Writes s w ctx.execution.id p j.departure := by
  cases j with
  | ended =>
    cases hp
    refine ⟨w, ⟨rfl, rfl, rfl⟩, fun r w₁ h => ?_⟩
    rw [Journey.entries, List.append_nil] at h
    obtain ⟨w₂, hsame, hrun⟩ := run_thenNote (run_completeExecution h) _ .completed
    refine ⟨w₂, hsame, hrun.trans ?_⟩
    cases r <;> rfl
  | unreachable id =>
    cases hp
    exact noteThenComplete_writes ctx.execution.id _ w
  | looping n visited =>
    cases hp
    exact noteThenComplete_writes ctx.execution.id _ w
  | parked n node resumeAt =>
    cases hp
    exact ⟨w, ⟨rfl, rfl, rfl⟩, fun r w₁ h => run_thenNote h _ .suspended⟩
  | failed n error => cases hp

theorem run_settle_failed (n : Node) (error : String) (w : World σ) :
    ∃ w₁, SameButNotes w w₁ ∧
      (settle f ctx (.failed n error) history).run s w = (.ok .failed, w₁) :=
  ⟨_, .noted w _, rfl⟩

end

/-! ## What driving makes of a row -/

/-- The action answers so, with these attempts and these tables. -/
def Action.EndsWith {α : Type} (x : Action σ α) (s : Surroundings σ) (w : World σ)
    (answer : Except Failure α) (attempts : List Attempt) (db : Database) : Prop :=
  ∃ w', x.run s w = (answer, w') ∧ w'.attempts = attempts ∧ w'.database = db

/-- How many nodes an execution may visit in one pass. -/
def Policy.bound (p : Policy) : Nat := p.maxNodes.toNat

/-- Driving an execution does what the traversal from its node does, cut off at the bound. -/
structure FollowsTraversal (f : Funnel) (e : Execution) (lead : Lead) (now : Calendar.Stamp)
    (s : Surroundings σ) (w : World σ) : Prop where
  /-- Some traversal reaches the bound or cannot go on before it. -/
  exists_traversal : ∃ visits stop w₁,
    Traversal f ⟨e, lead, now⟩ s e.currentNodeId w visits stop w₁ ∧
      visits.length ≤ s.policy.bound ∧
      (visits.length < s.policy.bound → Halts f ⟨e, lead, now⟩ s stop w₁)
  /-- Nothing comes next: the execution has ended, with one entry for each node passed. -/
  ended : ∀ {visits stop w₁}, Traversal f ⟨e, lead, now⟩ s e.currentNodeId w visits stop w₁ →
    visits.length ≤ s.policy.bound → reference stop = none →
    (processExecution e (some f) (some lead) now).EndsWith s w (.ok .completed) w₁.attempts
      (w.database.change e.id (·.ended (e.history ++ visits.map (Visit.entry now))))
  /-- The node is parked at: the execution waits where and until when the node says, with one more
  entry about it. -/
  parked : ∀ {visits stop w₁ id n node resumeAt w₂},
    Traversal f ⟨e, lead, now⟩ s e.currentNodeId w visits stop w₁ →
    visits.length < s.policy.bound → reference stop = some id → f.node? id = some n →
    (Step.perform ⟨e, lead, now⟩ n).run s w₁ = (.ok (.suspended node resumeAt), w₂) →
    (∃ m, resumeAt.toUtc = .ok m) →
    (processExecution e (some f) (some lead) now).EndsWith s w (.ok .suspended) w₂.attempts
      (w.database.change e.id (·.parkedAt node resumeAt.instant
        (e.history ++ visits.map (Visit.entry now)
          ++ [n.told "suspended" now ++ [("resume_at", .str resumeAt.isoText)]])))
  /-- The funnel lacks the node: the execution has ended, with one more entry. -/
  unreachable : ∀ {visits stop w₁ id},
    Traversal f ⟨e, lead, now⟩ s e.currentNodeId w visits stop w₁ →
    visits.length ≤ s.policy.bound → reference stop = some id → f.node? id = none →
    (processExecution e (some f) (some lead) now).EndsWith s w (.ok .completed) w₁.attempts
      (w.database.change e.id (·.ended
        (e.history ++ visits.map (Visit.entry now) ++ [toldUnseen id "unreachable" now])))
  /-- The bound is reached before a node: the execution has ended, with one more entry, and the
  node is not run. -/
  looping : ∀ {visits stop w₁ id n},
    Traversal f ⟨e, lead, now⟩ s e.currentNodeId w visits stop w₁ →
    visits.length = s.policy.bound → reference stop = some id → f.node? id = some n →
    (processExecution e (some f) (some lead) now).EndsWith s w (.ok .completed) w₁.attempts
      (w.database.change e.id (·.ended
        (e.history ++ visits.map (Visit.entry now)
          ++ [n.told "loop_detected" now])))
  /-- The node fails: nothing is recorded. -/
  failed : ∀ {visits stop w₁ id n error retryable w₂},
    Traversal f ⟨e, lead, now⟩ s e.currentNodeId w visits stop w₁ →
    visits.length < s.policy.bound → reference stop = some id → f.node? id = some n →
    (Step.perform ⟨e, lead, now⟩ n).run s w₁ = (.ok (.failed error retryable), w₂) →
    (processExecution e (some f) (some lead) now).EndsWith s w (.ok .failed) w₂.attempts w.database
  /-- The handler breaks: so does driving, and nothing is recorded. -/
  broke : ∀ {visits stop w₁ id n cause w₂},
    Traversal f ⟨e, lead, now⟩ s e.currentNodeId w visits stop w₁ →
    visits.length < s.policy.bound → reference stop = some id → f.node? id = some n →
    (Step.perform ⟨e, lead, now⟩ n).run s w₁ = (.error cause, w₂) →
    (processExecution e (some f) (some lead) now).EndsWith s w (.error cause) w₂.attempts w.database

section
variable {e : Execution} {lead : Lead} {now : Calendar.Stamp} {w w₁ w₂ : World σ}
  {j : Journey} {history : List Json.Fields}

theorem run_processExecution :
    (processExecution e (some f) (some lead) now).run s w
      = (walk f ⟨e, lead, now⟩ s.policy.bound 0 e.currentNodeId e.history
          >>= fun x => settle f ⟨e, lead, now⟩ x.1 x.2).run s w :=
  rfl

/-- What is written as the record of a walk is what the execution's row becomes. -/
theorem process_endsWith {p : ExecutionPatch} {db : Database}
    (hwalk : (walk f ⟨e, lead, now⟩ s.policy.bound 0 e.currentNodeId e.history).run s w
      = (.ok (j, history), w₁))
    (hp : j.patch? now history = some p)
    (hwrite : ∀ w₀, SameButNotes w₁ w₀ → ∃ w', (Store.updateExecution e.id p).run s w₀
      = (.ok (.own true), w') ∧ w'.attempts = w₀.attempts ∧ w'.database = db) :
    (processExecution e (some f) (some lead) now).EndsWith s w
      (.ok j.departure) w₁.attempts db := by
  obtain ⟨w₀, hsame, hrest⟩ := @settle_writes σ s f ⟨e, lead, now⟩ history p j hp w₁
  obtain ⟨w', hrun, hattempts, hdb⟩ := hwrite w₀ hsame
  obtain ⟨w₃, hsame', hsettle⟩ := hrest _ _ hrun
  refine ⟨w₃, ?_, ?_, ?_⟩
  · rw [run_processExecution, Action.run_bind_ok hwalk]
    exact hsettle
  · rw [hsame'.2.1, hattempts, hsame.2.1]
  · rw [hsame'.1, hdb]

variable {row : ExecutionRow} {visits : List Visit} {stop : Option String}

/-- The walk of an execution, from where a traversal within the bound stands. -/
theorem run_walk_of_traversal
    (ht : Traversal f ⟨e, lead, now⟩ s e.currentNodeId w visits stop w₁)
    (hk : visits.length ≤ s.policy.bound) :
    (walk f ⟨e, lead, now⟩ s.policy.bound 0 e.currentNodeId e.history).run s w
      = (walk f ⟨e, lead, now⟩ (s.policy.bound - visits.length) visits.length stop
          (e.history ++ visits.map (Visit.entry now))).run s w₁ := by
  rw [ht.run_walk hk, Nat.zero_add]

theorem run_walk_of_bounded {id : String} {n : Node}
    (ht : Traversal f ⟨e, lead, now⟩ s e.currentNodeId w visits stop w₁)
    (hlt : visits.length < s.policy.bound) (hid : reference stop = some id)
    (hn : f.node? id = some n) :
    (walk f ⟨e, lead, now⟩ s.policy.bound 0 e.currentNodeId e.history).run s w
      = match (Step.perform ⟨e, lead, now⟩ n).run s w₁ with
        | (.ok (.failed error _), w') =>
          (.ok (.failed n error, e.history ++ visits.map (Visit.entry now)), w')
        | (.ok (.suspended node resumeAt), w') =>
          (.ok (.parked n node resumeAt, e.history ++ visits.map (Visit.entry now)), w')
        | (.ok (.advanced next sent), w') =>
          (walk f ⟨e, lead, now⟩ (s.policy.bound - visits.length - 1) (visits.length + 1) next
            (e.history ++ visits.map (Visit.entry now) ++ [advancedEntry n sent now])).run s w'
        | (.error cause, w') => (.error cause, w') := by
  obtain ⟨k, hk⟩ : ∃ k, s.policy.bound - visits.length = k + 1 :=
    ⟨s.policy.bound - visits.length - 1, by omega⟩
  rw [run_walk_of_traversal ht (Nat.le_of_lt hlt), hk]
  exact run_walk_succ hid hn

theorem database_of_perform {n : Node} {r : Except Failure StepResult}
    (ht : Traversal f ⟨e, lead, now⟩ s e.currentNodeId w visits stop w₁)
    (hrun : (Step.perform ⟨e, lead, now⟩ n).run s w₁ = (r, w₂)) : w₂.database = w.database := by
  have hdb := (Step.perform_came (s := s) ⟨e, lead, now⟩ n w₁).1
  rw [hrun] at hdb
  exact hdb.trans ht.database_eq

theorem process_failed {id error : String} {n : Node} {retryable : Bool}
    (ht : Traversal f ⟨e, lead, now⟩ s e.currentNodeId w visits stop w₁)
    (hlt : visits.length < s.policy.bound) (hid : reference stop = some id)
    (hn : f.node? id = some n)
    (hrun : (Step.perform ⟨e, lead, now⟩ n).run s w₁ = (.ok (.failed error retryable), w₂)) :
    (processExecution e (some f) (some lead) now).EndsWith s w (.ok .failed) w₂.attempts
      w.database := by
  have hwalk := run_walk_of_bounded ht hlt hid hn
  rw [hrun] at hwalk
  obtain ⟨w₃, hsame, hsettle⟩ := @run_settle_failed σ s f ⟨e, lead, now⟩
    (e.history ++ visits.map (Visit.entry now)) n error w₂
  refine ⟨w₃, ?_, hsame.2.1, hsame.1.trans (database_of_perform ht hrun)⟩
  rw [run_processExecution, Action.run_bind_ok hwalk]
  exact hsettle

theorem process_broke {id : String} {n : Node} {cause : Failure}
    (ht : Traversal f ⟨e, lead, now⟩ s e.currentNodeId w visits stop w₁)
    (hlt : visits.length < s.policy.bound) (hid : reference stop = some id)
    (hn : f.node? id = some n)
    (hrun : (Step.perform ⟨e, lead, now⟩ n).run s w₁ = (.error cause, w₂)) :
    (processExecution e (some f) (some lead) now).EndsWith s w (.error cause) w₂.attempts
      w.database := by
  have hwalk := run_walk_of_bounded ht hlt hid hn
  rw [hrun] at hwalk
  refine ⟨w₂, ?_, rfl, database_of_perform ht hrun⟩
  rw [run_processExecution, Action.run_bind_error hwalk]

section
variable (hkeyed : w.database.Keyed) (hr : row ∈ w.database.executions) (hload : row.load = .ok e)
  (hclock : Calendar.inRange s.databaseClock.instant = true)
  (hs : ∀ o, (s.interrupt .updateExecution o).1 = none)
include hkeyed hr hload hclock hs

theorem process_completes
    (hdb : w₁.database = w.database)
    (hwalk : (walk f ⟨e, lead, now⟩ s.policy.bound 0 e.currentNodeId e.history).run s w
      = (.ok (j, e.history ++ visits.map (Visit.entry now)), w₁))
    (hp : ∀ history, j.patch? now history = some (.complete (history ++ j.entries now))) :
    (processExecution e (some f) (some lead) now).EndsWith s w (.ok j.departure) w₁.attempts
      (w.database.change e.id (·.ended
        (e.history ++ visits.map (Visit.entry now) ++ j.entries now))) := by
  obtain ⟨status, history, -, hh, rfl⟩ := ExecutionRow.load_eq_ok_iff.mp hload
  refine process_endsWith hwalk (hp _) fun w₀ hsame => ?_
  have hdb : w₀.database = w.database := hsame.1.trans hdb
  rw [← hdb] at hkeyed hr ⊢
  rw [List.append_assoc]
  exact Store.complete_of_none hkeyed hr hh (hs _) hclock

theorem process_parks {n : Node} {node : String} {resumeAt : Calendar.Stamp}
    (hdb : w₂.database = w.database)
    (hwalk : (walk f ⟨e, lead, now⟩ s.policy.bound 0 e.currentNodeId e.history).run s w
      = (.ok (.parked n node resumeAt, e.history ++ visits.map (Visit.entry now)), w₂))
    (hnode : Text.isWhole node = true) (htime : ∃ m, resumeAt.toUtc = .ok m) :
    (processExecution e (some f) (some lead) now).EndsWith s w (.ok .suspended) w₂.attempts
      (w.database.change e.id (·.parkedAt node resumeAt.instant
        (e.history ++ visits.map (Visit.entry now)
          ++ [n.told "suspended" now ++ [("resume_at", .str resumeAt.isoText)]]))) := by
  obtain ⟨status, history, -, hh, rfl⟩ := ExecutionRow.load_eq_ok_iff.mp hload
  refine process_endsWith hwalk rfl fun w₀ hsame => ?_
  have hdb : w₀.database = w.database := hsame.1.trans hdb
  rw [← hdb] at hkeyed hr ⊢
  rw [List.append_assoc, List.append_assoc]
  exact Store.park_of_none hkeyed hr hh (hs _) hclock hnode htime

theorem process_ended (ht : Traversal f ⟨e, lead, now⟩ s e.currentNodeId w visits stop w₁)
    (hle : visits.length ≤ s.policy.bound) (hstop : reference stop = none) :
    (processExecution e (some f) (some lead) now).EndsWith s w (.ok .completed) w₁.attempts
      (w.database.change e.id (·.ended (e.history ++ visits.map (Visit.entry now)))) := by
  have hwalk := (run_walk_of_traversal ht hle).trans (run_walk_ended hstop)
  have h := process_completes hkeyed hr hload hclock hs ht.database_eq hwalk fun _ => rfl
  rwa [Journey.entries, List.append_nil] at h

theorem process_unreachable {id : String}
    (ht : Traversal f ⟨e, lead, now⟩ s e.currentNodeId w visits stop w₁)
    (hle : visits.length ≤ s.policy.bound) (hid : reference stop = some id)
    (hn : f.node? id = none) :
    (processExecution e (some f) (some lead) now).EndsWith s w (.ok .completed) w₁.attempts
      (w.database.change e.id (·.ended (e.history ++ visits.map (Visit.entry now)
        ++ [toldUnseen id "unreachable" now]))) := by
  have hwalk := (run_walk_of_traversal ht hle).trans (run_walk_unreachable hid hn)
  exact process_completes hkeyed hr hload hclock hs ht.database_eq hwalk fun _ => rfl

theorem process_looping {id : String} {n : Node}
    (ht : Traversal f ⟨e, lead, now⟩ s e.currentNodeId w visits stop w₁)
    (hlen : visits.length = s.policy.bound) (hid : reference stop = some id)
    (hn : f.node? id = some n) :
    (processExecution e (some f) (some lead) now).EndsWith s w (.ok .completed) w₁.attempts
      (w.database.change e.id (·.ended (e.history ++ visits.map (Visit.entry now)
        ++ [n.told "loop_detected" now]))) := by
  have hwalk := run_walk_of_traversal ht (Nat.le_of_eq hlen)
  rw [hlen, Nat.sub_self, run_walk_looping hid hn] at hwalk
  exact process_completes hkeyed hr hload hclock hs ht.database_eq hwalk fun _ => rfl

theorem process_parked (hf : f.Validated) {id node : String} {n : Node}
    {resumeAt : Calendar.Stamp}
    (ht : Traversal f ⟨e, lead, now⟩ s e.currentNodeId w visits stop w₁)
    (hlt : visits.length < s.policy.bound) (hid : reference stop = some id)
    (hn : f.node? id = some n)
    (hrun : (Step.perform ⟨e, lead, now⟩ n).run s w₁ = (.ok (.suspended node resumeAt), w₂))
    (htime : ∃ m, resumeAt.toUtc = .ok m) :
    (processExecution e (some f) (some lead) now).EndsWith s w (.ok .suspended) w₂.attempts
      (w.database.change e.id (·.parkedAt node resumeAt.instant
        (e.history ++ visits.map (Visit.entry now)
          ++ [n.told "suspended" now ++ [("resume_at", .str resumeAt.isoText)]]))) := by
  have hwalk := run_walk_of_bounded ht hlt hid hn
  rw [hrun] at hwalk
  obtain ⟨-, tried, -, hcame⟩ := Step.perform_came (s := s) ⟨e, lead, now⟩ n w₁
  rw [hrun] at hcame
  -- The node that is parked at is one of the funnel's, so a column can hold its identifier.
  have hmem := hcame.waits.mem_ids hf (mem_of_findNode hn)
  exact process_parks hkeyed hr hload hclock hs (database_of_perform ht hrun) hwalk
    (hf.id_whole_of_mem_ids hmem) htime

/-- Driving a stored execution whose funnel and lead are there does what the traversal does. -/
theorem processExecution_follows_traversal (hf : f.Validated) :
    FollowsTraversal f e lead now s w where
  exists_traversal := exists_traversal f ⟨e, lead, now⟩ s e.currentNodeId w s.policy.bound
  ended := process_ended hkeyed hr hload hclock hs
  parked := process_parked hkeyed hr hload hclock hs hf
  unreachable := process_unreachable hkeyed hr hload hclock hs
  looping := process_looping hkeyed hr hload hclock hs
  failed := process_failed
  broke := process_broke

end

end

/-! ## A newsletter that pauses -/

/-- Surroundings in which every message is accepted and no call is interrupted. -/
def Surroundings.calm (clock : Calendar.Stamp) (policy : Policy) : Surroundings Unit :=
  ⟨clock, clock, policy, fun _ _ => (.accepted, ()), fun _ _ => (none, ())⟩

/-- Usual rules for a zone and a bound. -/
def Policy.usual (zone : Calendar.Zone) (maxNodes : Int) : Policy :=
  ⟨zone, .whole 60, .whole 90, true, maxNodes, "friend", 24, by decide⟩

namespace Newsletter

/-- A letter, after which there is a pause. -/
def letter : Node :=
  ⟨⟨"letter", .origin⟩, .email ⟨none, some "News", some "Welcome", []⟩ (some "pause")⟩

/-- A pause of an hour, after which there is the letter again. -/
def pause : Node := ⟨⟨"pause", .origin⟩, .delay ⟨none, 1, []⟩ (some "letter")⟩

def funnel : Funnel :=
  ⟨"funnel-1", "Newsletter", Trigger.leadSubscribed, true, [letter, pause], some "letter"⟩

def lead : Lead :=
  { id := "lead-1", email := "ada@example.com", name := "Ada", phone := "", status := Lead.active,
    tags := [], stage := "new", source := none, createdAt := none }

/-- An execution that is to begin with the letter. -/
def row : ExecutionRow :=
  ⟨"exec-1", funnel.id, lead.id, some "letter", Status.waiting.name, 0, .arr [], [], 0⟩

def execution : Execution := row.toExecution .waiting []

/-- The start of the calendar, on a UTC clock. -/
def start : Calendar.Stamp := .ahead 0 0

def surroundings : Surroundings Unit := .calm start (.usual .utc 2)

def world : World Unit := { World.fresh () with database := ⟨[], [row], [], []⟩ }

theorem validated : funnel.Validated :=
  ⟨Graph.fault?_eq_none_iff.mp (by decide), by decide, by decide⟩

theorem keyed : world.database.Keyed := ⟨by decide, by decide⟩

theorem load_row : row.load = .ok execution :=
  ExecutionRow.load_eq_ok_iff.mpr ⟨.waiting, [], rfl, .inl rfl, rfl⟩

/-- The letter is sent, and the execution is parked for an hour by the second node, the last one
that the bound admits. -/
theorem letter_then_pause :
    (funnel.Validated ∧ world.database.Keyed ∧ row ∈ world.database.executions ∧
      row.load = .ok execution ∧ Calendar.inRange surroundings.databaseClock.instant = true ∧
      ∀ o, (surroundings.interrupt .updateExecution o).1 = none) ∧
    (processExecution execution (some funnel) (some lead) start).EndsWith surroundings world
      (.ok .suspended) [⟨.email lead.email "News" "Welcome", false⟩]
      (world.database.change row.id (·.parkedAt "letter" Calendar.hour
        [[("node_id", .str "letter"), ("node_type", .str "EMAIL"), ("outcome", .str "advanced"),
            ("at", .str start.isoText), ("sent", .bool true)],
          [("node_id", .str "pause"), ("node_type", .str "DELAY"), ("outcome", .str "suspended"),
            ("at", .str start.isoText),
            ("resume_at", .str (Calendar.Stamp.ahead Calendar.hour 0).isoText)]])) := by
  have hr : row ∈ world.database.executions := List.mem_singleton_self row
  have hclock : Calendar.inRange surroundings.databaseClock.instant = true := by decide
  have hs : ∀ o, (surroundings.interrupt .updateExecution o).1 = none := fun _ => rfl
  have hletter : (Step.perform ⟨execution, lead, start⟩ letter).run surroundings world
      = (.ok (.advanced (some "pause") true),
          { world with attempts := [⟨.email lead.email "News" "Welcome", false⟩] }) := by
    cbv
  refine ⟨⟨validated, keyed, hr, load_row, hclock, hs⟩, ?_⟩
  exact (processExecution_follows_traversal keyed hr load_row hclock hs validated).parked
    (.step rfl rfl hletter rfl (.stay _ _)) (by decide) rfl rfl rfl ⟨_, rfl⟩

end Newsletter

end Nurture
