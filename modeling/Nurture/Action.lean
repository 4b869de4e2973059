import Nurture.Calendar.Zone
import Nurture.Reply
import Nurture.World

/-!
  Actions

  An action is an operation of the engine: given the surroundings it takes a
  world to a result, or a failure, and a world. What happened before a failure
  stays. The surroundings are the clocks of the engine and of the database, the
  rules in force, and the outside: how it receives messages and when it
  interrupts a call of the store or of the handler of a node. Both answers may
  depend on its state in any way.

  The equations `run_pure` to `run_attempt` say what running each way of
  building an action comes to.
-/

namespace Nurture

/-- The rules in force. -/
structure Policy where
  /-- The zone of the send windows. -/
  zone : Calendar.Zone
  /-- How far from its window an execution may be parked, in seconds. -/
  tolerance : Calendar.Amount
  /-- How late a message may be sent in its window, in seconds. -/
  grace : Calendar.Amount
  /-- Whether a lead runs a funnel at most once at a time. -/
  dedupe : Bool
  /-- How many nodes an execution may visit in one pass. -/
  maxNodes : Int
  /-- The name of leads that have none. -/
  defaultName : String
  /-- How many hours a delay lasts that does not say. -/
  defaultHours : Nat
  defaultHours_pos : 0 < defaultHours := by decide

/-- The calls of the store, the directory of leads, the templates and the handlers of
nodes. -/
inductive Call where
  | listFunnels
  | getFunnel
  | saveFunnel
  | deleteFunnel
  | listExecutions
  | getExecution
  | createExecution
  | updateExecution
  | allLeads
  | listLeads
  | getLead
  | leadByEmail
  | subscribe
  | updateLead
  | updateStage
  | addTag
  | deleteLead
  | saveTemplate
  | getTemplate
  | listTemplates
  | runNode
  deriving DecidableEq, Repr

/-- What comes in the way of a call: it breaks, or something else answers it. -/
inductive Interruption where
  | breaks (reason : String)
  | answers (value : Json)

/-- How the outside takes a message: it may refuse it, and leave notes. -/
structure Receipt where
  refusal : Option Failure
  notes : List Journal.Event

/-- The receipt of a message that is accepted without ado. -/
def Receipt.accepted : Receipt := ⟨none, []⟩

/-- What surrounds the engine. -/
structure Surroundings (σ : Type) where
  clock : Calendar.Stamp
  /-- The clock of the database, which dates the rows. -/
  databaseClock : Calendar.Stamp
  policy : Policy
  deliver : Message → σ → Receipt × σ
  interrupt : Call → σ → Option Interruption × σ

/-- An operation of the engine. -/
def Action (σ α : Type) : Type := Surroundings σ → World σ → Except Failure α × World σ

namespace Action

variable {σ α β : Type}

/-- What an action does in given surroundings and a given world. -/
def run (x : Action σ α) (s : Surroundings σ) (w : World σ) : Except Failure α × World σ := x s w

/-- Goes on with the result of an action, unless it failed. -/
def andThen (x : Action σ α) (f : α → Action σ β) : Action σ β := fun s w =>
  match x s w with
  | (.ok a, w') => f a s w'
  | (.error e, w') => (.error e, w')

instance : Monad (Action σ) where
  pure a := fun _ w => (.ok a, w)
  bind := andThen

def fail (e : Failure) : Action σ α := fun _ w => (.error e, w)

/-- The result of an action, be it a failure. -/
def attempt (x : Action σ α) : Action σ (Except Failure α) := fun s w =>
  let (r, w') := x s w
  (.ok r, w')

/-- A result that may be a failure. -/
def ofExcept : Except Failure α → Action σ α
  | .ok a => pure a
  | .error e => fail e

def surroundings : Action σ (Surroundings σ) := fun s w => (.ok s, w)

/-- The rules in force. -/
def policy : Action σ Policy := fun s w => (.ok s.policy, w)

/-- The time. -/
def clock : Action σ Calendar.Stamp := fun s w => (.ok s.clock, w)

/-- The time as the database has it. -/
def databaseClock : Action σ Calendar.Stamp := fun s w => (.ok s.databaseClock, w)

def database : Action σ Database := fun _ w => (.ok w.database, w)

def modifyDatabase (f : Database → Database) : Action σ Unit := fun _ w =>
  (.ok (), { w with database := f w.database })

/-- Writes events down. -/
def note (events : List Journal.Event) : Action σ Unit := fun _ w =>
  (.ok (), { w with journal := w.journal ++ events })

/-- Gives out the next identifier of a kind. -/
def issue (kind : Kind) (count : Issued → Nat) (next : Issued → Issued) : Action σ String :=
  fun _ w =>
    (.ok (w.issued.naming.name kind (count w.issued + 1)), { w with issued := next w.issued })

/-- Hands a message to the outside, and tells why it was refused, if it was. -/
def deliver (m : Message) : Action σ (Option Failure) := fun s w =>
  let (receipt, outside) := s.deliver m w.outside
  (.ok receipt.refusal,
    { w with
      outside := outside
      attempts := w.attempts ++ [⟨m, receipt.refusal.isSome⟩]
      journal := w.journal ++ receipt.notes })

/-- Makes a call that relays the reply of another one, if the outside does not come
in its way. -/
def relayed (c : Call) (body : Action σ (Reply α)) : Action σ (Reply α) := fun s w =>
  match s.interrupt c w.outside with
  | (none, outside) => body s { w with outside := outside }
  | (some (.breaks reason), outside) => (.error (.broken reason), { w with outside := outside })
  | (some (.answers j), outside) => (.ok (.foreign j), { w with outside := outside })

/-- Makes a call, if the outside does not come in its way. -/
def guarded (c : Call) (body : Action σ α) : Action σ (Reply α) := relayed c (.own <$> body)

/-- Runs an action for each member of a list and collects the results. -/
def collect (f : α → Action σ β) : List α → Action σ (List β)
  | [] => pure []
  | a :: rest => do
    let b ← f a
    let bs ← collect f rest
    return b :: bs

@[simp] theorem run_pure (a : α) (s : Surroundings σ) (w : World σ) :
    (pure a : Action σ α).run s w = (.ok a, w) := rfl

theorem run_bind (x : Action σ α) (f : α → Action σ β) (s : Surroundings σ) (w : World σ) :
    (x >>= f).run s w =
      match x.run s w with
      | (.ok a, w') => (f a).run s w'
      | (.error e, w') => (.error e, w') := rfl

theorem run_bind_ok {x : Action σ α} {f : α → Action σ β} {s : Surroundings σ} {w w' : World σ}
    {a : α} (h : x.run s w = (.ok a, w')) : (x >>= f).run s w = (f a).run s w' := by
  rw [run_bind, h]

theorem run_bind_error {x : Action σ α} {f : α → Action σ β} {s : Surroundings σ}
    {w w' : World σ} {e : Failure} (h : x.run s w = (.error e, w')) :
    (x >>= f).run s w = (.error e, w') := by
  rw [run_bind, h]

@[simp] theorem run_fail (e : Failure) (s : Surroundings σ) (w : World σ) :
    (fail e : Action σ α).run s w = (.error e, w) := rfl

@[simp] theorem run_attempt (x : Action σ α) (s : Surroundings σ) (w : World σ) :
    (attempt x).run s w = (.ok (x.run s w).1, (x.run s w).2) := rfl

@[simp] theorem run_ofExcept (r : Except Failure α) (s : Surroundings σ) (w : World σ) :
    (ofExcept r).run s w = (r, w) := by
  cases r <;> rfl

@[simp] theorem run_policy (s : Surroundings σ) (w : World σ) :
    (policy : Action σ Policy).run s w = (.ok s.policy, w) := rfl

@[simp] theorem run_clock (s : Surroundings σ) (w : World σ) :
    (clock : Action σ Calendar.Stamp).run s w = (.ok s.clock, w) := rfl

@[simp] theorem run_databaseClock (s : Surroundings σ) (w : World σ) :
    (databaseClock : Action σ Calendar.Stamp).run s w = (.ok s.databaseClock, w) := rfl

@[simp] theorem run_database (s : Surroundings σ) (w : World σ) :
    (database : Action σ Database).run s w = (.ok w.database, w) := rfl

@[simp] theorem run_modifyDatabase (f : Database → Database) (s : Surroundings σ) (w : World σ) :
    (modifyDatabase f).run s w = (.ok (), { w with database := f w.database }) := rfl

@[simp] theorem run_note (events : List Journal.Event) (s : Surroundings σ) (w : World σ) :
    (note events).run s w = (.ok (), { w with journal := w.journal ++ events }) := rfl

end Action

end Nurture
