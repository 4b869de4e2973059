import Nurture.Journal

/-!
  The worker

  A worker runs passes in a thread of its own: a pass, then a rest of so many
  seconds, and so on while a flag is set. The flag is one for all threads.
  Starting sets it and makes a thread, unless it is set; stopping clears it and
  waits for the thread made last, but not for ever.

  A thread is a `Phase`, and `Phase.next` is its one step. A failure that ends a pass
  is caught, and the thread rests as after any other pass. `activities` is what a
  thread does up to the moment at which the flag is cleared.
-/

namespace Nurture.Worker

/-- What a pass came to: a report, or the failure that ended it. -/
abbrev PassOutcome := Except Failure PassReport

namespace PassOutcome

/-- What a pass comes to in which nothing was due. -/
def idle : PassOutcome := .ok .empty

/-- What is written down about a pass: nothing if nothing was due. -/
def events : PassOutcome → List Journal.Event
  | .ok report => if report.due = 0 then [] else [.workerPass report]
  | .error cause => [.workerError cause]

end PassOutcome

/-- Where a thread of the worker is. -/
inductive Phase where
  /-- About to look at the flag before a pass. -/
  | ready
  /-- In a pass. -/
  | passing
  /-- About to look at the flag in a rest of which so many seconds are left. -/
  | resting (left : Nat)
  /-- In a second of a rest after which so many are left. -/
  | sleeping (left : Nat)
  /-- At the end. -/
  | ended
  deriving DecidableEq, Repr

namespace Phase

/-- The next phase of a thread that rests for `interval` seconds between passes. If it is in a
pass, this has come to the outcome. -/
def next (interval : Int) (running : Bool) (outcome : PassOutcome) : Phase → Phase
  | ready => if running then passing else ended
  | passing =>
    match outcome with
    | .ok _ => resting interval.toNat
    | .error _ => resting interval.toNat
  | resting 0 => ready
  | resting (left + 1) => if running then sleeping left else ready
  | sleeping left => resting left
  | ended => ended

/-- Where a thread goes on does not depend on what its pass came to. -/
theorem next_eq_idle (interval : Int) (running : Bool) (outcome : PassOutcome) (p : Phase) :
    p.next interval running outcome = p.next interval running .idle := by
  cases p with
  | passing => cases outcome <;> rfl
  | resting left => cases left <;> rfl
  | ready | sleeping | ended => rfl

/-- Whether the thread has yet to end. -/
def isLive (p : Phase) : Bool := p != ended

end Phase

/-- What takes a thread time. -/
inductive Activity where
  | pass
  | sleep
  deriving DecidableEq, Repr

/-- What a thread is doing in a phase. -/
def Phase.activity? : Phase → Option Activity
  | passing => some .pass
  | sleeping _ => some .sleep
  | _ => none

/-- The next phase that takes time, of a thread that finds the flag set and nothing due. -/
def Phase.nextBusy (interval : Int) (p : Phase) : Phase :=
  let step := Phase.next interval true .idle
  if (step p).activity?.isSome then step p
  else if (step (step p)).activity?.isSome then step (step p)
  else step (step (step p))

/-- What a thread does from a phase on, if the flag is cleared during the last of
`count` activities. -/
def activities (interval : Int) : Nat → Phase → List Activity
  | 0, _ => []
  | count + 1, p =>
    let busy := p.nextBusy interval
    busy.activity?.toList ++ activities interval count busy

/-- What is written down about activities whose passes come to the outcomes;
passes beyond them find nothing due. -/
def events : List Activity → List PassOutcome → List Journal.Event
  | [], _ => []
  | .sleep :: rest, outcomes => events rest outcomes
  | .pass :: rest, [] => events rest []
  | .pass :: rest, outcome :: outcomes => outcome.events ++ events rest outcomes

/-- What is written down by a thread from start to end. -/
def threadEvents (interval : Int) (done : List Activity) (outcomes : List PassOutcome) :
    List Journal.Event :=
  .workerStarted interval :: events done outcomes ++ [.workerStopped]

/-- A thread of the worker. -/
structure Thread where
  interval : Int
  phase : Phase
  /-- How often a stop has waited for the thread. -/
  awaited : Nat
  deriving DecidableEq, Repr

/-- The state of the worker: the flag, and the threads in the order in which they
were made. -/
structure State where
  running : Bool
  threads : List Thread
  deriving DecidableEq, Repr

def State.initial : State := ⟨false, []⟩

namespace State

/-- How many seconds a stop waits for a thread to end. -/
def patience : Nat := 5

/-- The interval asked for, if it is not zero, else the usual one. -/
def intervalOr (usual : Int) (asked : Option Int) : Int := (asked.filter (· ≠ 0)).getD usual

/-- Starts the worker; one that is running is left alone. -/
def start (usual : Int) (asked : Option Int) (s : State) : State × List Journal.Event :=
  if s.running then (s, [.workerAlreadyRunning])
  else (⟨true, s.threads ++ [⟨intervalOr usual asked, .ready, 0⟩]⟩, [])

/-- The threads with the last one awaited once more. -/
def awaitLast : List Thread → List Thread
  | [] => []
  | [t] => [{ t with awaited := t.awaited + 1 }]
  | t :: u :: rest => t :: awaitLast (u :: rest)

/-- Stops the worker; one that is not running is left alone. -/
def stop (s : State) : State := if s.running then ⟨false, awaitLast s.threads⟩ else s

/-- Starts the server, and the worker with it. -/
def startServer (usual : Int) (s : State) : State × List Journal.Event :=
  let (s, events) := s.start usual none
  (s, events ++ [.serverStarted])

/-- Stops the server, and the worker with it. -/
def stopServer (s : State) : State × List Journal.Event := (s.stop, [.serverStopped])

/-- Lets the thread of a position take its next step, out of a pass that came to the outcome if it
is in one. -/
def advance (i : Nat) (outcome : PassOutcome) (s : State) : State :=
  let moved (t : Thread) : Thread := { t with phase := t.phase.next t.interval s.running outcome }
  { s with threads := s.threads.modify i moved }

/-- The threads that have yet to end. -/
def live (s : State) : List Thread := s.threads.filter (·.phase.isLive)

/-- The word for the state. -/
def word (s : State) : String := if s.running then "running" else "stopped"

end State

end Nurture.Worker
