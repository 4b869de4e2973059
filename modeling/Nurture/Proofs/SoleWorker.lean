import Mathlib.Data.List.Infix
import Nurture.Worker

/-!
  One worker at a time

  A stop waits for the thread made last, but not for ever: a thread in a long
  pass is left behind. The flag is one for all threads, so a start made before
  that pass has ended sets it for the old thread too, which then never learns
  that it was stopped (`two_threads`).

  Nothing else can go wrong. Whatever the order of starts, stops and steps, no two
  threads are live while the flag is set exactly if no thread is made while
  another one has yet to end (`Guarded.sole_iff`).
-/

namespace Nurture.Worker

/-- A turn in a run of the worker. -/
inductive Turn where
  | start (asked : Option Int)
  | stop
  /-- The thread of a position takes its next step. If it is in a pass, this has come to the
  outcome. -/
  | advance (position : Nat) (outcome : PassOutcome)

/-- Whether the thread of the position takes its next step. -/
def Turn.moves (position : Nat) : Turn → Bool
  | advance i _ => i == position
  | _ => false

namespace State

variable {usual : Int}

/-- The worker after a turn. -/
def turn (usual : Int) (s : State) : Turn → State
  | .start asked => (s.start usual asked).1
  | .stop => s.stop
  | .advance i outcome => s.advance i outcome

/-- The worker after turns from the beginning. A stop may give up on a thread at any moment,
so nothing is asked of the steps taken between a stop and what follows it. -/
def after (usual : Int) (turns : List Turn) : State := turns.foldl (turn usual) initial

theorem after_concat (turns : List Turn) (t : Turn) :
    after usual (turns ++ [t]) = (after usual turns).turn usual t :=
  List.foldl_concat (turn usual) initial t turns

/-- While the flag is set there is no second thread that has yet to end. -/
def Sole (s : State) : Prop := s.running = true → s.live.length ≤ 1
  deriving Decidable

/-- No thread is made while another one has yet to end. -/
def Patient (usual : Int) (turns : List Turn) : Prop :=
  ∀ before asked, before ++ [.start asked] <+: turns →
    (after usual before).running = false → (after usual before).live = []

end State

/-! ## The steps of a thread -/

namespace Phase

theorem isLive_of_next {interval : Int} {running : Bool} {outcome : PassOutcome} {p : Phase}
    (h : (p.next interval running outcome).isLive = true) : p.isLive = true := by
  cases p with
  | ended => exact h
  | ready | passing | resting | sleeping => rfl

theorem isLive_next (interval : Int) (outcome : PassOutcome) (p : Phase) :
    (p.next interval true outcome).isLive = p.isLive := by
  rw [next_eq_idle]
  cases p with
  | resting left => cases left <;> rfl
  | ready | passing | sleeping | ended => rfl

/-- Once the flag is cleared a thread ends in four steps, the first of which may be the end of
a pass. -/
theorem ended_of_cleared (interval : Int) (p : Phase) {n : Nat} (hn : 4 ≤ n) :
    (Phase.next interval false .idle)^[n] p = .ended := by
  have hrest : ∀ left, (resting left).next interval false .idle = .ready := by
    rintro (_ | _) <;> rfl
  have hfour : (Phase.next interval false .idle)^[4] p = .ended := by
    simp only [Function.iterate_succ_apply, Function.iterate_zero_apply]
    cases p with
    | passing =>
      exact congrArg (fun p => (p.next interval false .idle).next interval false .idle) (hrest _)
    | resting left => rw [hrest]; rfl
    | sleeping left =>
      exact congrArg (fun p => (p.next interval false .idle).next interval false .idle) (hrest _)
    | ready | ended => rfl
  obtain ⟨more, rfl⟩ := Nat.exists_eq_add_of_le' hn
  rw [Function.iterate_add_apply, hfour]
  exact Function.iterate_fixed rfl more

end Phase

/-! ## The turns of a run -/

namespace State

variable {usual : Int} {s : State} {turns : List Turn}

theorem start_of_running (h : s.running = true) (asked : Option Int) :
    (s.start usual asked).1 = s := by
  simp [start, h]

theorem running_start (asked : Option Int) : (s.start usual asked).1.running = true := by
  cases h : s.running <;> simp [start, h]

theorem live_start (h : s.running = false) (asked : Option Int) :
    (s.start usual asked).1.live = s.live ++ [⟨intervalOr usual asked, .ready, 0⟩] := by
  simp [start, h, live, Phase.isLive]

theorem running_stop : s.stop.running = false := by
  cases h : s.running <;> simp [stop, h]

theorem length_live (s : State) : s.live.length = s.threads.countP (·.phase.isLive) :=
  (List.countP_eq_length_filter ..).symm

theorem countP_awaitLast (ts : List Thread) :
    (awaitLast ts).countP (·.phase.isLive) = ts.countP (·.phase.isLive) := by
  fun_induction awaitLast ts with
  | case1 => rfl
  | case2 t => rfl
  | case3 t u rest ih => rw [List.countP_cons, List.countP_cons, ih]

theorem length_live_stop : s.stop.live.length = s.live.length := by
  cases h : s.running with
  | false => simp [stop, h]
  | true => simp only [stop, h, if_true, length_live, countP_awaitLast]

theorem length_live_advance (i : Nat) (outcome : PassOutcome) :
    (s.advance i outcome).live.length ≤ s.live.length ∧
      (s.running = true → (s.advance i outcome).live.length = s.live.length) := by
  simp only [length_live, advance]
  generalize s.threads = ts
  induction ts generalizing i with
  | nil => simp
  | cons t ts ih =>
    cases i with
    | zero =>
      simp only [List.modify_zero_cons, List.countP_cons]
      refine ⟨?_, fun h => by rw [h, Phase.isLive_next]⟩
      cases hlive : (t.phase.next t.interval s.running outcome).isLive with
      | true => rw [Phase.isLive_of_next hlive]
      | false => simp
    | succ i =>
      simp only [List.modify_succ_cons, List.countP_cons]
      exact ⟨Nat.add_le_add_right (ih i).1 _, fun h => by rw [(ih i).2 h]⟩

/-- Once the flag is cleared, and until the next start, a thread takes the steps of its position. -/
theorem getElem?_threads_stopped (usual : Int) (hs : s.running = false)
    (hturns : ∀ asked, Turn.start asked ∉ turns) (i : Nat) :
    (turns.foldl (turn usual) s).threads[i]?.map (·.phase) =
      s.threads[i]?.map fun t =>
        (Phase.next t.interval false .idle)^[turns.countP (·.moves i)] t.phase := by
  induction turns generalizing s with
  | nil => rfl
  | cons t turns ih =>
    have hrest : ∀ asked, Turn.start asked ∉ turns := fun asked h =>
      hturns asked (List.mem_cons_of_mem _ h)
    rw [List.foldl_cons]
    cases t with
    | start asked => exact absurd List.mem_cons_self (hturns asked)
    | stop =>
      have hstop : s.turn usual .stop = s := by simp [turn, stop, hs]
      rw [hstop, ih hs hrest, List.countP_cons_of_neg Bool.false_ne_true]
    | advance j outcome =>
      have hadvance : (s.advance j outcome).running = false := hs
      rw [turn, ih hadvance hrest]
      simp only [advance, hs, List.getElem?_modify, Phase.next_eq_idle _ _ outcome]
      by_cases hij : j = i
      · subst hij
        simp [Turn.moves, Function.comp_def]
      · simp [Turn.moves, hij]

/-- No thread is left behind by a stop that waits until each has taken four steps. -/
theorem live_eq_nil_of_steps (hs : s.running = false)
    (hturns : ∀ asked, Turn.start asked ∉ turns)
    (hsteps : ∀ i < s.threads.length, 4 ≤ turns.countP (·.moves i)) :
    (turns.foldl (turn usual) s).live = [] := by
  rw [live, List.filter_eq_nil_iff]
  intro t ht
  obtain ⟨i, hi⟩ := List.mem_iff_getElem?.mp ht
  have hphase := getElem?_threads_stopped usual hs hturns i
  rw [hi] at hphase
  cases hold : s.threads[i]? with
  | none => simp [hold] at hphase
  | some old =>
    have hlt : i < s.threads.length := (List.getElem?_eq_some_iff.mp hold).1
    rw [hold, Option.map_some, Option.map_some, Option.some.injEq,
      Phase.ended_of_cleared _ _ (hsteps i hlt)] at hphase
    simp [hphase, Phase.isLive]

/-- While the flag is set the thread made last goes on. -/
theorem live_ne_nil (turns : List Turn) (h : (after usual turns).running = true) :
    (after usual turns).live ≠ [] := by
  induction turns using List.reverseRecOn with
  | nil => cases h
  | append_singleton turns t ih =>
    rw [after_concat] at h ⊢
    generalize after usual turns = s at h ih ⊢
    cases t with
    | start asked =>
      cases hs : s.running with
      | true =>
        simp only [turn, start_of_running hs] at h ⊢
        exact ih h
      | false => simp [turn, live_start hs]
    | stop => simp [turn, running_stop] at h
    | advance i outcome =>
      rw [← List.length_pos_iff] at ih ⊢
      have hs : s.running = true := h
      simpa only [turn, (length_live_advance i outcome).2 hs] using ih hs

theorem Patient.of_prefix {before : List Turn} (h : Patient usual turns)
    (hbefore : before <+: turns) : Patient usual before :=
  fun earlier asked hearlier => h earlier asked (hearlier.trans hbefore)

/-- A patient run never has two threads that have yet to end. -/
theorem Patient.length_live_le (h : Patient usual turns) :
    (after usual turns).live.length ≤ 1 := by
  induction turns using List.reverseRecOn with
  | nil => exact Nat.zero_le _
  | append_singleton turns t ih =>
    have hle := ih (h.of_prefix (List.prefix_append ..))
    rw [after_concat]
    cases t with
    | start asked =>
      cases hs : (after usual turns).running with
      | true => rwa [turn, start_of_running hs]
      | false => simp [turn, live_start hs, h turns asked List.prefix_rfl hs]
    | stop => rwa [turn, length_live_stop]
    | advance i outcome => exact (length_live_advance i outcome).1.trans hle

/-- The flag is set by a start, so a second thread can be seen next to the one it makes. -/
theorem patient_of_sole (h : ∀ before, before <+: turns → (after usual before).Sole) :
    Patient usual turns := by
  intro before asked hstart hstopped
  have hsole := h _ hstart
  rw [after_concat] at hsole
  have hle := hsole (running_start asked)
  rw [turn, live_start hstopped, List.length_append, List.length_singleton] at hle
  exact List.eq_nil_of_length_eq_zero (by omega)

/-- How many threads are live in the states of a run. -/
structure Guarded (usual : Int) (turns : List Turn) : Prop where
  /-- There is one at most while the flag is set, exactly in a patient run. -/
  sole_iff : (∀ before, before <+: turns → (after usual before).Sole) ↔ Patient usual turns
  /-- In a patient run there is one at most while the flag is cleared, too. -/
  length_live_le : Patient usual turns →
    ∀ before, before <+: turns → (after usual before).live.length ≤ 1
  /-- There is none once a worker was stopped and each thread has taken four steps since, so a
  run is patient if every stop waits for that. -/
  live_eq_nil : ∀ before waiting, before ++ waiting <+: turns →
    (after usual before).running = false → (∀ asked, .start asked ∉ waiting) →
    (∀ i < (after usual before).threads.length, 4 ≤ waiting.countP (·.moves i)) →
    (after usual (before ++ waiting)).live = []
  /-- A worker that is said to run has one, in any run. -/
  live_ne_nil : ∀ before, before <+: turns →
    (after usual before).running = true → (after usual before).live ≠ []

/-- Whatever the order of starts, stops and steps, and however long a pass lasts, two threads
poll side by side only if one was made before another had ended. -/
theorem after_guarded (usual : Int) (turns : List Turn) : Guarded usual turns where
  sole_iff := ⟨patient_of_sole, fun h before hbefore _ => (h.of_prefix hbefore).length_live_le⟩
  length_live_le := fun h _ hbefore => (h.of_prefix hbefore).length_live_le
  live_eq_nil := fun before waiting _ hstopped hwaiting hsteps => by
    rw [after, List.foldl_append]
    exact live_eq_nil_of_steps hstopped hwaiting hsteps
  live_ne_nil := fun before _ hrunning => live_ne_nil before hrunning

/-- A worker is started, stopped in its first pass, and started again before the pass is over.
Both threads are in a pass then, and the flag is set for both. -/
theorem two_threads :
    let turns :=
      [.start (some 1), .advance 0 .idle, .stop, .start (some 1), .advance 1 .idle]
    after 60 turns = ⟨true, [⟨1, .passing, 1⟩, ⟨1, .passing, 0⟩]⟩ ∧
      ¬ (after 60 turns).Sole := by
  decide

end State
end Nurture.Worker
