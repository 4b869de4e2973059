import Mathlib.Algebra.Order.Floor.Div
import Mathlib.Data.List.Count
import Nurture.Proofs.SoleWorker

/-!
  Passes and rests

  A thread of the worker runs a pass, rests for so many seconds, and so on, until the flag is
  cleared. So the seconds that it has rested tell how many passes it has run, and the passes how
  long it has rested (`cleared_accounted`): if the flag is cleared in its `k`-th second of rest,
  it has run `k` passes divided by the length of a rest, rounded up; if it is cleared in its
  `k`-th pass, it has rested after each pass before that one. Then it ends, and does nothing more.
  What a pass comes to, a report or a failure, is written down and changes none of this
  (`Poller.phase_next`).

  `Phase.Balanced` is the invariant of a thread that finds the flag set. It also says that
  there are never more than two steps in a row that take no time, so every pass and every second
  of rest comes (`Poller.exists_isIn`).
-/

namespace Nurture.Worker

/-- A thread, and what its passes come to from now on, one after the other; later ones find nothing
due. -/
structure Poller where
  phase : Phase
  outcomes : List PassOutcome

namespace Poller

variable {interval : Int} {outcomes : List PassOutcome} {t : Poller} {n k : Nat} {a : Activity}

/-- The next step of a thread that rests for `interval` seconds between passes. -/
def next (interval : Int) (running : Bool) (t : Poller) : Poller where
  phase := t.phase.next interval running (t.outcomes.headD .idle)
  outcomes := if t.phase = .passing then t.outcomes.tail else t.outcomes

/-- What a thread does in its next steps, which find the flag as it is given. -/
def doneIn (interval : Int) (running : Bool) : Nat → Poller → List Activity
  | 0, _ => []
  | n + 1, t =>
    let u := t.next interval running
    u.phase.activity?.toList ++ doneIn interval running n u

/-- Where a thread is after its first steps, which find the flag set. -/
def reached (interval : Int) (outcomes : List PassOutcome) (n : Nat) : Poller :=
  (next interval true)^[n] ⟨.ready, outcomes⟩

/-- What a thread does in its first steps, which find the flag set. -/
def done (interval : Int) (outcomes : List PassOutcome) (n : Nat) : List Activity :=
  doneIn interval true n ⟨.ready, outcomes⟩

/-- After its first steps, which find the flag set, a thread is in its `k`-th activity of the
kind. -/
def IsIn (interval : Int) (outcomes : List PassOutcome) (a : Activity) (k n : Nat) : Prop :=
  (reached interval outcomes n).phase.activity? = some a ∧ (done interval outcomes n).count a = k
  deriving Decidable

/-! ## Step by step -/

theorem phase_next (running : Bool) :
    (t.next interval running).phase = t.phase.next interval running .idle :=
  Phase.next_eq_idle _ _ _ _

theorem phase_iterate (running : Bool) (n : Nat) (t : Poller) :
    ((next interval running)^[n] t).phase = (Phase.next interval running .idle)^[n] t.phase := by
  induction n generalizing t with
  | zero => rfl
  | succ n ih => rw [Function.iterate_succ_apply, ih, phase_next, Function.iterate_succ_apply]

theorem reached_succ :
    (reached interval outcomes (n + 1)).phase
      = (reached interval outcomes n).phase.next interval true .idle := by
  rw [reached, Function.iterate_succ_apply', phase_next, reached]

theorem doneIn_succ (running : Bool) (n : Nat) (t : Poller) :
    doneIn interval running (n + 1) t
      = doneIn interval running n t
        ++ ((next interval running)^[n + 1] t).phase.activity?.toList := by
  induction n generalizing t with
  | zero => simp [doneIn]
  | succ n ih =>
    rw [doneIn, ih, doneIn, List.append_assoc, Function.iterate_succ_apply _ (n + 1)]

theorem done_succ :
    done interval outcomes (n + 1)
      = done interval outcomes n
        ++ (reached interval outcomes (n + 1)).phase.activity?.toList :=
  doneIn_succ true n ⟨.ready, outcomes⟩

theorem count_done_succ :
    (done interval outcomes (n + 1)).count a
      = (done interval outcomes n).count a
        + if (reached interval outcomes (n + 1)).phase.activity? = some a then 1 else 0 := by
  rw [done_succ, List.count_append]
  cases (reached interval outcomes (n + 1)).phase.activity? with
  | none => rfl
  | some b => simp [List.count_singleton]

theorem doneIn_cleared (interval : Int) (n : Nat) (t : Poller) :
    doneIn interval false n t = [] := by
  induction n generalizing t with
  | zero => rfl
  | succ n ih =>
    have hidle : (t.next interval false).phase.activity? = none := by
      rw [phase_next]
      cases t.phase with
      | resting left => cases left <;> rfl
      | ready | passing | sleeping | ended => rfl
    rw [doneIn, hidle, ih]
    rfl

end Poller

/-! ## The balance of passes and rests -/

namespace Phase

variable {interval : Int} {p : Phase} {n : Nat}

/-- How many passes were run and how many seconds rested after `n` steps that found the flag set,
by the phase that was reached. -/
def Balanced (rest n passes sleeps : Nat) : Phase → Prop
  | ready => sleeps = passes * rest ∧ n ≤ 3 * (passes + sleeps)
  | passing => sleeps + rest = passes * rest ∧ n + 2 ≤ 3 * (passes + sleeps)
  | resting left => left ≤ rest ∧ sleeps + left = passes * rest ∧ n + 1 ≤ 3 * (passes + sleeps)
  | sleeping left => left < rest ∧ sleeps + left = passes * rest ∧ n + 2 ≤ 3 * (passes + sleeps)
  | ended => False

/-- A step that finds the flag set keeps the balance. -/
theorem Balanced.next {passes sleeps : Nat} (h : p.Balanced interval.toNat n passes sleeps) :
    (p.next interval true .idle).Balanced interval.toNat (n + 1)
      (passes + if (p.next interval true .idle).activity? = some .pass then 1 else 0)
      (sleeps + if (p.next interval true .idle).activity? = some .sleep then 1 else 0) := by
  cases p with
  | ready =>
    obtain ⟨hsum, hpace⟩ := h
    refine ⟨?_, ?_⟩
    · simp [Phase.next, activity?, Nat.add_mul, hsum]
    · simp [Phase.next, activity?]
      omega
  | passing =>
    obtain ⟨hsum, hpace⟩ := h
    exact ⟨Nat.le_refl _, hsum, hpace⟩
  | resting left =>
    obtain ⟨hle, hsum, hpace⟩ := h
    cases left with
    | zero => exact ⟨hsum, hpace⟩
    | succ left =>
      refine ⟨hle, ?_, ?_⟩
      · simp [Phase.next, activity?]
        omega
      · simp [Phase.next, activity?]
        omega
  | sleeping left =>
    obtain ⟨hlt, hsum, hpace⟩ := h
    exact ⟨Nat.le_of_lt hlt, hsum, hpace⟩
  | ended => exact h.elim

theorem activity?_eq_pass_iff : p.activity? = some .pass ↔ p = passing := by
  cases p <;> simp [activity?]

theorem activity?_eq_sleep_iff : p.activity? = some .sleep ↔ ∃ left, p = sleeping left := by
  cases p <;> simp [activity?]

/-- Rests keep up with passes, and both with the steps. -/
theorem Balanced.bounds {rest passes sleeps : Nat} (h : p.Balanced rest n passes sleeps) :
    sleeps ≤ passes * rest ∧ passes * rest ≤ sleeps + rest ∧ n ≤ 3 * (passes + sleeps) := by
  cases p with
  | ready =>
    obtain ⟨hsum, hpace⟩ := h
    exact ⟨hsum.le, by omega, hpace⟩
  | passing =>
    obtain ⟨hsum, hpace⟩ := h
    exact ⟨by omega, hsum.ge, by omega⟩
  | resting left | sleeping left =>
    obtain ⟨hleft, hsum, hpace⟩ := h
    exact ⟨by omega, by omega, by omega⟩
  | ended => exact h.elim

theorem nextBusy_of_idle (h : (p.next interval true .idle).activity? = none) :
    p.nextBusy interval = (p.next interval true .idle).nextBusy interval := by
  cases p with
  | ready => cases h
  | passing =>
    cases hrest : interval.toNat <;> simp [nextBusy, next, PassOutcome.idle, hrest, activity?]
  | resting left =>
    cases left with
    | zero => rfl
    | succ left => cases h
  | sleeping left => cases left <;> rfl
  | ended => rfl

end Phase

namespace Poller

variable {interval : Int} {outcomes : List PassOutcome} {n k : Nat} {a : Activity}

theorem balanced (interval : Int) (outcomes : List PassOutcome) (n : Nat) :
    (reached interval outcomes n).phase.Balanced interval.toNat n
      ((done interval outcomes n).count .pass) ((done interval outcomes n).count .sleep) := by
  induction n with
  | zero => exact ⟨(Nat.zero_mul _).symm, Nat.le_refl _⟩
  | succ n ih =>
    rw [count_done_succ, count_done_succ, reached_succ]
    exact ih.next

/-- In a second of a rest, passes are the seconds rested divided by the length of a rest,
rounded up. -/
theorem IsIn.passes_eq (h : IsIn interval outcomes .sleep k n) :
    (done interval outcomes n).count .pass = k ⌈/⌉ interval.toNat := by
  obtain ⟨hphase, rfl⟩ := h
  obtain ⟨left, hleft⟩ := Phase.activity?_eq_sleep_iff.mp hphase
  have hbalanced := balanced interval outcomes n
  rw [hleft] at hbalanced
  obtain ⟨hlt, hsum, -⟩ := hbalanced
  have hpos : 0 < interval.toNat := Nat.zero_lt_of_lt hlt
  rw [Nat.ceilDiv_eq_add_pred_div]
  refine (Nat.div_eq_of_lt_le ?_ ?_).symm
  · omega
  · rw [Nat.add_mul]
    omega

theorem IsIn.sleeps_eq (h : IsIn interval outcomes .pass k n) :
    (done interval outcomes n).count .sleep = (k - 1) * interval.toNat := by
  obtain ⟨hphase, rfl⟩ := h
  have hbalanced := balanced interval outcomes n
  rw [Phase.activity?_eq_pass_iff.mp hphase] at hbalanced
  rw [Nat.sub_mul, Nat.one_mul, ← hbalanced.1, Nat.add_sub_cancel]

/-! ## Every pass and every second of rest comes -/

theorem exists_isIn_of_le (hk : 1 ≤ k) (h : ∃ n, k ≤ (done interval outcomes n).count a) :
    ∃ n, IsIn interval outcomes a k n := by
  -- The first step after which the count is reached is the one that reaches it.
  have hfound := Nat.find_spec h
  cases hfirst : Nat.find h with
  | zero =>
    rw [hfirst] at hfound
    exact absurd hfound (by simp [done, doneIn]; omega)
  | succ n =>
    have hbefore := Nat.find_min h (m := n) (by omega)
    rw [hfirst, count_done_succ] at hfound
    refine ⟨n + 1, ?_, ?_⟩
    · by_contra hphase
      rw [if_neg hphase] at hfound
      omega
    · rw [count_done_succ]
      split at hfound <;> rename_i hphase <;> simp only [hphase, if_true, if_false] <;> omega

/-- A thread that finds the flag set goes on: it comes to every pass and to every second of
rest. -/
theorem exists_isIn (h : 1 ≤ interval) (outcomes : List PassOutcome) (hk : 1 ≤ k) (a : Activity) :
    ∃ n, IsIn interval outcomes a k n := by
  have hrest : 1 ≤ interval.toNat := by omega
  obtain ⟨n, hn⟩ : ∃ n, n = 3 * (2 * k + k * interval.toNat) := ⟨_, rfl⟩
  refine exists_isIn_of_le hk ⟨n, ?_⟩
  obtain ⟨hsleeps, hpasses, hsteps⟩ := (balanced interval outcomes n).bounds
  by_contra hfew
  cases a with
  | pass =>
    -- too few passes leave room for too few rests
    have hrests : (done interval outcomes n).count .pass * interval.toNat ≤ k * interval.toNat :=
      Nat.mul_le_mul_right _ (by omega)
    omega
  | sleep =>
    have hless : (done interval outcomes n).count .pass
        ≤ (done interval outcomes n).count .pass * interval.toNat :=
      Nat.le_mul_of_pos_right _ hrest
    have hrest' : interval.toNat ≤ k * interval.toNat := Nat.le_mul_of_pos_left _ hk
    omega

/-! ## Runs of a given number of activities -/

theorem activities_doneIn (interval : Int) (n : Nat) (t : Poller) :
    activities interval (doneIn interval true n t).length t.phase = doneIn interval true n t := by
  induction n generalizing t with
  | zero => rfl
  | succ n ih =>
    have ih := ih (t.next interval true)
    rw [phase_next] at ih
    rw [doneIn, phase_next]
    cases hactivity : (t.phase.next interval true .idle).activity? with
    | none =>
      rw [Option.toList_none, List.nil_append]
      conv_rhs => rw [← ih]
      cases (doneIn interval true n (t.next interval true)).length with
      | zero => rfl
      | succ count => simp only [activities, Phase.nextBusy_of_idle hactivity]
    | some a =>
      have hbusy : t.phase.nextBusy interval = t.phase.next interval true .idle := by
        simp [Phase.nextBusy, hactivity]
      rw [Option.toList_some, List.singleton_append, List.length_cons, activities, hbusy,
        hactivity, ih]
      rfl

end Poller

/-! ## What is written down -/

theorem events_eq (done : List Activity) (outcomes : List PassOutcome) :
    events done outcomes = (outcomes.take (done.count .pass)).flatMap PassOutcome.events := by
  induction done generalizing outcomes with
  | nil => rfl
  | cons a done ih =>
    cases a with
    | sleep => rw [events, ih, List.count_cons_of_ne (by decide)]
    | pass =>
      rw [List.count_cons_self]
      cases outcomes with
      | nil => rw [events, ih, List.take_nil, List.take_nil]
      | cons outcome outcomes => rw [events, ih, List.take_succ_cons, List.flatMap_cons]

/-! ## The account of a thread -/

open Poller in
/-- What a thread has done when the flag is cleared after its first `n` steps, and what it does
then. -/
structure Cleared (interval : Int) (outcomes : List PassOutcome) (n : Nat) : Prop where
  /-- In its `k`-th second of rest it has run as many passes as there are rests begun. -/
  in_sleep : ∀ k, IsIn interval outcomes .sleep k n →
    (done interval outcomes n).count .pass = k ⌈/⌉ interval.toNat
  /-- In its `k`-th pass it has rested after each pass before. -/
  in_pass : ∀ k, IsIn interval outcomes .pass k n →
    (done interval outcomes n).count .sleep = (k - 1) * interval.toNat
  /-- It does nothing more, and ends. -/
  idle : ∀ more, doneIn interval false more (reached interval outcomes n) = []
  ended : ∀ more, 4 ≤ more →
    ((next interval false)^[more] (reached interval outcomes n)).phase = .ended
  /-- What its passes came to was written down, one after the other. -/
  noted : threadEvents interval (done interval outcomes n) outcomes
    = .workerStarted interval
      :: (outcomes.take ((done interval outcomes n).count .pass)).flatMap PassOutcome.events
      ++ [.workerStopped]
  /-- It is the run of so many activities. -/
  run : activities interval (done interval outcomes n).length .ready = done interval outcomes n

open Poller in
/-- Whenever the flag is cleared, the seconds that a thread has rested and the passes that it has
run tell each other, whatever the passes came to; and it comes to every pass and every second of a
rest as long as the flag is set. -/
theorem cleared_accounted (interval : Int) (h : 1 ≤ interval) (outcomes : List PassOutcome) :
    (∀ n, Cleared interval outcomes n) ∧ ∀ a k, 1 ≤ k → ∃ n, IsIn interval outcomes a k n := by
  refine ⟨fun n => ?_, fun a k hk => exists_isIn h outcomes hk a⟩
  exact {
    in_sleep := fun k hk => hk.passes_eq
    in_pass := fun k hk => hk.sleeps_eq
    idle := fun more => doneIn_cleared interval more _
    ended := fun more hmore => by rw [phase_iterate, Phase.ended_of_cleared interval _ hmore]
    noted := by rw [threadEvents, events_eq]
    run := activities_doneIn interval n ⟨.ready, outcomes⟩ }

/-- Between passes a thread rests for three seconds. In its fourth second of rest it has run two
passes, though the first of them failed, and then it ends. -/
theorem two_passes_in_four_seconds :
    let outcomes : List PassOutcome := [.error (.broken "db locked"), .ok ⟨1, 1, 0, 0⟩]
    (1 : Int) ≤ 3 ∧ Poller.IsIn 3 outcomes .sleep 4 12 ∧
      (Poller.done 3 outcomes 12).count .pass = 2 ∧
      ((Poller.next 3 false)^[4] (Poller.reached 3 outcomes 12)).phase = .ended ∧
      threadEvents 3 (Poller.done 3 outcomes 12) outcomes =
        [.workerStarted 3, .workerError (.broken "db locked"), .workerPass ⟨1, 1, 0, 0⟩,
          .workerStopped] := by
  intro outcomes
  have hin : Poller.IsIn 3 outcomes .sleep 4 12 := by decide
  have hcleared := (cleared_accounted 3 (by decide) outcomes).1 12
  have hpasses : (Poller.done 3 outcomes 12).count .pass = 2 := hcleared.in_sleep 4 hin
  refine ⟨by decide, hin, hpasses, hcleared.ended 4 (Nat.le_refl 4), ?_⟩
  rw [hcleared.noted, hpasses]
  rfl

end Nurture.Worker
