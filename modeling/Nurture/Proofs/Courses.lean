import Nurture.Proofs.LifeCycle
import Nurture.Proofs.PassLog

/-!
  The course of executions

  Whatever is asked for, three things happen to executions and to messages: a trigger adds rows, a
  pass drives rows, and anything else leaves both alone. A `Course` is a run cut up into
  these moves. Every run of operations has one (`World.after_course`), so what is shown for each
  kind of move holds in every run; messages are attempted in its passes only
  (`Course.attempts_eq`).
-/

namespace Nurture

open Nurture.Action

variable {σ : Type}

/-- What happens to executions at a time. -/
inductive Move (σ : Type) where
  /-- Nothing: something else changed from the one world to the other. -/
  | idle (before after : World σ)
  /-- A trigger by itself. -/
  | start (surroundings : Surroundings σ) (trigger : String) (lead : Reply String)
      (context : Json.Fields) (before : World σ)
  | pass (run : PassRun σ)

namespace Move

def before : Move σ → World σ
  | idle w _ => w
  | start _ _ _ _ w => w
  | pass run => run.before

def after : Move σ → World σ
  | idle _ w => w
  | start s trigger lead context w => ((triggerFunnels trigger lead context false).run s w).2
  | pass run => run.after

def surroundings? : Move σ → Option (Surroundings σ)
  | idle _ _ => none
  | start s _ _ _ _ => some s
  | pass run => some run.surroundings

/-- The messages attempted in the move. -/
def attempts : Move σ → List Attempt
  | idle _ _ => []
  | start .. => []
  | pass run => (passLog run.now run.surroundings run.before).flatMap Drive.attempts

/-- Where nothing is to happen, executions and attempts are what they were. -/
def Legal : Move σ → Prop
  | idle w w' => w.Spares w'
  | start .. => True
  | pass _ => True

end Move

/-- Moves one after the other, from one world to another. -/
inductive Course : World σ → List (Move σ) → World σ → Prop
  | stay (w : World σ) : Course w [] w
  | move {m : Move σ} {moves : List (Move σ)} {w : World σ} (hm : m.Legal)
      (h : Course m.after moves w) : Course m.before (m :: moves) w

namespace Course

variable {w w₁ w' : World σ} {moves later : List (Move σ)} {m : Move σ}

theorem append (h : Course w moves w₁) (h' : Course w₁ later w') :
    Course w (moves ++ later) w' := by
  induction h with
  | stay => exact h'
  | move hm _ ih => exact .move hm (ih h')

theorem split (h : Course w (moves ++ m :: later) w') :
    Course w moves m.before ∧ m.Legal ∧ Course m.after later w' := by
  induction moves generalizing w with
  | nil =>
    cases h with
    | move hm h => exact ⟨.stay _, hm, h⟩
  | cons m' moves ih =>
    cases h with
    | move hm' h =>
      obtain ⟨hfirst, hm, hlater⟩ := ih h
      exact ⟨.move hm' hfirst, hm, hlater⟩

/-- What no move breaks is kept along a course. -/
theorem keeps {P : World σ → Prop} (h : Course w moves w')
    (hstep : ∀ m ∈ moves, m.Legal → P m.before → P m.after) (hw : P w) : P w' := by
  induction h with
  | stay => exact hw
  | @move m moves w hm _ ih =>
    rw [List.forall_mem_cons] at hstep
    exact ih hstep.2 (hstep.1 hm hw)

end Course

/-! ## Courses of operations -/

/-- There is a course from one world to the other in surroundings that `P` admits. -/
def Reaches (P : Surroundings σ → Prop) (w w' : World σ) : Prop :=
  ∃ moves, Course w moves w' ∧ ∀ m ∈ moves, ∀ s, m.surroundings? = some s → P s

section
variable {P : Surroundings σ → Prop}

theorem Reaches.of_move {m : Move σ} (hm : m.Legal) (hs : ∀ s, m.surroundings? = some s → P s) :
    Reaches P m.before m.after :=
  ⟨[m], .move hm (.stay _), by simpa using hs⟩

instance : Lenient (Reaches P) where
  of_same {w w'} hdb hattempts :=
    .of_move (m := .idle w w') (Lenient.of_same hdb hattempts : w.Spares w')
      (by simp [Move.surroundings?])

instance : IsTrans (World σ) (Reaches P) where
  trans := by
    rintro w w₁ w' ⟨moves, hcourse, hs⟩ ⟨later, hcourse', hs'⟩
    refine ⟨moves ++ later, hcourse.append hcourse', fun m hm => ?_⟩
    exact (List.mem_append.mp hm).elim (hs m) (hs' m)

theorem covers_reaches {s : Surroundings σ} (hs : P s) :
    Covers (fun _ => True) (Reaches P) s where
  spares w w' h := .of_move (m := .idle w w') h (by simp [Move.surroundings?])
  start trigger lead context w :=
    .of_move (m := .start s trigger lead context w) trivial (by simp [Move.surroundings?, hs])
  clock := trivial
  pass now _ w := .of_move (m := .pass ⟨s, now, w⟩) trivial (by simp [Move.surroundings?, hs])

/-- Every run of operations has a course. -/
theorem World.after_course (turns : List (Surroundings σ × Operation)) (w : World σ) :
    Reaches (· ∈ turns.map (·.1)) w (w.after turns) :=
  World.after_takes (fun _ hturn =>
    ⟨covers_reaches (List.mem_map_of_mem hturn), fun _ _ => trivial⟩) w

end

/-! ## What moves do -/

section
variable {w w' : World σ} {moves : List (Move σ)} {m : Move σ}

theorem Move.attempts_eq (hm : m.Legal) :
    m.after.attempts = m.before.attempts ++ m.attempts := by
  cases m with
  | idle w w' => exact (World.Spares.attempts_eq hm).trans (List.append_nil _).symm
  | start s trigger lead context w =>
    exact (triggerFunnels_starts trigger lead context w).attempts_eq.trans (List.append_nil _).symm
  | pass run => exact attempts_processExecutions run.now run.surroundings run.before

theorem Course.attempts_eq (h : Course w moves w') :
    w'.attempts = w.attempts ++ moves.flatMap Move.attempts := by
  induction h with
  | stay => exact (List.append_nil _).symm
  | move hm _ ih => rw [ih, Move.attempts_eq hm, List.flatMap_cons, List.append_assoc]

theorem Move.evolves {timely : Prop} (hm : m.Legal)
    (htimely : timely → ∀ run, m = .pass run → run.surroundings.Timely run.now) :
    m.before.database.Evolves timely m.after.database := by
  cases m with
  | idle w w' => exact .of_executions_eq (World.Spares.executions_eq hm)
  | start s trigger lead context w => exact (triggerFunnels_starts trigger lead context w).evolves
  | pass run => exact DroveSome.evolves (fun h => htimely h run rfl) processExecutions_droveSome

theorem Course.evolves {timely : Prop} (h : Course w moves w')
    (htimely : timely → ∀ run, .pass run ∈ moves → run.surroundings.Timely run.now) :
    w.database.Evolves timely w'.database := by
  induction h with
  | stay w => exact Std.Refl.refl w.database
  | @move m moves w hm _ ih =>
    have hfirst : m.before.database.Evolves timely m.after.database :=
      Move.evolves hm fun ht run hrun => htimely ht run (hrun ▸ List.mem_cons_self)
    refine IsTrans.trans _ _ _ hfirst (ih fun ht run hrun => ?_)
    exact htimely ht run (List.mem_cons_of_mem m hrun)

theorem Move.nodup_funnels (hm : m.Legal) (hk : m.before.database.Keyed)
    (h : (m.before.database.funnels.map (·.id)).Nodup) :
    (m.after.database.funnels.map (·.id)).Nodup := by
  cases m with
  | idle w w' => exact World.Spares.nodup_funnels hm h
  | start s trigger lead context w =>
    obtain ⟨-, -, news, -, -, hadds, -⟩ :=
      (triggerFunnels_starts (s := s) trigger lead context w).starts
    have hfunnels : (start s trigger lead context w).after.database.funnels = w.database.funnels :=
      congrArg (·.funnels) hadds.database_eq
    exact hfunnels ▸ h
  | pass run =>
    obtain ⟨-, g, hdb, -⟩ := (processExecutions_droveSome hk).rows hk
    have hfunnels : run.after.database.funnels = run.before.database.funnels :=
      congrArg (·.funnels) hdb
    exact (congrArg (fun rows => (rows.map (·.id)).Nodup) hfunnels).mpr h

theorem Course.nodup_funnels (h : Course w moves w') (hw : w.database.Sound)
    (hnodup : (w.database.funnels.map (·.id)).Nodup) : (w'.database.funnels.map (·.id)).Nodup := by
  refine (h.keeps (P := fun w => w.database.Sound ∧ (w.database.funnels.map (·.id)).Nodup)
    (fun m _ hm hbefore => ?_) ⟨hw, hnodup⟩).2
  obtain ⟨hsound, -⟩ := Move.evolves hm (fun h : False => h.elim) hbefore.1
  exact ⟨hsound, Move.nodup_funnels hm hbefore.1.keyed hbefore.2⟩

theorem reached_nodup_funnels (outside : σ) (naming : Naming)
    (turns : List (Surroundings σ × Operation)) :
    ((((World.fresh outside naming).after turns).database.funnels).map (·.id)).Nodup := by
  obtain ⟨moves, hcourse, -⟩ := (World.fresh outside naming).after_course turns
  exact hcourse.nodup_funnels Database.empty_sound List.nodup_nil

end

end Nurture
