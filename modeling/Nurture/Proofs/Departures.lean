import Nurture.Proofs.Driving

/-!
  Departures

  What may become of one execution in a pass, whatever its funnel, its lead and the
  outside are: `Drove` relates its row, the answer of the driving and the row
  afterwards. No other row and no other table is touched
  (`processExecution_drove`). Later proofs about passes use the driving of an execution only through
  this relation.
-/

namespace Nurture

variable {σ : Type} {s : Surroundings σ} {f : Funnel} {ctx : StepContext}

/-! ## What a walk comes to -/

/-- A walk adds an entry to the history for each node passed, and parks where one of the funnel's
nodes says. -/
inductive Walked (f : Funnel) (ctx : StepContext) (policy : Policy) (history : List Json.Fields) :
    Except Failure (Journey × List Json.Fields) → Prop
  | unparked (j : Journey) (passed : List Visit)
      (h : ∀ n node resumeAt, j ≠ .parked n node resumeAt) :
      Walked f ctx policy history (.ok (j, history ++ passed.map (Visit.entry ctx.now)))
  | parked {n : Node} {node : String} {resumeAt : Calendar.Stamp} (passed : List Visit)
      (hn : n ∈ f.nodes) (h : Step.Waits ctx policy n node resumeAt) :
      Walked f ctx policy history
        (.ok (.parked n node resumeAt, history ++ passed.map (Visit.entry ctx.now)))
  | broke (cause : Failure) : Walked f ctx policy history (.error cause)

/-- The last node of a walk is run: the walk goes no further, if the node does not advance. -/
theorem run_walk_last {k visited : Nat} {start : Option String} {id : String} {n : Node}
    {history : List Json.Fields} {passed : List Visit} {w : World σ}
    (hid : reference start = some id)
    (hn : f.node? id = some n) (hhalt : Halts f ctx s start w) :
    Walked f ctx s.policy history ((walk f ctx (k + 1) visited start
      (history ++ passed.map (Visit.entry ctx.now))).run s w).1 ∧
    ((walk f ctx (k + 1) visited start
      (history ++ passed.map (Visit.entry ctx.now))).run s w).2.database = w.database := by
  obtain ⟨hdb, tried, -, hcame⟩ := Step.perform_came (s := s) ctx n w
  have hno := hhalt id n hid hn
  rw [run_walk_succ hid hn]
  rcases hrun : (Step.perform ctx n).run s w with ⟨cause | result, w₁⟩
  · rw [hrun] at hdb
    exact ⟨.broke cause, hdb⟩
  · rw [hrun] at hdb hcame
    cases result with
    | advanced next sent => exact absurd hrun (hno next sent w₁)
    | suspended node resumeAt => exact ⟨.parked passed (mem_of_findNode hn) hcame.waits, hdb⟩
    | failed error retryable => exact ⟨.unparked _ passed (by intro _ _ _ h; cases h), hdb⟩

theorem walk_walked (k visited : Nat) (start : Option String) (history : List Json.Fields)
    (w : World σ) :
    Walked f ctx s.policy history ((walk f ctx k visited start history).run s w).1 ∧
      ((walk f ctx k visited start history).run s w).2.database = w.database := by
  obtain ⟨visits, stop, w₁, ht, hle, hhalt⟩ := exists_traversal f ctx s start w k
  rw [ht.run_walk hle, ← ht.database_eq]
  cases hid : reference stop with
  | none =>
    rw [run_walk_ended hid]
    exact ⟨.unparked _ _ (by intro _ _ _ h; cases h), rfl⟩
  | some id =>
    cases hn : f.node? id with
    | none =>
      rw [run_walk_unreachable hid hn]
      exact ⟨.unparked _ _ (by intro _ _ _ h; cases h), rfl⟩
    | some n =>
      rcases Nat.eq_or_lt_of_le hle with hk | hlt
      · -- the bound is reached
        rw [hk, Nat.sub_self, run_walk_looping hid hn]
        exact ⟨.unparked _ _ (by intro _ _ _ h; cases h), rfl⟩
      · -- the traversal cannot go on
        obtain ⟨m, hm⟩ : ∃ m, k - visits.length = m + 1 := ⟨k - visits.length - 1, by omega⟩
        rw [hm]
        exact run_walk_last hid hn (hhalt hlt)

/-! ## What becomes of a row -/

/-- Something else answers some write. -/
def Answered (s : Surroundings σ) : Prop :=
  ∃ o j, (s.interrupt .updateExecution o).1 = some (.answers j)

/-- What a walk came to was recorded: what driving answers then, and the row afterwards. It is what
it was unless the one write is made. -/
inductive Settled (s : Surroundings σ) (now : Calendar.Stamp) (r : ExecutionRow) :
    Except Failure (Journey × List Json.Fields) → Except Failure Departure → ExecutionRow → Prop
  | broke (cause : Failure) : Settled s now r (.error cause) (.error cause) r
  | failed (n : Node) (error : String) (history : List Json.Fields) :
      Settled s now r (.ok (.failed n error, history)) (.ok .failed) r
  | refused (j : Journey) (history : List Json.Fields) (cause : Failure) :
      Settled s now r (.ok (j, history)) (.error cause) r
  | answered (h : Answered s) (j : Journey) (history : List Json.Fields) :
      Settled s now r (.ok (j, history)) (.ok j.departure) r
  | ended {j : Journey} (hj : j.departure = .completed) (history : List Json.Fields) :
      Settled s now r (.ok (j, history)) (.ok .completed) (r.ended (history ++ j.entries now))
  | parked {n : Node} {node : String} {resumeAt : Calendar.Stamp} (history : List Json.Fields)
      (htime : ∃ m, resumeAt.toUtc = .ok m) :
      Settled s now r (.ok (.parked n node resumeAt, history)) (.ok .suspended)
        (r.parkedAt node resumeAt.instant (history ++ [suspendedEntry n resumeAt now]))

/-- An execution was driven: its row, the answer, and its row afterwards. -/
inductive Drove (s : Surroundings σ) (now : Calendar.Stamp) (r : ExecutionRow)
    (history : List Json.Fields) : Except Failure Departure → ExecutionRow → Prop
  | completed (more : List Json.Fields) :
      Drove s now r history (.ok .completed) (r.ended (history ++ more))
  | suspended {f : Funnel} {ctx : StepContext} {n : Node} {node : String}
      {resumeAt : Calendar.Stamp} {more : List Json.Fields} (hf : f.Validated) (hn : n ∈ f.nodes)
      (hnow : ctx.now = now) (hwaits : Step.Waits ctx s.policy n node resumeAt)
      (hmore : more ≠ []) :
      Drove s now r history (.ok .suspended) (r.parkedAt node resumeAt.instant (history ++ more))
  | failed : Drove s now r history (.ok .failed) r
  | broke (cause : Failure) : Drove s now r history (.error cause) r
  | answered (h : Answered s) (d : Departure) : Drove s now r history (.ok d) r

/-- An action leaves every row but `r` alone, and what becomes of `r` is related to its answer. -/
def Action.Makes {α : Type} (x : Action σ α) (s : Surroundings σ) (w : World σ) (r : ExecutionRow)
    (P : Except Failure α → ExecutionRow → Prop) : Prop :=
  ∃ answer w' r', x.run s w = (answer, w') ∧
    w'.database = w.database.change r.id (fun _ => r') ∧ P answer r'

section
variable {w : World σ} {r : ExecutionRow} {history : List Json.Fields} {now : Calendar.Stamp}

theorem Database.Keyed.change_self {db : Database} (hk : db.Keyed) (hr : r ∈ db.executions) :
    db.change r.id (fun _ => r) = db := by
  have hid : ∀ x ∈ db.executions, (if x.id = r.id then r else x) = x := by
    intro x hx
    split
    · rename_i h
      exact hk.eq_of_id hr hx h.symm
    · rfl
  rw [Database.change, List.map_congr_left hid, List.map_id']

variable (hk : w.database.Keyed) (hr : r ∈ w.database.executions)
include hk hr

theorem Action.Makes.of_unchanged {α : Type} {x : Action σ α} {w' : World σ}
    {answer : Except Failure α} {P : Except Failure α → ExecutionRow → Prop}
    (hrun : x.run s w = (answer, w')) (hdb : w'.database = w.database) (h : P answer r) :
    x.Makes s w r P :=
  ⟨answer, w', r, hrun, hdb.trans (hk.change_self hr).symm, h⟩

theorem Action.Writes.makes {x : Action σ Departure} {p : ExecutionPatch} {d : Departure}
    {P : Except Failure Departure → ExecutionRow → Prop} (hx : x.Writes s w r.id p d)
    (hp : p.unknown = []) (hbroke : ∀ e, P (.error e) r) (hanswered : Answered s → P (.ok d) r)
    (hpatch : ∀ r', r.patch p s.databaseClock = .ok r' → P (.ok d) r') : x.Makes s w r P := by
  obtain ⟨w₀, hsame, hrest⟩ := hx
  rw [← hsame.1] at hk hr
  obtain ⟨reply, w₁, hrun, -, hcases⟩ := Store.updateExecution_cases hk hr hp
  obtain ⟨w₂, hsame', hx⟩ := hrest reply w₁ hrun
  rw [hsame.1] at hk hr hcases
  rcases hcases with ⟨e, rfl, hdb⟩ | ⟨j, o, hj, rfl, hdb⟩ | ⟨r', hr', rfl, hdb⟩
  · exact .of_unchanged hk hr hx (hsame'.1.trans hdb) (hbroke e)
  · exact .of_unchanged hk hr hx (hsame'.1.trans hdb) (hanswered ⟨_, j, by rw [hj]⟩)
  · exact ⟨_, w₂, r', hx, hsame'.1.trans hdb, hpatch r' hr'⟩

/-- What becomes of a row whose execution walked. -/
theorem settle_settled {j : Journey} {after : List Json.Fields} (hid : ctx.execution.id = r.id)
    (hh : r.Holds history) (hf : f.Validated)
    (hwalked : Walked f ctx s.policy history (.ok (j, after))) :
    (settle f ctx j after).Makes s w r (Settled s ctx.now r (.ok (j, after))) := by
  have hcompletes : ∀ more, j.departure = .completed →
      j.patch? ctx.now (history ++ more) = some (.complete (history ++ more ++ j.entries ctx.now)) →
      (settle f ctx j (history ++ more)).Makes s w r
        (Settled s ctx.now r (.ok (j, history ++ more))) := by
    intro more hd hp
    have hx := settle_writes (s := s) (f := f) hp w
    rw [hid] at hx
    refine hx.makes hk hr Store.complete_unknown (.refused _ _) (fun h => .answered h _ _)
      fun r' hr' => ?_
    rw [List.append_assoc] at hr'
    obtain ⟨-, rfl⟩ := (ExecutionRow.patch_complete_eq_ok_iff hh).mp hr'
    rw [← List.append_assoc, hd]
    exact .ended hd _
  cases hwalked with
  | unparked _ passed hno =>
    cases j with
    | ended => exact hcompletes _ rfl rfl
    | unreachable id => exact hcompletes _ rfl rfl
    | looping n visited => exact hcompletes _ rfl rfl
    | parked n node resumeAt => exact absurd rfl (hno n node resumeAt)
    | failed n error =>
      obtain ⟨w₁, hsame, hrun⟩ := @run_settle_failed σ s f ctx _ n error w
      exact .of_unchanged hk hr hrun hsame.1 (.failed n error _)
  | @parked n node resumeAt passed hn hwaits =>
    have hx := @settle_writes σ s f ctx (history ++ passed.map (Visit.entry ctx.now)) _
      (.parked n node resumeAt) rfl w
    rw [hid] at hx
    refine hx.makes hk hr Store.park_unknown (.refused _ _) (fun h => .answered h _ _)
      fun r' hr' => ?_
    have hnode := hf.id_whole_of_mem_ids (hwaits.mem_ids hf hn)
    rw [List.append_assoc] at hr'
    obtain ⟨-, htime, rfl⟩ := (ExecutionRow.patch_park_eq_ok_iff hh hnode).mp hr'
    rw [← List.append_assoc]
    exact .parked _ htime

omit hk hr in
theorem Settled.drove {outcome : Except Failure (Journey × List Json.Fields)}
    {answer : Except Failure Departure} {r' : ExecutionRow} (hf : f.Validated)
    (hwalked : Walked f ctx s.policy history outcome) (h : Settled s ctx.now r outcome answer r') :
    Drove s ctx.now r history answer r' := by
  cases h with
  | broke cause => exact .broke cause
  | failed n error after => exact .failed
  | refused j after cause => exact .broke cause
  | answered h j after => exact .answered h _
  | ended hj after =>
    cases hwalked with
    | unparked _ passed hno =>
      rw [List.append_assoc]
      exact .completed _
    | parked passed hn hwaits => cases hj
  | parked after htime =>
    cases hwalked with
    | unparked _ passed hno => exact absurd rfl (hno _ _ _)
    | parked passed hn hwaits =>
      rw [List.append_assoc]
      exact .suspended hf hn rfl hwaits (by simp)

variable (s now) in
/-- Driving an execution whose funnel and lead are there records what its walk comes to. -/
theorem processExecution_settled {e : Execution} (lead : Lead) (hload : r.load = .ok e)
    (hf : f.Validated) :
    (processExecution e (some f) (some lead) now).Makes s w r (Settled s now r
      ((walk f ⟨e, lead, now⟩ s.policy.bound 0 e.currentNodeId e.history).run s w).1) := by
  obtain ⟨status, history, -, hh, rfl⟩ := ExecutionRow.load_eq_ok_iff.mp hload
  obtain ⟨hwalked, hdb⟩ := @walk_walked σ s f ⟨r.toExecution status history, lead, now⟩
    s.policy.bound 0 r.currentNodeId history w
  change (processExecution (r.toExecution status history) (some f) (some lead) now).Makes s w r
    (Settled s now r ((walk f ⟨r.toExecution status history, lead, now⟩ s.policy.bound 0
      r.currentNodeId history).run s w).1)
  rcases hrun : (walk f ⟨r.toExecution status history, lead, now⟩ s.policy.bound 0
    r.currentNodeId history).run s w with ⟨cause | ⟨j, after⟩, w₁⟩
  · rw [hrun] at hdb
    refine .of_unchanged hk hr ?_ hdb (.broke cause)
    rw [run_processExecution]
    exact Action.run_bind_error hrun
  · rw [hrun] at hwalked hdb
    rw [← hdb] at hk hr
    obtain ⟨answer, w', r', hsettle, hdb', h⟩ := settle_settled hk hr rfl hh hf hwalked
    refine ⟨answer, w', r', ?_, by rw [hdb', hdb], h⟩
    rw [run_processExecution]
    exact (Action.run_bind_ok hrun).trans hsettle

variable (s now) in
theorem processExecution_orphaned {e : Execution} {funnel : Option Funnel} {lead : Option Lead}
    (hload : r.load = .ok e) (hgone : funnel = none ∨ lead = none) :
    (processExecution e funnel lead now).Makes s w r fun answer r' =>
      Drove s now r e.history answer r' ∧ (r' = r ∨ r' = r.ended
        (e.history ++ [historyEntry (e.currentNodeId.getD "") none "orphaned" now []])) := by
  obtain ⟨status, history, -, hh, rfl⟩ := ExecutionRow.load_eq_ok_iff.mp hload
  have horphan : (do
      Action.note [.execution r.id r.leadId (.orphaned r.funnelId)]
      completeExecution r.id
        (history ++ [historyEntry (r.currentNodeId.getD "") none "orphaned" now []])
      return .completed : Action σ Departure).Makes s w r fun answer r' =>
        Drove s now r history answer r' ∧ (r' = r ∨ r' = r.ended
          (history ++ [historyEntry (r.currentNodeId.getD "") none "orphaned" now []])) := by
    refine (noteThenComplete_writes r.id _ w).makes hk hr Store.complete_unknown
      (fun e => ⟨.broke e, .inl rfl⟩) (fun h => ⟨.answered h _, .inl rfl⟩) fun r' hr' => ?_
    obtain ⟨-, rfl⟩ := (ExecutionRow.patch_complete_eq_ok_iff hh).mp hr'
    exact ⟨.completed _, .inr rfl⟩
  cases funnel with
  | none => exact horphan
  | some f =>
    cases lead with
    | none => exact horphan
    | some lead => simp at hgone

/-- Whatever its funnel, its lead and the outside are, driving an execution touches no row but its
own. -/
theorem processExecution_drove {e : Execution} {funnel : Option Funnel} {lead : Option Lead}
    (hload : r.load = .ok e) (hf : ∀ f, funnel = some f → f.Validated) :
    (processExecution e funnel lead now).Makes s w r (Drove s now r e.history) := by
  have horphan : (funnel = none ∨ lead = none) →
      (processExecution e funnel lead now).Makes s w r (Drove s now r e.history) := by
    intro hgone
    obtain ⟨answer, w', r', hrun, hdb, h, -⟩ :=
      processExecution_orphaned s now hk hr hload hgone
    exact ⟨answer, w', r', hrun, hdb, h⟩
  cases funnel with
  | none => exact horphan (.inl rfl)
  | some f =>
    cases lead with
    | none => exact horphan (.inr rfl)
    | some lead =>
      obtain ⟨answer, w', r', hrun, hdb, h⟩ :=
        processExecution_settled s now hk hr lead hload (hf f rfl)
      obtain ⟨hwalked, -⟩ := @walk_walked σ s f ⟨e, lead, now⟩ s.policy.bound 0 e.currentNodeId
        e.history w
      exact ⟨answer, w', r', hrun, hdb, Settled.drove (hf f rfl) hwalked h⟩

end

end Nurture
