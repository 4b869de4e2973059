import Nurture.Proofs.ExecutionTable
import Nurture.Proofs.Starts

/-!
  Changes of executions

  A patch that says changes of an execution is made exactly if the columns can take the values
  (`ExecutionRow.patch_says_eq_ok_iff`). A row that keeps an execution (`ExecutionRow.Keeps`) keeps
  the changed one afterwards, and what is read from it is the execution as it is `ShownAs`: its time
  as a reading on a UTC clock, its history as data that count as the same. Each call of the store of
  executions has one lemma for what it comes to.
-/

namespace Nurture

open Nurture.Action

variable {σ : Type} {s : Surroundings σ} {w : World σ} {db db' : Database} {e g : Execution}
  {r r' : ExecutionRow} {p : ExecutionPatch} {id : String} {now : Calendar.Stamp}

/-! ## Changes of an execution -/

/-- New values for some of the fields of an execution. -/
structure Changes where
  node : Option (Option String) := none
  status : Option Status := none
  nextRunAt : Option Calendar.Stamp := none
  history : Option (List Json.Fields) := none

/-- The columns of an execution can take the values: texts that can be encoded, and times that
have a UTC form. -/
structure Changes.Storable (c : Changes) : Prop where
  node : ∀ node ∈ c.node, ∀ id ∈ node, Text.isWhole id = true
  nextRunAt : ∀ t ∈ c.nextRunAt, ∃ m, t.toUtc = .ok m

/-- The patch gives the columns the new values; what else it names does not matter here. -/
structure ExecutionPatch.Says (p : ExecutionPatch) (c : Changes) : Prop where
  node : p.get? "current_node_id" = c.node.map fun id => .data (.ofOption id)
  status : p.get? "status" = c.status.map fun s => .data (.str s.name)
  nextRunAt : p.get? "next_run_at" = c.nextRunAt.map .time
  history : p.get? "history" = c.history.map fun h => .data (Execution.historyJson h)

/-- The execution with the changes made: a value that is given replaces the one before. -/
def Execution.changed (e : Execution) (c : Changes) : Execution :=
  { e with
    currentNodeId := c.node.getD e.currentNodeId
    status := c.status.getD e.status
    nextRunAt := c.nextRunAt.getD e.nextRunAt
    history := c.history.getD e.history }

/-- The row with the changes made; a history that is the same data is not written anew. -/
def ExecutionRow.changed (r : ExecutionRow) (c : Changes) : ExecutionRow :=
  { r with
    currentNodeId := c.node.getD r.currentNodeId
    status := (c.status.map Status.name).getD r.status
    nextRunAt := (c.nextRunAt.map Calendar.Stamp.instant).getD r.nextRunAt
    history :=
      (c.history.map fun h => keptData r.history (Execution.historyJson h)).getD r.history }

/-! ## Patching a row, column by column -/

namespace ExecutionRow

variable {c : Changes}

theorem columnOr_eq {α β : Type} {key : String} {value : Option β} {held : α}
    {put : β → PatchValue} (f : PatchValue → Except Failure α)
    (h : p.get? key = value.map put) :
    columnOr p key held f = (value.map fun v => f (put v)).getD (.ok held) := by
  unfold columnOr
  rw [h]
  cases value <;> rfl

theorem textOf_node {held node node' : Option String}
    (hheld : ∀ id ∈ held, Text.isWhole id = true) :
    textOf held (.data (.ofOption node)) = .ok node' ↔
      (∀ id ∈ node, Text.isWhole id = true) ∧ node' = node := by
  cases node with
  | none =>
    change Column.given? held .null = _ ↔ _
    rw [Column.given?_null, Except.ok.injEq, eq_comm]
    simp
  | some id =>
    change Column.given? held (.str id) = _ ↔ _
    constructor
    · intro h
      obtain rfl := Column.eq_of_given?_str h
      refine ⟨fun id' hid => ?_, rfl⟩
      obtain rfl := Option.mem_some_iff.mp hid
      -- a text that is held already is not looked at again
      unfold Column.given? at h
      split at h
      · exact hheld id (Except.ok.inj h)
      · obtain ⟨t, ht, ht'⟩ := map_eq_ok_iff.mp h
        obtain rfl := Option.some.inj ht'
        exact (Column.whole_eq_ok_iff.mp ht).2 ▸ (Column.whole_eq_ok_iff.mp ht).1
    · rintro ⟨hwhole, rfl⟩
      exact Column.given?_str (hwhole id rfl)

theorem timeOf_time {t : Calendar.Stamp} {x : Int} :
    timeOf (.time t) = .ok (some x) ↔ (∃ m, t.toUtc = .ok m) ∧ x = t.instant := by
  simp only [timeOf, map_eq_ok_iff, mapError_eq_ok_iff]
  constructor
  · rintro ⟨m, hm, hx⟩
    exact ⟨⟨m, hm⟩, (Option.some.inj hx).symm.trans (toUtc_wall hm)⟩
  · rintro ⟨⟨m, hm⟩, rfl⟩
    exact ⟨m, hm, congrArg some (toUtc_wall hm)⟩

/-- A patch is made if the columns can take its values and, if the row changes, the time can be
written. -/
theorem patch_says_eq_ok_iff (hp : p.Says c)
    (hnode : ∀ id ∈ r.currentNodeId, Text.isWhole id = true) :
    r.patch p now = .ok r' ↔
      c.Storable ∧ (r.differs p = true → Calendar.inRange now.instant = true) ∧
        r' = r.changed c := by
  have htime : ∀ x, columnOr p "next_run_at" (some r.nextRunAt) timeOf = .ok (some x) ↔
      (∀ t ∈ c.nextRunAt, ∃ m, t.toUtc = .ok m) ∧ x = (r.changed c).nextRunAt := by
    intro x
    rw [columnOr_eq _ hp.nextRunAt, changed]
    cases c.nextRunAt with
    | none => simp [eq_comm]
    | some t =>
      simp only [Option.map_some, Option.getD_some, Option.mem_some_iff, forall_eq', timeOf_time]
  have hhistory : columnOr p "history" r.history (historyOf r.history)
      = .ok (r.changed c).history := by
    rw [columnOr_eq _ hp.history, changed]
    cases c.history <;> rfl
  have hcurrent : ∀ node, columnOr p "current_node_id" r.currentNodeId (textOf r.currentNodeId)
      = .ok node ↔ (∀ node ∈ c.node, ∀ id ∈ node, Text.isWhole id = true) ∧
        node = (r.changed c).currentNodeId := by
    intro node
    rw [columnOr_eq _ hp.node, changed]
    cases c.node with
    | none => exact ⟨fun h => ⟨nofun, (Except.ok.inj h).symm⟩, fun h => congrArg Except.ok h.2.symm⟩
    | some node' =>
      simp only [Option.map_some, Option.getD_some, Option.mem_some_iff, forall_eq',
        textOf_node hnode]
  have hstatus : columnOr p "status" (some r.status) (textOf (some r.status))
      = .ok (some (r.changed c).status) := by
    rw [columnOr_eq _ hp.status, changed]
    cases c.status with
    | none => rfl
    | some status => exact Column.given?_str (by cases status <;> decide)
  rw [patch_eq_ok_iff]
  constructor
  · rintro ⟨time, history, node, status, ht, hh, hn, hs, hwrite, rfl⟩
    obtain ⟨htimes, rfl⟩ := (htime time).mp ht
    obtain ⟨hnodes, rfl⟩ := (hcurrent node).mp hn
    rw [hhistory] at hh
    rw [hstatus] at hs
    cases hh
    cases hs
    exact ⟨⟨hnodes, htimes⟩, hwrite, rfl⟩
  · rintro ⟨hstorable, hwrite, rfl⟩
    exact ⟨_, _, _, _, (htime _).mpr ⟨hstorable.nextRunAt, rfl⟩, hhistory,
      (hcurrent _).mpr ⟨hstorable.node, rfl⟩, hstatus, hwrite, rfl⟩

end ExecutionRow

/-! ## Rows that keep an execution -/

/-- The row keeps the execution, dated by its own creation. -/
structure ExecutionRow.Keeps (r : ExecutionRow) (e : Execution) : Prop where
  id_eq : r.id = e.id
  funnelId_eq : r.funnelId = e.funnelId
  leadId_eq : r.leadId = e.leadId
  node_eq : r.currentNodeId = e.currentNodeId
  node_whole : ∀ id ∈ e.currentNodeId, Text.isWhole id = true
  status_eq : r.status = e.status.name
  nextRunAt_eq : r.nextRunAt = e.nextRunAt.instant
  history : ∃ kept, r.history = Execution.historyJson kept ∧ (kept = e.history ∨
    (Execution.historyJson kept).same (Execution.historyJson e.history) = true)
  context_eq : r.context = e.context
  createdAt_eq : e.createdAt = some (.floating r.createdAt)

/-- What is shown of an execution: its time is that of a UTC clock, and its history may be other
data that count as the same. -/
structure Execution.ShownAs (e g : Execution) : Prop where
  id_eq : g.id = e.id
  funnelId_eq : g.funnelId = e.funnelId
  leadId_eq : g.leadId = e.leadId
  node_eq : g.currentNodeId = e.currentNodeId
  status_eq : g.status = e.status
  nextRunAt_eq : g.nextRunAt = .ahead e.nextRunAt.instant 0
  history : g.history = e.history ∨
    (Execution.historyJson g.history).same (Execution.historyJson e.history) = true
  context_eq : g.context = e.context
  createdAt_eq : g.createdAt = e.createdAt

namespace ExecutionRow.Keeps

variable {c : Changes}

theorem load (h : r.Keeps e) : ∃ g, r.load = .ok g ∧ e.ShownAs g := by
  obtain ⟨kept, hkept, hsame⟩ := h.history
  refine ⟨r.toExecution e.status kept, ExecutionRow.load_eq_ok_iff.mpr
    ⟨e.status, kept, h.status_eq, .inl hkept, rfl⟩, ?_⟩
  exact ⟨h.id_eq, h.funnelId_eq, h.leadId_eq, h.node_eq, rfl,
    congrArg (Calendar.Stamp.ahead · 0) h.nextRunAt_eq, hsame, h.context_eq,
    h.createdAt_eq.symm⟩

theorem loads {rows : List ExecutionRow} {es : List Execution}
    (h : List.Forall₂ ExecutionRow.Keeps rows es) :
    ∃ items, List.Forall₂ (fun r g => ExecutionRow.load r = .ok g) rows items ∧
      List.Forall₂ Execution.ShownAs es items := by
  induction h with
  | nil => exact ⟨[], .nil, .nil⟩
  | cons hkeeps _ ih =>
    obtain ⟨g, hload, hshown⟩ := hkeeps.load
    obtain ⟨items, hloads, hshows⟩ := ih
    exact ⟨g :: items, .cons hload hloads, .cons hshown hshows⟩

/-- Changes that the columns can take are made in the row as in the execution. -/
theorem changed (h : r.Keeps e) (hc : c.Storable) : (r.changed c).Keeps (e.changed c) := by
  refine ⟨h.id_eq, h.funnelId_eq, h.leadId_eq, ?_, ?_, ?_, ?_, ?_, h.context_eq, h.createdAt_eq⟩
  · exact congrArg c.node.getD h.node_eq
  · show ∀ id ∈ c.node.getD e.currentNodeId, Text.isWhole id = true
    cases hnode : c.node with
    | none => exact h.node_whole
    | some node => exact hc.node node hnode
  · show (c.status.map Status.name).getD r.status = (c.status.getD e.status).name
    cases c.status with
    | none => exact h.status_eq
    | some status => rfl
  · show (c.nextRunAt.map Calendar.Stamp.instant).getD r.nextRunAt
      = (c.nextRunAt.getD e.nextRunAt).instant
    cases c.nextRunAt with
    | none => exact h.nextRunAt_eq
    | some t => rfl
  · obtain ⟨kept, hkept, hsame⟩ := h.history
    unfold ExecutionRow.changed Execution.changed
    cases c.history with
    | none => exact ⟨kept, hkept, hsame⟩
    | some history =>
      simp only [Option.map_some, Option.getD_some, keptData, hkept]
      split
      · rename_i hheld
        exact ⟨kept, rfl, .inr hheld⟩
      · exact ⟨history, rfl, .inl rfl⟩

end ExecutionRow.Keeps

/-! ## What the calls come to -/

namespace Store

theorem run_patchRow_eq (id : String) (p : ExecutionPatch) (s : Surroundings σ) (w : World σ) :
    (patchRow id p).run s w =
      if p.unknown ≠ [] then (.error (.lockedFields "execution" p.unknown), w)
      else match Column.whole id with
        | .error e => (.error e, w)
        | .ok _ => match w.database.executions.find? fun r => r.id == id with
          | none => (.ok false, w)
          | some r => match r.patch p s.databaseClock with
            | .error e => (.error e, w)
            | .ok r' => (.ok true, { w with database := w.database.putExecution r' }) := by
  unfold patchRow
  dsimp only
  split
  · rfl
  · rw [run_bind, executionRow?, run_lookup]
    cases Column.whole id with
    | error e => rfl
    | ok _ =>
      simp only [Except.map]
      cases w.database.executions.find? fun r => r.id == id with
      | none => rfl
      | some r =>
        dsimp only
        rw [run_bind_ok (run_databaseClock s w), run_bind, run_ofExcept]
        cases r.patch p s.databaseClock <;> rfl

/-- Patching an execution is answered with the row changed, or changes nothing. -/
theorem updateExecution_changes (id : String) (p : ExecutionPatch) (s : Surroundings σ)
    (w : World σ) :
    (((updateExecution id p).run s w).1 = .ok (.own true) ∧
      ∃ r ∈ w.database.executions, r.id = id ∧ ∃ r', r.patch p s.databaseClock = .ok r' ∧
        ((updateExecution id p).run s w).2.database = w.database.change id fun _ => r') ∨
    (((updateExecution id p).run s w).1 ≠ .ok (.own true) ∧
      ((updateExecution id p).run s w).2.database = w.database) := by
  rw [updateExecution_eq]
  refine guarded_leaves (Q := fun reply db _ => (reply = .ok (.own true) ∧
      ∃ r ∈ w.database.executions, r.id = id ∧ ∃ r', r.patch p s.databaseClock = .ok r' ∧
        db = w.database.change id fun _ => r') ∨ (reply ≠ .ok (.own true) ∧ db = w.database))
    (fun _ => .inr ⟨nofun, rfl⟩) (fun _ => .inr ⟨nofun, rfl⟩) fun o => ?_
  rw [run_patchRow_eq]
  split
  · exact .inr ⟨nofun, rfl⟩
  · cases Column.whole id with
    | error e => exact .inr ⟨nofun, rfl⟩
    | ok _ =>
      dsimp only
      cases hfind : w.database.executions.find? fun r => r.id == id with
      | none => exact .inr ⟨nofun, rfl⟩
      | some r =>
        obtain rfl : r.id = id := by simpa using List.find?_some hfind
        have hr := List.mem_of_find?_eq_some hfind
        dsimp only
        cases hpatch : r.patch p s.databaseClock with
        | error e => exact .inr ⟨nofun, rfl⟩
        | ok r' =>
          exact .inl ⟨rfl, r, hr, rfl, r', hpatch,
            Database.Keyed.putRow_eq hr (id_of_patch hpatch)⟩

theorem run_updateExecution (hs : (s.interrupt .updateExecution w.outside).1 = none) :
    ((updateExecution id p).run s w).1 =
      if p.unknown ≠ [] then .error (.lockedFields "execution" p.unknown)
      else match Column.whole id with
        | .error e => .error e
        | .ok _ => match w.database.executions.find? fun r => r.id == id with
          | none => .ok (.own false)
          | some r => (r.patch p s.databaseClock).map fun _ => .own true := by
  rw [updateExecution_eq, guarded, relayed_of_none hs, run_map, run_patchRow_eq]
  split
  · rfl
  · cases Column.whole id with
    | error e => rfl
    | ok _ =>
      dsimp only
      cases w.database.executions.find? fun r => r.id == id with
      | none => rfl
      | some r =>
        dsimp only
        cases r.patch p s.databaseClock <;> rfl

theorem run_getExecution (hs : (s.interrupt .getExecution w.outside).1 = none)
    (hid : Text.isWhole id = true) :
    ((getExecution id).run s w).1 =
      (match w.database.executions.find? fun r => r.id == id with
        | some r => r.load.map fun e => .own (some e)
        | none => .ok (.own none)) := by
  have hrow : ∀ w' : World σ, (executionRow? id).run s w'
      = (.ok (w'.database.executions.find? fun r => r.id == id), w') := by
    intro w'
    rw [executionRow?, run_lookup, Column.whole_eq_ok hid]
    rfl
  rw [getExecution, guarded, relayed_of_none hs, run_map, run_bind_ok (hrow _)]
  cases w.database.executions.find? fun r => r.id == id with
  | none => rfl
  | some r =>
    dsimp only
    rw [run_map, run_ofExcept]
    cases r.load <;> rfl

theorem run_listExecutions {status funnelId leadId : Option String} {items : List Execution}
    (hs : (s.interrupt .listExecutions w.outside).1 = none)
    (hstatus : checkStatusFilter status = .ok ())
    (hfunnel : ∀ t ∈ funnelId, Text.isWhole t = true)
    (hlead : ∀ t ∈ leadId, Text.isWhole t = true)
    (hload : List.Forall₂ (fun r e => ExecutionRow.load r = .ok e)
      (w.database.selected status funnelId leadId) items) :
    ((listExecutions status funnelId leadId).run s w).1 = .ok (.own items) := by
  have hload' : ((inOrder (·.createdAt) (w.database.executions.filter fun r =>
      passes status r.status && passes funnelId r.funnelId && passes leadId r.leadId)).mapM
        ExecutionRow.load) = .ok items := mapM_eq_ok_iff.mpr hload
  rw [listExecutions, guarded, relayed_of_none hs, run_map, hstatus,
    Column.optional_eq_ok_iff.mpr ⟨hfunnel, rfl⟩, Column.optional_eq_ok_iff.mpr ⟨hlead, rfl⟩]
  change (((ofExcept ((inOrder _ _).mapM _)).run s _).1).map _ = _
  rw [run_ofExcept, hload']
  rfl

end Store

end Nurture
