import Nurture.Proofs.ExecutionRows
import Nurture.Proofs.Frame
import Nurture.Proofs.Rows

/-!
  The table of executions

  The rows have identifiers of their own (`Database.Keyed`), so a call that names a row
  touches no other. The lemmas say what the calls of the store make of the table: a
  patch changes one row in its place (`Database.change`), a new row stands at the end,
  and a call that fails, or that something else answers, changes nothing.
-/

namespace Nurture

variable {σ : Type} {s : Surroundings σ} {db : Database}

namespace Database

/-- The rows of executions have identifiers of their own, which can be searched for. -/
structure Keyed (db : Database) : Prop where
  nodup : (db.executions.map (·.id)).Nodup
  whole : ∀ r ∈ db.executions, Text.isWhole r.id = true

/-- The tables with the row of an execution changed in its place. -/
def change (db : Database) (id : String) (g : ExecutionRow → ExecutionRow) : Database :=
  { db with executions := db.executions.map fun r => if r.id = id then g r else r }

/-- The tables with the row of an execution put in the place of the one with its identifier. -/
def putExecution (db : Database) (r : ExecutionRow) : Database :=
  { db with executions := putRow (·.id) r db.executions }

theorem mem_change {id : String} {g : ExecutionRow → ExecutionRow} {r : ExecutionRow} :
    r ∈ (db.change id g).executions ↔
      (∃ r₀ ∈ db.executions, r₀.id = id ∧ r = g r₀) ∨ (r ∈ db.executions ∧ r.id ≠ id) := by
  rw [change, List.mem_map]
  constructor
  · rintro ⟨r₀, hr₀, rfl⟩
    by_cases hid : r₀.id = id
    · rw [if_pos hid]
      exact .inl ⟨r₀, hr₀, hid, rfl⟩
    · rw [if_neg hid]
      exact .inr ⟨hr₀, hid⟩
  · rintro (⟨r₀, hr₀, hid, rfl⟩ | ⟨hr, hid⟩)
    · exact ⟨r₀, hr₀, if_pos hid⟩
    · exact ⟨r, hr, if_neg hid⟩

namespace Keyed

variable {r r' : ExecutionRow}

theorem eq_of_id (hk : db.Keyed) (hr : r ∈ db.executions) (hr' : r' ∈ db.executions)
    (h : r.id = r'.id) : r = r' :=
  List.inj_on_of_nodup_map hk.nodup hr hr' h

theorem find?_id (hk : db.Keyed) (hr : r ∈ db.executions) :
    (db.executions.find? fun x => x.id == r.id) = some r :=
  find?_key hk.nodup hr

theorem change_congr (hk : db.Keyed) (hr : r ∈ db.executions)
    {g g' : ExecutionRow → ExecutionRow} (h : g r = g' r) :
    db.change r.id g = db.change r.id g' := by
  unfold change
  congr 1
  apply List.map_congr_left
  intro x hx
  by_cases hid : x.id = r.id
  · rw [if_pos hid, if_pos hid, hk.eq_of_id hx hr hid, h]
  · rw [if_neg hid, if_neg hid]

theorem change_keyed (hk : db.Keyed) {id : String} {g : ExecutionRow → ExecutionRow}
    (hg : ∀ r, r.id = id → (g r).id = id) : (db.change id g).Keyed := by
  have hids : (db.change id g).executions.map (·.id) = db.executions.map (·.id) := by
    rw [change, List.map_map]
    apply List.map_congr_left
    intro r _
    by_cases hid : r.id = id
    · rw [Function.comp, if_pos hid, hg r hid, hid]
    · rw [Function.comp, if_neg hid]
  refine ⟨hids ▸ hk.nodup, fun r hr => ?_⟩
  have hmem : r.id ∈ db.executions.map (·.id) := hids ▸ List.mem_map_of_mem hr
  obtain ⟨r₀, hr₀, hid⟩ := List.mem_map.mp hmem
  exact hid ▸ hk.whole r₀ hr₀

theorem putRow_eq (hr : r ∈ db.executions) (hid : r'.id = r.id) :
    { db with executions := putRow (·.id) r' db.executions } = db.change r.id fun _ => r' := by
  have hany : (db.executions.any fun x => x.id == r'.id) = true :=
    List.any_eq_true.mpr ⟨r, hr, by simp [hid]⟩
  unfold change putRow
  rw [if_pos hany]
  congr 1
  apply List.map_congr_left
  intro x _
  simp only [beq_iff_eq, hid]

end Keyed

end Database

/-! ## Calls of the store -/

namespace Store

open Nurture.Action

variable {w : World σ} {r r' : ExecutionRow} {p : ExecutionPatch}

/-- What patching a row comes to, apart from what may come in its way. -/
def patchRow (id : String) (p : ExecutionPatch) : Action σ Bool := do
  if p.unknown ≠ [] then Action.fail (.lockedFields "execution" p.unknown)
  match ← executionRow? id with
  | none => return false
  | some row =>
    let now ← Action.databaseClock
    let row ← Action.ofExcept (row.patch p now)
    Action.modifyDatabase fun db => { db with executions := putRow (·.id) row db.executions }
    return true

theorem run_lookup {α : Type} (f : Database → String → α) (t : String) (s : Surroundings σ)
    (w : World σ) :
    (do
      let t ← Action.ofExcept (Column.whole t)
      let db ← Action.database
      return f db t : Action σ α).run s w = ((Column.whole t).map fun _ => f w.database t, w) := by
  rw [run_bind, run_ofExcept]
  cases h : Column.whole t with
  | error e => rfl
  | ok t' =>
    obtain rfl := (Column.whole_eq_ok_iff.mp h).2
    rfl

theorem updateExecution_eq (id : String) (p : ExecutionPatch) :
    (updateExecution id p : Action σ (Reply Bool)) = guarded .updateExecution (patchRow id p) := rfl

theorem run_executionRow? (hk : w.database.Keyed) (hr : r ∈ w.database.executions) :
    (executionRow? r.id).run s w = (.ok (some r), w) := by
  have hwhole : ofExcept (Column.whole r.id) = (pure r.id : Action σ String) := by
    rw [Column.whole_eq_ok (hk.whole r hr)]
    rfl
  unfold executionRow?
  rw [hwhole]
  change (Except.ok (w.database.executions.find? fun x => x.id == r.id), w) = _
  rw [hk.find?_id hr]

theorem id_of_patch {now : Calendar.Stamp} (h : r.patch p now = .ok r') : r'.id = r.id := by
  obtain ⟨_, _, _, _, -, -, -, -, -, rfl⟩ := ExecutionRow.patch_eq_ok_iff.mp h
  rfl

theorem run_patchRow (hk : w.database.Keyed) (hr : r ∈ w.database.executions)
    (hp : p.unknown = []) :
    (patchRow r.id p).run s w = match r.patch p s.databaseClock with
      | .ok r' => (.ok true, { w with database := w.database.change r.id fun _ => r' })
      | .error e => (.error e, w) := by
  have hrow := run_executionRow? (s := s) hk hr
  unfold patchRow
  simp only [hp, ne_eq, not_true_eq_false, if_false]
  rw [run_bind_ok hrow]
  change (databaseClock >>= fun now => ofExcept (r.patch p now) >>= _).run s w = _
  rw [run_bind_ok (run_databaseClock s w), run_bind, run_ofExcept]
  cases hpatch : r.patch p s.databaseClock with
  | error e => rfl
  | ok r' =>
    dsimp only
    rw [run_bind_ok (run_modifyDatabase _ s w), run_pure,
      Database.Keyed.putRow_eq hr (id_of_patch hpatch)]

/-- A patch fails, or something else answers, and nothing changes; or the row is changed in its
place. -/
theorem updateExecution_cases (hk : w.database.Keyed) (hr : r ∈ w.database.executions)
    (hp : p.unknown = []) :
    ∃ reply w', (updateExecution r.id p).run s w = (reply, w') ∧ w'.attempts = w.attempts ∧
      ((∃ e, reply = .error e ∧ w'.database = w.database) ∨
        (∃ j o, (s.interrupt .updateExecution w.outside) = (some (.answers j), o) ∧
          reply = .ok (.foreign j) ∧ w'.database = w.database) ∨
        ∃ r', r.patch p s.databaseClock = .ok r' ∧ reply = .ok (.own true) ∧
          w'.database = w.database.change r.id fun _ => r') := by
  rw [updateExecution_eq, guarded]
  obtain ⟨o, ⟨reason, h⟩ | ⟨j, hj, h⟩ | h⟩ :=
    relayed_cases .updateExecution (.own <$> patchRow r.id p) s w
  · exact ⟨_, _, h, rfl, .inl ⟨_, rfl, rfl⟩⟩
  · exact ⟨_, _, h, rfl, .inr (.inl ⟨j, o, hj, rfl, rfl⟩)⟩
  · -- the call is made
    rw [run_map, run_patchRow (w := { w with outside := o }) hk hr hp] at h
    cases hpatch : r.patch p s.databaseClock with
    | error e =>
      rw [hpatch] at h
      exact ⟨_, _, h, rfl, .inl ⟨e, rfl, rfl⟩⟩
    | ok r' =>
      rw [hpatch] at h
      exact ⟨_, _, h, rfl, .inr (.inr ⟨r', rfl, rfl, rfl⟩)⟩

theorem patchRow_leaves (id : String) (p : ExecutionPatch) (w : World σ) :
    ((patchRow id p).run s w).2.database = w.database ∨
      ∃ r ∈ w.database.executions, ∃ r', r.patch p s.databaseClock = .ok r' ∧
        ((patchRow id p).run s w).2.database = w.database.putExecution r' := by
  unfold patchRow
  dsimp only
  split
  · exact .inl rfl
  · rw [run_bind, executionRow?, run_lookup]
    cases Column.whole id with
    | error e => exact .inl rfl
    | ok _ =>
      simp only [Except.map]
      cases hfind : w.database.executions.find? fun r => r.id == id with
      | none => exact .inl rfl
      | some r =>
        dsimp only
        rw [run_bind_ok (run_databaseClock s w), run_bind, run_ofExcept]
        cases hpatch : r.patch p s.databaseClock with
        | error e => exact .inl rfl
        | ok r' => exact .inr ⟨r, List.mem_of_find?_eq_some hfind, r', hpatch, rfl⟩

theorem updateExecution_leaves (id : String) (p : ExecutionPatch) (s : Surroundings σ)
    (w : World σ) :
    ((updateExecution id p).run s w).2.database = w.database ∨
      ∃ r ∈ w.database.executions, ∃ r', r.patch p s.databaseClock = .ok r' ∧
        ((updateExecution id p).run s w).2.database = w.database.putExecution r' := by
  rw [updateExecution_eq]
  exact guarded_leaves (Q := fun _ db _ => db = w.database ∨
    ∃ r ∈ w.database.executions, ∃ r', r.patch p s.databaseClock = .ok r' ∧
      db = w.database.putExecution r')
    (fun _ => .inl rfl) (fun _ => .inl rfl) fun o => patchRow_leaves id p { w with outside := o }

theorem updateExecution_of_none (hk : w.database.Keyed) (hr : r ∈ w.database.executions)
    (hp : p.unknown = []) (hs : (s.interrupt .updateExecution w.outside).1 = none)
    (h : r.patch p s.databaseClock = .ok r') :
    ∃ w', (updateExecution r.id p).run s w = (.ok (.own true), w') ∧ w'.attempts = w.attempts ∧
      w'.database = w.database.change r.id fun _ => r' := by
  rw [updateExecution_eq, guarded, relayed_of_none hs, run_map,
    run_patchRow (w := { w with outside := (s.interrupt .updateExecution w.outside).2 }) hk hr hp,
    h]
  exact ⟨_, rfl, rfl, rfl⟩

/-! The two patches of the engine. -/

section
variable {history more : List Json.Fields} {node : String} {resumeAt : Calendar.Stamp}

theorem complete_unknown : (ExecutionPatch.complete history).unknown = [] := by
  have hfilter : ((ExecutionPatch.complete history).map (·.1)).filter
      (fun key => !ExecutionPatch.columns.contains key) = [] := rfl
  rw [ExecutionPatch.unknown, hfilter, List.mergeSort_nil]

theorem park_unknown : (ExecutionPatch.park node resumeAt history).unknown = [] := by
  have hfilter : ((ExecutionPatch.park node resumeAt history).map (·.1)).filter
      (fun key => !ExecutionPatch.columns.contains key) = [] := rfl
  rw [ExecutionPatch.unknown, hfilter, List.mergeSort_nil]

theorem complete_of_none (hk : w.database.Keyed) (hr : r ∈ w.database.executions)
    (hh : r.Holds history) (hs : (s.interrupt .updateExecution w.outside).1 = none)
    (hclock : Calendar.inRange s.databaseClock.instant = true) :
    ∃ w', (updateExecution r.id (.complete (history ++ more))).run s w = (.ok (.own true), w') ∧
      w'.attempts = w.attempts ∧
      w'.database = w.database.change r.id (·.ended (history ++ more)) := by
  have hpatch : r.patch (.complete (history ++ more)) s.databaseClock
      = .ok (r.ended (history ++ more)) :=
    (ExecutionRow.patch_complete_eq_ok_iff hh).mpr ⟨fun _ => hclock, rfl⟩
  obtain ⟨w', hrun, hattempts, hdb⟩ := updateExecution_of_none hk hr complete_unknown hs hpatch
  exact ⟨w', hrun, hattempts, hdb.trans (hk.change_congr hr rfl)⟩

theorem park_of_none (hk : w.database.Keyed) (hr : r ∈ w.database.executions)
    (hh : r.Holds history) (hs : (s.interrupt .updateExecution w.outside).1 = none)
    (hclock : Calendar.inRange s.databaseClock.instant = true) (hnode : Text.isWhole node = true)
    (htime : ∃ m, resumeAt.toUtc = .ok m) :
    ∃ w', (updateExecution r.id (.park node resumeAt (history ++ more))).run s w
        = (.ok (.own true), w') ∧
      w'.attempts = w.attempts ∧
      w'.database
        = w.database.change r.id (·.parkedAt node resumeAt.instant (history ++ more)) := by
  have hpatch : r.patch (.park node resumeAt (history ++ more)) s.databaseClock
      = .ok (r.parkedAt node resumeAt.instant (history ++ more)) :=
    (ExecutionRow.patch_park_eq_ok_iff hh hnode).mpr ⟨hclock, htime, rfl⟩
  obtain ⟨w', hrun, hattempts, hdb⟩ := updateExecution_of_none hk hr park_unknown hs hpatch
  exact ⟨w', hrun, hattempts, hdb.trans (hk.change_congr hr rfl)⟩

end

/-! ## New rows -/

/-- The row of a new execution. -/
def rowOf (e : Execution) (now : Calendar.Stamp) : ExecutionRow :=
  { id := e.id, funnelId := e.funnelId, leadId := e.leadId, currentNodeId := e.currentNodeId,
    status := e.status.name, nextRunAt := e.nextRunAt.instant,
    history := Execution.historyJson e.history, context := e.context,
    createdAt := now.instant / Calendar.second * Calendar.second }

theorem checkTexts_eq_ok_iff {e : Execution} :
    e.checkTexts = .ok () ↔ Text.isWhole e.funnelId = true ∧ Text.isWhole e.leadId = true ∧
      ∀ node ∈ e.currentNodeId, Text.isWhole node = true := by
  unfold Execution.checkTexts
  simp only [bind_eq_ok_iff, Column.whole_eq_ok_iff]
  constructor
  · rintro ⟨_, ⟨hfunnel, -⟩, _, ⟨hlead, -⟩, node, hn, -⟩
    exact ⟨hfunnel, hlead, (Column.optional_eq_ok_iff.mp hn).1⟩
  · rintro ⟨hfunnel, hlead, hnode⟩
    exact ⟨_, ⟨hfunnel, rfl⟩, _, ⟨hlead, rfl⟩, _, Column.optional_eq_ok_iff.mpr ⟨hnode, rfl⟩, rfl⟩

theorem newRow_eq_ok_iff {e : Execution} {now : Calendar.Stamp} :
    e.newRow now = .ok r ↔ (∃ m, e.nextRunAt.toUtc = .ok m) ∧ Text.isWhole e.id = true ∧
      e.checkTexts = .ok () ∧ Calendar.inRange now.instant = true ∧ r = rowOf e now := by
  unfold Execution.newRow
  constructor
  · intro h
    obtain ⟨row, hrow, h⟩ := bind_eq_ok_iff.mp h
    obtain ⟨id, hid, h⟩ := bind_eq_ok_iff.mp h
    obtain ⟨_, htexts, h⟩ := bind_eq_ok_iff.mp h
    obtain ⟨created, hcreated, h⟩ := bind_eq_ok_iff.mp h
    obtain ⟨m, hm, rfl⟩ := map_eq_ok_iff.mp hrow
    rw [mapError_eq_ok_iff] at hm
    cases h
    obtain ⟨hclock, rfl⟩ := ExecutionRow.writingTime_eq_ok_iff.mp hcreated
    refine ⟨⟨m, hm⟩, (Column.whole_eq_ok_iff.mp hid).1, htexts, hclock, ?_⟩
    rw [rowOf, ← ExecutionRow.toUtc_wall hm]
  · rintro ⟨⟨m, hm⟩, hid, htexts, hclock, rfl⟩
    refine bind_eq_ok_iff.mpr ⟨_, map_eq_ok_iff.mpr ⟨m, mapError_eq_ok_iff.mpr hm, rfl⟩, ?_⟩
    refine bind_eq_ok_iff.mpr ⟨_, Column.whole_eq_ok hid, bind_eq_ok_iff.mpr ⟨(), htexts, ?_⟩⟩
    refine bind_eq_ok_iff.mpr ⟨_, ExecutionRow.writingTime_eq_ok_iff.mpr ⟨hclock, rfl⟩, ?_⟩
    rw [rowOf, ← ExecutionRow.toUtc_wall hm]
    rfl

/-- The identifier for a new row. -/
def chooseId (draft : Draft Execution) : Action σ String :=
  match draft.id with
  | some id => pure id
  | none =>
    Action.issue .execution (·.executions) fun n => { n with executions := n.executions + 1 }

/-- What keeping a new row comes to, apart from what may come in its way. -/
def keepRow (e : Execution) : Action σ Execution := do
  let now ← Action.databaseClock
  let row ← Action.ofExcept (e.newRow now)
  let db ← Action.database
  if db.executions.any fun r => r.id == e.id then Action.fail .constraint
  Action.modifyDatabase fun db => { db with executions := db.executions ++ [row] }
  Action.note [.executionCreated e.id e.funnelId e.leadId]
  return e

theorem createExecution_eq (draft : Draft Execution) :
    (createExecution draft : Action σ (Reply Execution))
      = guarded .createExecution (chooseId draft >>= fun id => keepRow (draft.withId id)) := by
  unfold createExecution chooseId
  cases draft.id <;> rfl

/-- The tables with a row for a new execution, which must not have been there. -/
inductive Added (now : Calendar.Stamp) (draft : Draft Execution) (db : Database) : Database → Prop
  | intro {id : String} (hid : Text.isWhole (draft.withId id).id = true)
      (hnew : ∀ r ∈ db.executions, r.id ≠ (draft.withId id).id) :
      Added now draft db
        { db with executions := db.executions ++ [rowOf (draft.withId id) now] }

theorem chooseId_cases (draft : Draft Execution) (w : World σ) :
    ∃ id w', (chooseId draft).run s w = (.ok id, w') ∧ w'.attempts = w.attempts ∧
      w'.database = w.database := by
  unfold chooseId
  cases draft.id with
  | some id => exact ⟨id, w, rfl, rfl, rfl⟩
  | none => exact ⟨_, _, run_issue _ _ _ s w, rfl, rfl⟩

theorem keepRow_cases (draft : Draft Execution) (id : String) (w : World σ) :
    ((keepRow (draft.withId id)).run s w).2.attempts = w.attempts ∧
      (((keepRow (draft.withId id)).run s w).2.database = w.database ∨
        Added s.databaseClock draft w.database
          ((keepRow (draft.withId id)).run s w).2.database) := by
  unfold keepRow
  rw [run_bind_ok (run_databaseClock s w), run_bind, run_ofExcept]
  cases hrow : (draft.withId id).newRow s.databaseClock with
  | error e => exact ⟨rfl, .inl rfl⟩
  | ok row =>
    obtain ⟨-, hwhole, -, -, rfl⟩ := newRow_eq_ok_iff.mp hrow
    dsimp only
    rw [run_bind_ok (run_database s w)]
    by_cases hany : (w.database.executions.any fun r => r.id == (draft.withId id).id) = true
    · -- the identifier is taken
      simp only [hany, if_true]
      exact ⟨rfl, .inl rfl⟩
    · -- the identifier is new
      simp only [hany]
      refine ⟨rfl, .inr (.intro hwhole fun r hr hrid => hany ?_)⟩
      exact List.any_eq_true.mpr ⟨r, hr, by simp [hrid]⟩

/-- A new execution is refused, or something else answers, and nothing changes; or its row is
added. -/
theorem createExecution_cases (draft : Draft Execution) (w : World σ) :
    ((createExecution draft).run s w).2.attempts = w.attempts ∧
      (((createExecution draft).run s w).2.database = w.database ∨
        Added s.databaseClock draft w.database ((createExecution draft).run s w).2.database) := by
  rw [createExecution_eq, guarded]
  obtain ⟨o, ⟨reason, h⟩ | ⟨j, -, h⟩ | h⟩ :=
    relayed_cases .createExecution
      (.own <$> (chooseId draft >>= fun id => keepRow (draft.withId id))) s w
  · rw [h]
    exact ⟨rfl, .inl rfl⟩
  · rw [h]
    exact ⟨rfl, .inl rfl⟩
  · obtain ⟨id, w', hid, hattempts, hdb⟩ := chooseId_cases (s := s) draft { w with outside := o }
    rw [h, run_map, run_bind_ok hid, ← hdb, ← hattempts]
    exact keepRow_cases draft id w'

theorem run_keepRow {e : Execution} {row : ExecutionRow} (hrow : e.newRow s.databaseClock = .ok row)
    (hnew : ∀ r ∈ w.database.executions, r.id ≠ e.id) :
    ∃ w', (keepRow e).run s w = (.ok e, w') ∧ w'.issued = w.issued ∧ w'.attempts = w.attempts ∧
      w'.database = { w.database with executions := w.database.executions ++ [row] } := by
  have hany : (w.database.executions.any fun r => r.id == e.id) = false := by
    rw [List.any_eq_false]
    intro r hr
    simpa using hnew r hr
  unfold keepRow
  rw [run_bind_ok (run_databaseClock s w), hrow, run_bind_ok (run_ofExcept _ s w),
    run_bind_ok (run_database s w)]
  simp only [hany, Bool.false_eq_true, if_false]
  exact ⟨_, rfl, rfl, rfl, rfl⟩

theorem createExecution_of_none {draft : Draft Execution} {id : String} {row : ExecutionRow}
    (hs : (s.interrupt .createExecution w.outside).1 = none) (hdraft : draft.id = none)
    (hid : id = w.issued.naming.name .execution (w.issued.executions + 1))
    (hrow : (draft.withId id).newRow s.databaseClock = .ok row)
    (hnew : ∀ r ∈ w.database.executions, r.id ≠ (draft.withId id).id) :
    ∃ w', (createExecution draft).run s w = (.ok (.own (draft.withId id)), w') ∧
      w'.issued = { w.issued with executions := w.issued.executions + 1 } ∧
      w'.attempts = w.attempts ∧
      w'.database = { w.database with executions := w.database.executions ++ [row] } := by
  subst hid
  rw [createExecution_eq, guarded, relayed_of_none hs, run_map, chooseId, hdraft]
  dsimp only
  rw [run_bind_ok (run_issue _ _ _ _ _)]
  obtain ⟨w', hrun, hissued, hattempts, hdb⟩ := run_keepRow (s := s)
    (w := { w with
      outside := (s.interrupt .createExecution w.outside).2
      issued := { w.issued with executions := w.issued.executions + 1 } }) hrow hnew
  exact ⟨w', by rw [hrun]; rfl, by rw [hissued], hattempts, hdb⟩

end Store

end Nurture
