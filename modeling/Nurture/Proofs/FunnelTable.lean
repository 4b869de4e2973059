import Nurture.Proofs.NodeData

/-!
  The table of funnels

  A row that a funnel was saved in holds it (`FunnelRow.Holds`): its data are those of nodes that
  have passed their check, and count as the same as those of the funnel. So the row can be read, and
  what is read agrees with the funnel as it is dumped (`FunnelRow.Holds.load`). Saving a
  funnel puts such a row in its place, or changes nothing (`Store.saveFunnel_cases`).
-/

namespace Nurture

open Validation Validation.Checked Nurture.Action

/-! ## Funnels that have passed their check -/

namespace Funnel

/-- What a funnel that has passed its check brings along, apart from the identifier. -/
structure Proper (f : Funnel) : Prop where
  name : Text.isWhole f.name = true ∧ 1 ≤ f.name.length
  trigger : Text.isWhole f.trigger = true ∧ 1 ≤ f.trigger.length
  nodes : ∀ n ∈ f.nodes, n.Proper
  graph : f.WellFormed

theorem proper_of_checkFields {fs : Json.Fields} {draft : Draft Funnel}
    (h : checkFields fs = good draft) (id : String) :
    (draft.withId id).id = id ∧ (draft.withId id).Proper := by
  obtain ⟨-, name, trigger, isActive, nodes, start, -, hname, htrigger, -, hnodes, -, hgraph,
    rfl⟩ := checkFields_eq_good_iff.mp h
  obtain ⟨_, -, hname⟩ := required_eq_good_iff.mp hname
  obtain ⟨_, -, htrigger⟩ := required_eq_good_iff.mp htrigger
  refine ⟨rfl, (textOf_eq_good_iff.mp hname).2, (textOf_eq_good_iff.mp htrigger).2, ?_, hgraph⟩
  rcases defaulted_eq_good_iff.mp hnodes with ⟨j, -, hj⟩ | ⟨-, rfl⟩
  · intro n hn
    obtain ⟨items, -, hs⟩ := listOf_eq_good_iff.mp hj
    obtain ⟨j, -, hj⟩ := exists_mem_of_forall₂ hs.flip hn
    exact Node.proper_of_check hj
  · intro n hn
    cases hn

theorem proper_of_check {j : Json} {draft : Draft Funnel} (h : Funnel.check j = good draft)
    (id : String) : (draft.withId id).id = id ∧ (draft.withId id).Proper := by
  cases j
  case obj fs => exact proper_of_checkFields h id
  all_goals cases h

theorem Proper.start_whole {f : Funnel} (h : f.Proper) : ∀ t ∈ f.start, Text.isWhole t = true := by
  intro t ht
  obtain ⟨n, hn, rfl⟩ := List.mem_map.mp (h.graph.start_mem t ht)
  exact (h.nodes n hn).id_whole

theorem Proper.checkTexts {f : Funnel} (h : f.Proper) : f.checkTexts = .ok () := by
  have hstart : Column.optional f.start = .ok f.start :=
    Column.optional_eq_ok_iff.mpr ⟨h.start_whole, rfl⟩
  rw [Funnel.checkTexts, Column.whole_eq_ok h.name.1, Column.whole_eq_ok h.trigger.1, hstart]
  rfl

/-- The funnel as it is read back from its data. -/
def dumped (f : Funnel) : Funnel := { f with nodes := f.nodes.map Node.dumped }

/-- All numbers of undeclared fields have digits. -/
def isFinite (f : Funnel) : Bool := f.nodes.all fun n => Json.areFieldsFinite n.task.extra

theorem dumped_of_isFinite {f : Funnel} (h : f.isFinite = true) : f.dumped = f := by
  rw [isFinite, List.all_eq_true] at h
  have hnodes : f.nodes.map Node.dumped = f.nodes :=
    (List.map_congr_left fun n hn => Node.dumped_of_finite (h n hn)).trans (List.map_id _)
  rw [dumped, hnodes]

/-- Funnels that agree in all but the form of numbers and the order of undeclared fields. -/
structure Alike (f g : Funnel) : Prop where
  id_eq : f.id = g.id
  name_eq : f.name = g.name
  trigger_eq : f.trigger = g.trigger
  isActive_eq : f.isActive = g.isActive
  start_eq : f.start = g.start
  nodes : List.Forall₂ Node.Alike f.nodes g.nodes

end Funnel

theorem Node.Alike.successors_eq {n m : Node} (h : n.Alike m) : n.successors = m.successors := by
  have hsuccessors := congrArg Task.successors h.task_eq
  rw [Task.successors_withExtra, Task.successors_withExtra] at hsuccessors
  exact hsuccessors

@[simp] theorem Node.successors_dumped (n : Node) : n.dumped.successors = n.successors :=
  Task.successors_withExtra _ _

theorem Graph.WellFormed.of_forall₂ {ns ms : List Node} {start : Option String}
    (h : Graph.WellFormed ms start)
    (hs : List.Forall₂ (fun n m => n.id = m.id ∧ n.successors = m.successors) ns ms) :
    Graph.WellFormed ns start := by
  have hids : Graph.ids ns = Graph.ids ms := map_eq_map_of_forall₂ hs fun _ _ h => h.1
  refine ⟨hids ▸ h.nodup, hids ▸ h.start_mem, fun n hn r hr => ?_⟩
  obtain ⟨m, hm, -, hsuccessors⟩ := exists_mem_of_forall₂ hs hn
  rw [hids]
  exact h.reference_mem m hm r (hsuccessors ▸ hr)

/-! ## Rows that hold a funnel -/

/-- The data are those of nodes that have passed their check. -/
def Written (items : List Json) : Prop :=
  ∃ nodes : List Node, (∀ n ∈ nodes, n.Proper) ∧ items = nodes.map Node.toJson

/-- The row is as saving the funnel leaves it. -/
structure FunnelRow.Holds (r : FunnelRow) (f : Funnel) : Prop where
  proper : f.Proper
  keeps : r.Keeps f
  name_eq : r.name = f.name
  trigger_eq : r.trigger = f.trigger
  isActive_eq : r.isActive = f.isActive
  start_eq : r.start = f.start
  written : Written r.nodes

variable {r : FunnelRow} {f : Funnel}

/-- Data that a node is kept as, if they are those of a node that has passed its check, are
read as a node that agrees with it as it is dumped. -/
theorem Node.KeptAs.alike {n m : Node} (h : m.KeptAs n.toJson) (hn : n.Proper) (hm : m.Proper) :
    n.dumped.Alike m.dumped := by
  rcases h with h | h
  · have hread := Node.check_toJson hn
    rw [h, Node.check_toJson hm] at hread
    rw [good.inj hread]
    exact .refl _
  · exact Node.alike_of_same hn h

/-- What is read from a row that holds a funnel are the nodes that its data are those of. -/
theorem FunnelRow.Holds.load_eq (h : r.Holds f) {nodes : List Node} (hnodes : ∀ n ∈ nodes, n.Proper)
    (hitems : r.nodes = nodes.map Node.toJson) :
    r.load = .ok { f with nodes := nodes.map Node.dumped } ∧
      Funnel.Alike { f with nodes := nodes.map Node.dumped } f.dumped := by
  have halike : List.Forall₂ Node.Alike (nodes.map Node.dumped) (f.nodes.map Node.dumped) := by
    have hkept := h.keeps.nodes
    rw [hitems, List.forall₂_map_right_iff] at hkept
    rw [List.forall₂_map_left_iff, List.forall₂_map_right_iff]
    refine List.Forall₂.flip ?_
    exact ((List.forall₂_and_left _ _).mpr ⟨h.proper.nodes,
      ((List.forall₂_and_left _ _).mpr ⟨hnodes, hkept.flip⟩).flip⟩).imp fun m n hmn =>
        Node.KeptAs.alike hmn.2.2 hmn.2.1 hmn.1
  have hgraph : Graph.WellFormed (nodes.map Node.dumped) f.start := by
    have hdumped : Graph.WellFormed (f.nodes.map Node.dumped) f.start := by
      refine Graph.WellFormed.of_forall₂ h.proper.graph ?_
      rw [List.forall₂_map_left_iff]
      exact List.forall₂_same.mpr fun n _ => ⟨rfl, n.successors_dumped⟩
    exact hdumped.of_forall₂ (halike.imp fun n m hnm => ⟨hnm.id_eq, hnm.successors_eq⟩)
  have hread : List.Forall₂ (fun j n => Node.check j = good n) r.nodes (nodes.map Node.dumped) := by
    rw [hitems, List.forall₂_map_left_iff, List.forall₂_map_right_iff]
    exact List.forall₂_same.mpr fun n hn => Node.check_toJson (hnodes n hn)
  refine ⟨?_, rfl, rfl, rfl, rfl, rfl, halike⟩
  unfold FunnelRow.load
  refine mapError_eq_ok_iff.mpr (map_eq_ok_iff.mpr ⟨_, toExcept_eq_ok_iff.mpr
    (Funnel.checkFields_eq_good_iff.mpr ⟨some f.id, f.name, f.trigger, f.isActive,
      nodes.map Node.dumped, f.start, ?_, ?_, ?_, ?_, ?_, ?_, hgraph, rfl⟩), rfl⟩)
  · rw [h.keeps.id_eq]
    rfl
  · rw [h.name_eq]
    exact required_eq_good_iff.mpr ⟨_, rfl, textOf_eq_good_iff.mpr ⟨rfl, h.proper.name⟩⟩
  · rw [h.trigger_eq]
    exact required_eq_good_iff.mpr ⟨_, rfl, textOf_eq_good_iff.mpr ⟨rfl, h.proper.trigger⟩⟩
  · rw [h.isActive_eq]
    rfl
  · exact defaulted_of_get? (j := .arr r.nodes) rfl (listOf_eq_good_iff.mpr ⟨_, rfl, hread⟩)
  · rw [h.start_eq]
    exact optional_text_of_get? rfl

/-- A row that holds a funnel can be read, and what is read agrees with the funnel as it is
dumped. -/
theorem FunnelRow.Holds.load (h : r.Holds f) : ∃ g, r.load = .ok g ∧ g.Alike f.dumped := by
  obtain ⟨nodes, hnodes, hitems⟩ := h.written
  exact ⟨_, h.load_eq hnodes hitems⟩

/-! ## Saving a funnel -/

theorem Written.of_proper {nodes : List Node} (h : ∀ n ∈ nodes, n.Proper) :
    Written (nodes.map Node.toJson) := ⟨nodes, h, rfl⟩

theorem FunnelRow.holds_toRow (h : f.Proper) (createdAt : Int) : (f.toRow createdAt).Holds f :=
  ⟨h, ⟨rfl, f.kept_toJson⟩, rfl, rfl, rfl, rfl, .of_proper h.nodes⟩

theorem FunnelRow.load_toRow (h : f.Proper) (createdAt : Int) :
    (f.toRow createdAt).load = .ok f.dumped :=
  ((FunnelRow.holds_toRow h createdAt).load_eq h.nodes rfl).1

theorem FunnelRow.Holds.replaced {held : Funnel} (hr : r.Holds held) (h : f.Proper) :
    (r.replaced f).Holds f := by
  refine ⟨h, r.replaced_keeps f, rfl, rfl, rfl, rfl, ?_⟩
  unfold FunnelRow.replaced keptData
  dsimp only
  split
  · rename_i hkept
    split at hkept
    · obtain rfl := Json.arr.inj hkept
      exact hr.written
    · obtain rfl := Json.arr.inj hkept
      exact .of_proper h.nodes
  · exact hr.written

theorem FunnelRow.Holds.of_not_differs {held : Funnel} (hr : r.Holds held) (h : f.Proper)
    (hid : r.id = f.id) (hsame : r.differs f = false) : r.Holds f := by
  have hkeeps := FunnelRow.keeps_of_not_differs hid hsame
  unfold FunnelRow.differs at hsame
  simp only [Bool.or_eq_false_iff, bne_eq_false_iff_eq] at hsame
  obtain ⟨⟨⟨⟨hname, htrigger⟩, hactive⟩, hstart⟩, -⟩ := hsame
  exact ⟨h, hkeeps, hname, htrigger, hactive, hstart, hr.written⟩

/-- What is written for a funnel, or is there already, holds it. -/
theorem Store.funnelToWrite_holds {held row? : Option FunnelRow} {now : Calendar.Stamp}
    (hf : f.Proper) (hheld : ∀ r ∈ held, r.id = f.id ∧ ∃ g, r.Holds g)
    (h : Store.funnelToWrite held f now = .ok row?) :
    ∃ r, (row?.or held) = some r ∧ r.id = f.id ∧ r.Holds f := by
  unfold Store.funnelToWrite at h
  dsimp only at h
  split at h
  · cases h
  · cases held with
    | none =>
      obtain ⟨-, -, h⟩ := bind_eq_ok_iff.mp h
      obtain ⟨time, -, h⟩ := bind_eq_ok_iff.mp h
      cases h
      exact ⟨_, rfl, rfl, FunnelRow.holds_toRow hf time⟩
    | some row =>
      obtain ⟨hid, held, hrow⟩ := hheld row rfl
      dsimp only at h
      split at h
      · obtain ⟨-, -, h⟩ := bind_eq_ok_iff.mp h
        obtain ⟨-, -, h⟩ := bind_eq_ok_iff.mp h
        cases h
        exact ⟨_, rfl, rfl, hrow.replaced hf⟩
      · rename_i hsame
        cases h
        exact ⟨row, rfl, hid, hrow.of_not_differs hf hid (by simpa using hsame)⟩

theorem Store.exists_funnelToWrite_iff (held : Option FunnelRow) {now : Calendar.Stamp}
    (hf : f.Proper) (hnow : Calendar.inRange now.instant = true) :
    (∃ row?, Store.funnelToWrite held f now = .ok row?) ↔ f.isDumpable = true := by
  have htime : writingTime now = .ok (now.instant / Calendar.second * Calendar.second) :=
    if_pos hnow
  unfold Store.funnelToWrite
  by_cases hdump : f.isDumpable = true
  · refine iff_of_true ?_ hdump
    simp only [hdump, Bool.not_true, Bool.false_eq_true, if_false]
    cases held with
    | none => exact ⟨_, bind_eq_ok_iff.mpr ⟨_, hf.checkTexts, bind_eq_ok_iff.mpr ⟨_, htime, rfl⟩⟩⟩
    | some row =>
      dsimp only
      split
      · exact ⟨_, bind_eq_ok_iff.mpr ⟨_, hf.checkTexts, bind_eq_ok_iff.mpr ⟨_, htime, rfl⟩⟩⟩
      · exact ⟨_, rfl⟩
  · refine iff_of_false ?_ hdump
    rintro ⟨row?, h⟩
    simp only [hdump, Bool.not_false, if_true] at h
    cases h

/-! ## Calls of the store -/

/-- The tables with a funnel kept in its row. -/
def Database.keeping (db : Database) (f : Funnel) (now : Calendar.Stamp) :
    Except Failure Database := do
  let _ ← Column.whole f.id
  let row? ← Store.funnelToWrite (db.funnels.find? fun r => r.id == f.id) f now
  return match row? with
    | some row => { db with funnels := putRow (·.id) row db.funnels }
    | none => db

/-- The tables with a row of funnels put in the place of the one with its identifier. -/
def Database.putFunnel (db : Database) (r : FunnelRow) : Database :=
  { db with funnels := putRow (·.id) r db.funnels }

/-- The tables without the funnel of an identifier. -/
def Database.dropFunnel (db : Database) (id : String) : Database :=
  { db with funnels := db.funnels.filter fun r => r.id != id }

theorem Database.keeping_cases {db db' : Database} {now : Calendar.Stamp} (hf : f.Proper)
    (hheld : ∀ r ∈ db.funnels, ∃ g, r.Holds g) (h : db.keeping f now = .ok db') :
    Text.isWhole f.id = true ∧ ∃ r, r.id = f.id ∧ r.Holds f ∧
      (r ∈ db.funnels ∧ db' = db ∨ db' = db.putFunnel r) := by
  obtain ⟨_, hwhole, h⟩ := bind_eq_ok_iff.mp h
  obtain ⟨row?, hrow, h⟩ := bind_eq_ok_iff.mp h
  obtain ⟨r, hr, hid, hholds⟩ := Store.funnelToWrite_holds hf (fun r hr =>
    ⟨by simpa using List.find?_some hr, hheld r (List.mem_of_find?_eq_some hr)⟩) hrow
  refine ⟨(Column.whole_eq_ok_iff.mp hwhole).1, r, hid, hholds, ?_⟩
  cases row? with
  | none => exact .inl ⟨List.mem_of_find?_eq_some hr, (Except.ok.inj h).symm⟩
  | some row =>
    obtain rfl : row = r := Option.some.inj hr
    exact .inr (Except.ok.inj h).symm

theorem Database.keeping_of_new {db : Database} {now : Calendar.Stamp} (hf : f.Proper)
    (hid : Text.isWhole f.id = true) (hdump : f.isDumpable = true)
    (hnow : Calendar.inRange now.instant = true) (hnew : ∀ r ∈ db.funnels, r.id ≠ f.id) :
    db.keeping f now
      = .ok (db.putFunnel (f.toRow (now.instant / Calendar.second * Calendar.second))) := by
  have hheld : (db.funnels.find? fun r => r.id == f.id) = none :=
    List.find?_eq_none.mpr fun r hr => by simpa using hnew r hr
  have htime : writingTime now = .ok (now.instant / Calendar.second * Calendar.second) :=
    if_pos hnow
  unfold keeping Store.funnelToWrite
  rw [Column.whole_eq_ok hid, hheld, hdump, hf.checkTexts, htime]
  rfl

variable {σ : Type} {s : Surroundings σ} {w : World σ} {db : Database}

namespace Store

theorem run_funnelRow? (id : String) :
    (funnelRow? id).run s w
      = ((Column.whole id).map fun _ => w.database.funnels.find? fun r => r.id == id, w) :=
  run_lookup (fun db id => db.funnels.find? fun r : FunnelRow => r.id == id) id s w

theorem run_keepFunnel (f : Funnel) (s : Surroundings σ) (w : World σ) :
    (∃ e, w.database.keeping f s.databaseClock = .error e ∧
        (keepFunnel f).run s w = (.error e, w)) ∨
      ∃ db w', w.database.keeping f s.databaseClock = .ok db ∧
        (keepFunnel f).run s w = (.ok f, w') ∧ w'.database = db := by
  unfold keepFunnel Database.keeping
  rw [run_bind, run_funnelRow?]
  cases Column.whole f.id with
  | error e => exact .inl ⟨e, rfl, rfl⟩
  | ok id =>
    simp only [Except.map]
    rw [run_bind_ok (run_databaseClock s w), run_bind, run_ofExcept]
    cases funnelToWrite (w.database.funnels.find? fun r => r.id == f.id) f s.databaseClock with
    | error e => exact .inl ⟨e, rfl, rfl⟩
    | ok row? =>
      cases row? with
      | none => exact .inr ⟨_, _, rfl, rfl, rfl⟩
      | some row => exact .inr ⟨_, _, rfl, rfl, rfl⟩

/-- The identifier that a draft is saved under: the one that it brings, or the next one. -/
def savedId (draft : Draft Funnel) (issued : Issued) : String :=
  draft.id.getD (issued.naming.name .funnel (issued.funnels + 1))

/-- The funnel that saving a draft keeps. -/
def savedAs (draft : Draft Funnel) (issued : Issued) : Funnel :=
  draft.withId (savedId draft issued)

theorem run_saveDraft (draft : Draft Funnel) (s : Surroundings σ) (w : World σ) :
    ∃ w₁, w₁.database = w.database ∧
      (saveDraft draft).run s w = (keepFunnel (savedAs draft w.issued)).run s w₁ := by
  unfold saveDraft savedAs savedId
  cases draft.id with
  | some id => exact ⟨w, rfl, rfl⟩
  | none =>
    exact ⟨{ w with issued := { w.issued with funnels := w.issued.funnels + 1 } }, rfl, rfl⟩

theorem saveDraft_cases (draft : Draft Funnel) (s : Surroundings σ) (w : World σ) :
    (∃ e, w.database.keeping (savedAs draft w.issued) s.databaseClock = .error e ∧
        ((saveDraft draft).run s w).1 = .error e ∧
        ((saveDraft draft).run s w).2.database = w.database) ∨
      ∃ db, w.database.keeping (savedAs draft w.issued) s.databaseClock = .ok db ∧
        ((saveDraft draft).run s w).1 = .ok (savedAs draft w.issued) ∧
        ((saveDraft draft).run s w).2.database = db := by
  obtain ⟨w₁, hdb, hrun⟩ := run_saveDraft draft s w
  rw [hrun, ← hdb]
  rcases run_keepFunnel (savedAs draft w.issued) s w₁ with ⟨e, herror, hrun⟩ |
    ⟨db, w', hkept, hrun, hdb'⟩
  · exact .inl ⟨e, herror, by rw [hrun], by rw [hrun]⟩
  · exact .inr ⟨db, hkept, by rw [hrun], by rw [hrun, hdb']⟩

/-- A call to save a draft that is answered keeps the funnel of the draft, and any other leaves the
tables as they are. -/
theorem saveFunnel_cases (draft : Draft Funnel) (s : Surroundings σ) (w : World σ) :
    (∃ db, w.database.keeping (savedAs draft w.issued) s.databaseClock = .ok db ∧
        ((saveFunnel draft).run s w).1 = .ok (.own (savedAs draft w.issued)) ∧
        ((saveFunnel draft).run s w).2.database = db) ∨
      (∀ f, ((saveFunnel draft).run s w).1 ≠ .ok (.own f)) ∧
        ((saveFunnel draft).run s w).2.database = w.database := by
  rw [saveFunnel_eq]
  refine guarded_leaves
    (Q := fun reply db' _ =>
      (∃ db, w.database.keeping (savedAs draft w.issued) s.databaseClock = .ok db ∧
        reply = .ok (.own (savedAs draft w.issued)) ∧ db' = db) ∨
      (∀ f, reply ≠ .ok (.own f)) ∧ db' = w.database)
    (fun _ => .inr ⟨nofun, rfl⟩) (fun _ => .inr ⟨nofun, rfl⟩) fun o => ?_
  rcases saveDraft_cases draft s { w with outside := o } with ⟨e, -, hreply, hdb⟩ |
    ⟨db, hkept, hreply, hdb⟩
  · rw [hreply, hdb]
    exact .inr ⟨nofun, rfl⟩
  · rw [hreply, hdb]
    exact .inl ⟨db, hkept, rfl, rfl⟩

theorem saveFunnel_of_none (draft : Draft Funnel)
    (hs : (s.interrupt .saveFunnel w.outside).1 = none) :
    (∃ e, w.database.keeping (savedAs draft w.issued) s.databaseClock = .error e ∧
        ((saveFunnel draft).run s w).1 = .error e) ∨
      ∃ db, w.database.keeping (savedAs draft w.issued) s.databaseClock = .ok db ∧
        ((saveFunnel draft).run s w).1 = .ok (.own (savedAs draft w.issued)) := by
  rw [saveFunnel_eq, guarded, relayed_of_none hs, run_map]
  rcases saveDraft_cases draft s { w with outside := (s.interrupt .saveFunnel w.outside).2 } with
    ⟨e, herror, hreply, -⟩ | ⟨db, hkept, hreply, -⟩
  · exact .inl ⟨e, herror, by rw [hreply]; rfl⟩
  · exact .inr ⟨db, hkept, by rw [hreply]; rfl⟩

/-- What deleting comes to, apart from what may come in its way. -/
def dropFunnel (id : String) : Action σ Bool := do
  match ← funnelRow? id with
  | some _ =>
    modifyDatabase fun db => db.dropFunnel id
    note [.funnelDeleted id]
    return true
  | none => return false

theorem deleteFunnel_eq (id : String) :
    (deleteFunnel id : Action σ (Reply Bool)) = guarded .deleteFunnel (dropFunnel id) := rfl

theorem run_dropFunnel (id : String) (s : Surroundings σ) (w : World σ) :
    ((dropFunnel id).run s w).1
        = (Column.whole id).map (fun _ => w.database.funnels.any fun r => r.id == id) ∧
      ((dropFunnel id).run s w).2.database
        = match Column.whole id with
          | .ok _ => w.database.dropFunnel id
          | .error _ => w.database := by
  unfold dropFunnel
  rw [run_bind, run_funnelRow?]
  cases Column.whole id with
  | error e => exact ⟨rfl, rfl⟩
  | ok _ =>
    simp only [Except.map]
    cases hfind : w.database.funnels.find? fun r => r.id == id with
    | none =>
      have hnone := List.find?_eq_none.mp hfind
      have hany : (w.database.funnels.any fun r => r.id == id) = false :=
        List.any_eq_false.mpr hnone
      have hfilter : (w.database.funnels.filter fun r => r.id != id) = w.database.funnels :=
        List.filter_eq_self.mpr fun r hr => by simpa using hnone r hr
      rw [hany, Database.dropFunnel, hfilter]
      exact ⟨rfl, rfl⟩
    | some r =>
      have hany : (w.database.funnels.any fun r => r.id == id) = true :=
        List.any_eq_true.mpr
          ⟨r, List.mem_of_find?_eq_some hfind, by simpa using List.find?_some hfind⟩
      rw [hany]
      exact ⟨rfl, rfl⟩

/-- A call to delete a funnel that is answered tells whether it was there, and removes it; any other
leaves the tables as they are. -/
theorem deleteFunnel_cases (id : String) (s : Surroundings σ) (w : World σ) :
    ((deleteFunnel id).run s w).1
        = .ok (.own (w.database.funnels.any fun r => r.id == id)) ∧
        ((deleteFunnel id).run s w).2.database = w.database.dropFunnel id ∨
      (∀ b, ((deleteFunnel id).run s w).1 ≠ .ok (.own b)) ∧
        ((deleteFunnel id).run s w).2.database = w.database := by
  rw [deleteFunnel_eq]
  refine guarded_leaves
    (Q := fun reply db' _ =>
      reply = .ok (.own (w.database.funnels.any fun r => r.id == id)) ∧
        db' = w.database.dropFunnel id ∨ (∀ b, reply ≠ .ok (.own b)) ∧ db' = w.database)
    (fun _ => .inr ⟨nofun, rfl⟩) (fun _ => .inr ⟨nofun, rfl⟩) fun o => ?_
  obtain ⟨hreply, hdb⟩ := run_dropFunnel id s { w with outside := o }
  rw [hreply, hdb]
  cases Column.whole id with
  | error e => exact .inr ⟨nofun, rfl⟩
  | ok _ => exact .inl ⟨rfl, rfl⟩

theorem deleteFunnel_of_none {id : String} (hs : (s.interrupt .deleteFunnel w.outside).1 = none)
    (hid : Text.isWhole id = true) :
    ((deleteFunnel id).run s w).1 = .ok (.own (w.database.funnels.any fun r => r.id == id)) := by
  rw [deleteFunnel_eq, guarded, relayed_of_none hs, run_map, (run_dropFunnel id s _).1,
    Column.whole_eq_ok hid]
  rfl

theorem run_getFunnel {id : String} (hs : (s.interrupt .getFunnel w.outside).1 = none)
    (hid : Text.isWhole id = true) :
    ((getFunnel id).run s w).1 =
      (match w.database.funnels.find? fun r => r.id == id with
        | some r => r.load.map fun f => .own (some f)
        | none => .ok (.own none)) := by
  have hrow := run_funnelRow? (s := s)
    (w := { w with outside := (s.interrupt .getFunnel w.outside).2 }) id
  rw [Column.whole_eq_ok hid] at hrow
  rw [getFunnel, guarded, relayed_of_none hs, run_map, run_bind_ok hrow]
  cases w.database.funnels.find? fun r => r.id == id with
  | none => rfl
  | some r =>
    dsimp only
    rw [run_map, run_ofExcept]
    cases r.load <;> rfl

end Store

end Nurture
