import Nurture.Proofs.Courses

/-!
  Funnels that are run once at a time

  While funnels are to be run once at a time, a lead never has two executions of one funnel that
  wait (`waiting_once`). What the lead is running is looked up once for a trigger, before its
  first row is added; that is enough, since the funnels listed have
  identifiers of their own. A pass lets rows that wait go on waiting or end, and never makes
  one wait again.
-/

namespace Nurture

variable {σ : Type} {s : Surroundings σ} {now : Calendar.Stamp} {db : Database} {w w' : World σ}

namespace ExecutionRow

/-- The rows are not both waiting executions of one funnel for one lead. -/
def Apart (r r' : ExecutionRow) : Prop :=
  ¬ (r.status = Status.waiting.name ∧ r'.status = Status.waiting.name ∧ r.leadId = r'.leadId ∧
    r.funnelId = r'.funnelId)

/-- The row belongs to the same funnel and lead as before, and waits only if it did. -/
structure Ages (r r' : ExecutionRow) : Prop where
  leadId_eq : r'.leadId = r.leadId
  funnelId_eq : r'.funnelId = r.funnelId
  waiting : r'.status = Status.waiting.name → r.status = Status.waiting.name

theorem Apart.ages {a a' b b' : ExecutionRow} (h : a.Apart b) (ha : a.Ages a') (hb : b.Ages b') :
    a'.Apart b' := by
  rintro ⟨hwaits, hwaits', hlead, hfunnel⟩
  refine h ⟨ha.waiting hwaits, hb.waiting hwaits', ?_, ?_⟩
  · rw [← ha.leadId_eq, ← hb.leadId_eq, hlead]
  · rw [← ha.funnelId_eq, ← hb.funnelId_eq, hfunnel]

end ExecutionRow

/-- Identifiers are no row's but one, and no two executions of a funnel wait for one lead. -/
structure Database.Single (db : Database) : Prop where
  keyed : db.Keyed
  funnels : (db.funnels.map (·.id)).Nodup
  apart : db.executions.Pairwise ExecutionRow.Apart

theorem Drove.ages {r r' : ExecutionRow} {history : List Json.Fields}
    {answer : Except Failure Departure} (h : Drove s now r history answer r') : r.Ages r' := by
  have hne : Status.completed.name ≠ Status.waiting.name := by decide
  cases h with
  | completed more => exact ⟨rfl, rfl, fun hwaits => absurd hwaits hne⟩
  | suspended | failed | broke | answered => exact ⟨rfl, rfl, id⟩

/-! ## One move -/

theorem nodup_of_loads {rows : List FunnelRow} {funnels : List Funnel}
    (h : List.Forall₂ (fun r f => FunnelRow.load r = .ok f) rows funnels)
    (hnodup : (rows.map (·.id)).Nodup) : (funnels.map (·.id)).Nodup := by
  have hids : rows.map (·.id) = funnels.map (·.id) :=
    map_eq_map_of_forall₂ h fun _ _ hload => (FunnelRow.id_of_load hload).symm
  rwa [← hids]

/-- A trigger adds no second row for a funnel that the lead is running. -/
theorem Triggered.single {trigger : String} {lead : Reply String} {context : Json.Fields}
    (h : Triggered s trigger lead context w w') (hdedupe : s.policy.dedupe = true)
    (hs : s.Genuine .listExecutions) (hw : w.database.Single) : w'.database.Single := by
  obtain ⟨all, gs, news, hloads, hgs, hadds, hstarts, hrunning⟩ := h.starts
  have hexecutions : w'.database.executions = w.database.executions ++ news :=
    congrArg (·.executions) hadds.database_eq
  have hfunnels : w'.database.funnels = w.database.funnels :=
    congrArg (·.funnels) hadds.database_eq
  refine ⟨hadds.keyed hw.keyed, hfunnels ▸ hw.funnels, ?_⟩
  rw [hexecutions, List.pairwise_append]
  refine ⟨hw.apart, ?_, ?_⟩
  · -- the new rows are of different funnels
    have hall : (all.map (·.id)).Nodup := by
      rcases hloads with rfl | hloads
      · exact List.nodup_nil
      · refine nodup_of_loads hloads ?_
        exact ((inOrder_perm _ _).map _).nodup_iff.mpr hw.funnels
    have hids : gs.map (·.id) = news.map (·.funnelId) :=
      map_eq_map_of_forall₂ hstarts fun f r ⟨_, _, hstart⟩ => hstart.funnelId_eq.symm
    have hnodup : (news.map (·.funnelId)).Nodup :=
      hids ▸ hall.sublist ((hgs.trans List.filter_sublist).map _)
    exact (List.pairwise_map.mp hnodup).imp fun hne h => hne h.2.2.2
  · -- none of them is of a funnel that waits for the lead
    rintro r hr r' hr' ⟨hwaits, -, hlead, hfunnel⟩
    obtain ⟨f, hf, leadId, rfl, hstart⟩ := exists_mem_of_forall₂ hstarts.flip hr'
    refine hrunning hdedupe hs f hf r hr hwaits ?_ (hfunnel.trans hstart.funnelId_eq)
    rw [hlead, hstart.leadId_eq]

theorem DroveSome.single {db' : Database} (h : db.Keyed → DroveSome s now db db')
    (hdb : db.Single) : db'.Single := by
  obtain ⟨hkeyed, g, rfl, hrows⟩ := (h hdb.keyed).rows hdb.keyed
  have hages : ∀ r ∈ db.executions, r.Ages (g r) := by
    intro r hr
    rcases hrows r hr with hsame | ⟨-, e, answer, -, hdrove⟩
    · rw [hsame]
      exact ⟨rfl, rfl, id⟩
    · exact hdrove.ages
  refine ⟨hkeyed, hdb.funnels, ?_⟩
  rw [Database.mapRows, List.pairwise_map]
  exact hdb.apart.imp_of_mem fun ha hb hapart => hapart.ages (hages _ ha) (hages _ hb)

/-- Funnels are to be run once at a time, and nothing else answers which ones are running. -/
def Surroundings.Deduping (s : Surroundings σ) : Prop :=
  s.policy.dedupe = true ∧ s.Genuine .listExecutions

theorem Move.single {m : Move σ} (hm : m.Legal)
    (hs : ∀ s, m.surroundings? = some s → s.Deduping) (hbefore : m.before.database.Single) :
    m.after.database.Single := by
  cases m with
  | idle w w' =>
    have hexecutions : w'.database.executions = w.database.executions :=
      World.Spares.executions_eq hm
    exact ⟨⟨hexecutions ▸ hbefore.keyed.nodup, hexecutions ▸ hbefore.keyed.whole⟩,
      World.Spares.nodup_funnels hm hbefore.funnels, hexecutions ▸ hbefore.apart⟩
  | start s trigger lead context w =>
    obtain ⟨hdedupe, hgenuine⟩ := hs s rfl
    exact (triggerFunnels_starts trigger lead context w).single hdedupe hgenuine hbefore
  | pass run => exact DroveSome.single processExecutions_droveSome hbefore

/-! ## Every run -/

theorem length_waiting_le_one {rows : List ExecutionRow} (h : rows.Pairwise ExecutionRow.Apart)
    (leadId funnelId : String) :
    (rows.filter fun r => r.status == Status.waiting.name && r.leadId == leadId
      && r.funnelId == funnelId).length ≤ 1 := by
  have hkept := h.filter fun r => r.status == Status.waiting.name && r.leadId == leadId
      && r.funnelId == funnelId
  generalize hrows : (rows.filter fun r => r.status == Status.waiting.name && r.leadId == leadId
      && r.funnelId == funnelId) = kept at hkept
  have hwaiting : ∀ r ∈ kept, r.status = Status.waiting.name ∧ r.leadId = leadId ∧
      r.funnelId = funnelId := by
    intro r hr
    rw [← hrows, List.mem_filter] at hr
    simpa [and_assoc] using hr.2
  match kept, hkept, hwaiting with
  | [], _, _ => exact Nat.zero_le 1
  | [_], _, _ => exact Nat.le_refl 1
  | a :: b :: _, hkept, hwaiting =>
    obtain ⟨ha, hlead, hfunnel⟩ := hwaiting a (by simp)
    obtain ⟨hb, hlead', hfunnel'⟩ := hwaiting b (by simp)
    have hapart := (List.pairwise_cons.mp hkept).1 b (by simp)
    exact absurd ⟨ha, hb, hlead.trans hlead'.symm, hfunnel.trans hfunnel'.symm⟩ hapart

/-- Whatever the operations and whatever comes in their way: while funnels are to be run once at a
time, one execution at most of each funnel waits for each lead. -/
theorem waiting_once (outside : σ) (naming : Naming) (turns : List (Surroundings σ × Operation))
    (h : ∀ turn ∈ turns, turn.1.policy.dedupe = true ∧
      ∀ o j, (turn.1.interrupt .listExecutions o).1 ≠ some (.answers j))
    (leadId funnelId : String) :
    (((World.fresh outside naming).after turns).database.executions.filter fun r =>
      r.status == Status.waiting.name && r.leadId == leadId && r.funnelId == funnelId).length
        ≤ 1 := by
  obtain ⟨moves, hcourse, hturns⟩ := (World.fresh outside naming).after_course turns
  have hempty : (World.fresh outside naming).database.Single :=
    ⟨Database.empty_sound.keyed, List.nodup_nil, .nil⟩
  have hdeduping : ∀ m ∈ moves, ∀ s, m.surroundings? = some s → s.Deduping := by
    intro m hm s hs
    obtain ⟨turn, hturn, rfl⟩ := List.mem_map.mp (hturns m hm s hs)
    exact h turn hturn
  have hsingle := hcourse.keeps (P := fun w => w.database.Single)
    (fun m hm hlegal => Move.single hlegal (hdeduping m hm)) hempty
  exact length_waiting_le_one hsingle.apart leadId funnelId

namespace Newsletter

/-- No execution can be created. -/
def full : Surroundings Unit :=
  { surroundings with
    interrupt := fun c o => (if c = .createExecution then some (.breaks "disk full") else none, o) }

/-- The funnel is started again, after a trigger that broke off, after one that did not, and after
it was removed and saved again. -/
def startedAgain : List (Surroundings Unit × Operation) :=
  let save : Operation := .saveFunnel ⟨some funnel.id, fun _ => funnel⟩
  let trigger : Operation := .trigger funnel.trigger (.own lead.id) [] false
  [(surroundings, save), (full, trigger), (surroundings, trigger), (surroundings, trigger),
   (surroundings, .deleteFunnel funnel.id), (surroundings, save), (surroundings, trigger)]

/-- One execution waits. -/
theorem started_once :
    (∀ turn ∈ startedAgain, turn.1.policy.dedupe = true ∧
      ∀ o j, (turn.1.interrupt .listExecutions o).1 ≠ some (.answers j)) ∧
    (((World.fresh ()).after startedAgain).database.executions.filter fun r =>
      r.status == Status.waiting.name && r.leadId == lead.id && r.funnelId == funnel.id).length
        = 1 := by
  have hturns : ∀ turn ∈ startedAgain, turn.1.policy.dedupe = true ∧
      ∀ o j, (turn.1.interrupt .listExecutions o).1 ≠ some (.answers j) := by
    simp [startedAgain, full, surroundings, Surroundings.calm, Policy.usual]
  have hle := waiting_once () .counted startedAgain hturns lead.id funnel.id
  refine ⟨hturns, Nat.le_antisymm hle ?_⟩
  decide +kernel

end Newsletter

end Nurture
