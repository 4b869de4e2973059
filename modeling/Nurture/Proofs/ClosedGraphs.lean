import Nurture.Proofs.Courses
import Nurture.Proofs.PassRows
import Nurture.Proofs.StoredGraphs

/-!
  Executions stay in their graphs

  The check of a funnel looks at the references of its nodes, and a walk goes where the handlers
  say. Both agree: whatever a node comes to, the execution goes on at a node that it refers to, or
  waits at such a node or at the node itself. So an execution that is started in a funnel that
  has passed the check waits at a node of it whenever it waits, and never
  finds a node missing, until the funnel is replaced (`executions_stay_in_graph`).
-/

namespace Nurture

open Validation Validation.Checked

variable {σ : Type} {s : Surroundings σ} {f g : Funnel} {ctx : StepContext} {policy : Policy}
  {now : Calendar.Stamp} {r r' : ExecutionRow} {visits : List Visit}

/-- The entry tells of a node that was missing. -/
def TellsOfMissing (entry : Json.Fields) : Prop :=
  Json.Fields.get? entry "outcome" = some (.str "unreachable")

theorem not_tellsOfMissing {nodeId : String} {kind : Option NodeKind} {outcome : String}
    {at0 : Calendar.Stamp} {more : Json.Fields} (h : outcome ≠ "unreachable") :
    ¬ TellsOfMissing (historyEntry nodeId kind outcome at0 more) := by
  intro htells
  rw [TellsOfMissing, outcome_historyEntry, Option.some.injEq, Json.str.injEq] at htells
  exact h htells

/-- The execution waits at a node of the funnel, if it waits, which has no other node of that
identifier; and its history tells of no node that was missing. -/
structure ExecutionRow.StaysIn (r : ExecutionRow) (f : Funnel) : Prop where
  place : r.status = Status.waiting.name →
    ∃ id, r.currentNodeId = some id ∧ (Graph.ids f.nodes).count id = 1
  history : ∃ history, r.history = Execution.historyJson history ∧
    ∀ entry ∈ history, ¬ TellsOfMissing entry

theorem Graph.WellFormed.count_eq_one {nodes : List Node} {start : Option String} {id : String}
    (h : Graph.WellFormed nodes start) (hid : id ∈ Graph.ids nodes) :
    (Graph.ids nodes).count id = 1 :=
  List.count_eq_one_of_mem h.nodup hid

/-! ## Walks -/

/-- A trail that starts in the graph does not leave it: it comes to no node that is missing, and
parks at a node of the graph. -/
theorem Trail.stays {start : Option String} {outcome : Except Failure Journey} (hf : f.Validated)
    (ht : Trail f ctx policy start visits outcome)
    (hstart : ∀ id, reference start = some id → id ∈ Graph.ids f.nodes) :
    (∀ id, outcome ≠ .ok (.unreachable id)) ∧
      ∀ n node resumeAt, outcome = .ok (.parked n node resumeAt) →
        node ∈ Graph.ids f.nodes := by
  induction ht with
  | stopped hj =>
    cases hj with
    | ended | looping => simp
    | unreachable hid hn =>
      have hfound := findNode_isSome_iff.mpr (hstart _ hid)
      rw [show findNode f.nodes _ = none from hn] at hfound
      cases hfound
  | failed | broke => simp
  | parked hid hn hcame =>
    refine ⟨by simp, fun n node resumeAt h => ?_⟩
    cases h
    exact hcame.waits.mem_ids hf (mem_of_findNode hn)
  | step hid hn hcame ht ih =>
    -- a node leads to nodes that it refers to
    exact ih fun id hnext =>
      hf.graph.reference_mem _ (mem_of_findNode hn) id (hcame.leadsTo id hnext)

theorem Walked.history_eq {history after : List Json.Fields} {j : Journey}
    (h : Walked f ctx policy history (.ok (j, after))) :
    ∃ passed : List Visit, after = history ++ passed.map (Visit.entry ctx.now) := by
  cases h with
  | unparked _ passed => exact ⟨passed, rfl⟩
  | parked passed => exact ⟨passed, rfl⟩

theorem not_tellsOfMissing_entries {j : Journey} (h : ∀ id, j ≠ .unreachable id) :
    ∀ entry ∈ j.entries now, ¬ TellsOfMissing entry := by
  cases j with
  | ended | failed => simp [Journey.entries]
  | unreachable id => exact absurd rfl (h id)
  | looping n visited =>
    simpa [Journey.entries] using not_tellsOfMissing (by decide)
  | parked n node resumeAt =>
    simpa [Journey.entries, suspendedEntry] using not_tellsOfMissing (by decide)

/-! ## The row of an execution -/

/-- Whatever a pass makes of the row of an execution that stays in a graph: it stays there, if the
pass reads the same graph. -/
theorem Proceeded.stays {rows : List FunnelRow} (h : Proceeded s now rows r visits r')
    (hrows : ∀ row ∈ rows, row.id = r.funnelId → ∀ g, row.load = .ok g →
      Graph.ids g.nodes = Graph.ids f.nodes)
    (hsound : r.Sound) (hr : r.StaysIn f) : r'.StaysIn f := by
  obtain ⟨history, hhistory, hclean⟩ := hr.history
  -- what was read as the history is what is written there
  have hread : ∀ e, r.load = .ok e → ∀ entry ∈ e.history, ¬ TellsOfMissing entry := by
    intro e hload
    obtain ⟨status, history', -, hholds, rfl⟩ := ExecutionRow.load_eq_ok_iff.mp hload
    obtain rfl := ExecutionRow.historyJson_injective (hhistory.symm.trans (hsound.holds hholds))
    exact hclean
  have hcompleted : Status.completed.name ≠ Status.waiting.name := by decide
  cases h with
  | idle => exact hr
  | orphaned hdue hload =>
    refine ⟨fun hwaits => absurd hwaits hcompleted, _, rfl, ?_⟩
    rw [List.forall_mem_append, List.forall_mem_singleton]
    exact ⟨hread _ hload, not_tellsOfMissing (by decide)⟩
  | @walked row g e lead _ outcome answer _ hdue hload hrow hid hg hwalked htrail hsettled =>
    have hids := hrows row hrow hid g hg
    obtain ⟨id, hnode, hcount⟩ := hr.place (ExecutionRow.isDue_eq_true_iff.mp hdue).1
    obtain ⟨hreached, hparked⟩ := htrail.stays (FunnelRow.validated_of_load hg) fun id' hid' => by
      obtain rfl := Option.some.inj (hnode.symm.trans (reference_eq_some_iff.mp hid').1)
      rw [hids]
      exact List.count_pos_iff.mp (by omega)
    have hpassed : ∀ j after, outcome = .ok (j, after) → ∀ entry ∈ after ++ j.entries now,
        ¬ TellsOfMissing entry := by
      rintro j after rfl
      obtain ⟨passed, rfl⟩ := hwalked.history_eq
      rw [List.forall_mem_append, List.forall_mem_append, List.forall_mem_map]
      refine ⟨⟨hread e hload, fun v _ => ?_⟩, ?_⟩
      · rw [Visit.entry_eq]
        exact not_tellsOfMissing (by decide)
      · exact not_tellsOfMissing_entries fun id h => hreached id (h ▸ rfl)
    cases hsettled with
    | broke | failed | refused | answered => exact hr
    | ended hj after =>
      exact ⟨fun hwaits => absurd hwaits hcompleted, _, rfl, hpassed _ _ rfl⟩
    | parked after htime =>
      refine ⟨fun _ => ⟨_, rfl, ?_⟩, _, rfl, hpassed _ _ rfl⟩
      have hmem := hparked _ _ _ rfl
      rw [← hids]
      exact (FunnelRow.validated_of_load hg).graph.count_eq_one hmem

theorem Starts.stays {leadId : String} {context : Json.Fields} (hg : g.Validated)
    (hids : Graph.ids g.nodes = Graph.ids f.nodes) (h : Starts now leadId context g r) :
    r.StaysIn f := by
  refine ⟨fun _ => ?_, [], h.history_eq, by simp⟩
  obtain ⟨start, hstart, hnode⟩ := h.place
  refine ⟨start, hnode, ?_⟩
  rw [← hids]
  exact hg.graph.count_eq_one (hg.graph.start_mem _ (reference_eq_some_iff.mp hstart).1)

/-! ## Moves -/

/-- Every row of the funnel is read as one with these nodes, and every execution of it stays in its
graph, but for those that were there before. -/
structure Confined (f : Funnel) (old : List String) (w : World σ) : Prop where
  sound : w.database.Sound
  reads : ∀ row ∈ w.database.funnels, row.id = f.id → ∀ g, row.load = .ok g →
    Graph.ids g.nodes = Graph.ids f.nodes
  stays : ∀ r ∈ w.database.executions, r.funnelId = f.id → r.id ∉ old → r.StaysIn f

theorem Triggered.confined {trigger : String} {lead : Reply String} {context : Json.Fields}
    {w w' : World σ} {old : List String} (h : Triggered s trigger lead context w w')
    (hsound : w'.database.Sound) (hw : Confined f old w) : Confined f old w' := by
  obtain ⟨all, gs, news, hloads, hgs, hadds, hstarts, -⟩ := h.starts
  have hfunnels : w'.database.funnels = w.database.funnels :=
    congrArg (·.funnels) hadds.database_eq
  refine ⟨hsound, hfunnels ▸ hw.reads, fun r hr hfunnel hnew => ?_⟩
  rw [hadds.database_eq] at hr
  rcases List.mem_append.mp hr with hr | hr
  · exact hw.stays r hr hfunnel hnew
  · -- a new row starts a funnel that was read
    obtain ⟨g, hg, leadId, -, hstart⟩ := exists_mem_of_forall₂ hstarts.flip hr
    have hmem : g ∈ all := (List.mem_filter.mp (hgs.subset hg)).1
    rcases hloads with rfl | hloads
    · cases hmem
    · obtain ⟨row, hrow, hload⟩ := exists_mem_of_forall₂ hloads.flip hmem
      have hid : row.id = f.id := by
        rw [← FunnelRow.id_of_load hload, ← hstart.funnelId_eq, hfunnel]
      exact hstart.stays (FunnelRow.validated_of_load hload)
        (hw.reads row (mem_inOrder.mp hrow) hid g hload)

theorem PassRun.confined {p : PassRun σ} {old : List String} (hsound : p.after.database.Sound)
    (hw : Confined f old p.before) : Confined f old p.after := by
  have hdrove : DroveSome p.surroundings p.now p.before.database p.after.database :=
    processExecutions_droveSome hw.sound.keyed
  obtain ⟨-, change, hdb, -⟩ := hdrove.rows hw.sound.keyed
  have hfunnels : p.after.database.funnels = p.before.database.funnels :=
    congrArg (·.funnels) hdb
  refine ⟨hsound, hfunnels ▸ hw.reads, fun r' hr' hfunnel hnew => ?_⟩
  have hafter : p.rowAfter r'.id = some r' := hsound.keyed.find?_id hr'
  rcases PassRun.proceeded hw.sound.keyed r'.id with
    ⟨-, hnone, -⟩ | ⟨r, r₁, hbefore, hrow, hproceeded⟩
  · rw [hafter] at hnone
    cases hnone
  · obtain rfl := Option.some.inj (hafter.symm.trans hrow)
    have hr := List.mem_of_find?_eq_some hbefore
    have hsame : r.funnelId = r'.funnelId := hproceeded.ids_eq.2.symm
    refine hproceeded.stays (fun row hrow hid => hw.reads row hrow ?_) (hw.sound.rows r hr)
      (hw.stays r hr (hsame.trans hfunnel) ?_)
    · rw [hid, hsame, hfunnel]
    · rwa [← hproceeded.ids_eq.1]

/-- Apart from moves in which something else happens, no move writes a funnel; so while none of
those replaces it, executions stay. -/
theorem Move.confined {m : Move σ} {old : List String} (hm : m.Legal)
    (hkept : ∀ w w', m = .idle w w' → ∀ row ∈ w'.database.funnels, row.id = f.id →
      row ∈ w.database.funnels) (hw : Confined f old m.before) : Confined f old m.after := by
  obtain ⟨hsound, -⟩ := Move.evolves hm (fun h : False => h.elim) hw.sound
  cases m with
  | idle w w' =>
    have hexecutions : w'.database.executions = w.database.executions :=
      World.Spares.executions_eq hm
    exact ⟨hsound, fun row hrow hid => hw.reads row (hkept w w' rfl row hrow hid) hid,
      fun r hr => hw.stays r (hexecutions ▸ hr)⟩
  | start s trigger lead context w =>
    exact (triggerFunnels_starts trigger lead context w).confined hsound hw
  | pass run => exact PassRun.confined hsound hw

/-! ## Funnels that have passed their check -/

/-- A funnel was saved, and is not replaced from then on. Whether it has passed its check need not
be asked: whatever is read from its row has. -/
theorem Course.confined {outside : σ} {naming : Naming} {turns : List (Surroundings σ × Operation)}
    {draft : Draft Funnel} {w₁ w₂ : World σ} {moves : List (Move σ)}
    (hsaved : (Store.saveFunnel draft).run s ((World.fresh outside naming).after turns)
      = (.ok (.own f), w₁)) (hcourse : Course w₁ moves w₂)
    (hkept : ∀ w w', .idle w w' ∈ moves → ∀ row ∈ w'.database.funnels, row.id = f.id →
      row ∈ w.database.funnels) :
    Confined f (w₁.database.executions.map (·.id)) w₂ := by
  obtain ⟨-, row, hrow, hkeeps⟩ := Store.saveFunnel_keeps hsaved
  have hspares := Store.saveFunnel_spares (s := s) draft ((World.fresh outside naming).after turns)
  rw [hsaved] at hspares
  -- the row that was saved is the only one of the funnel
  have hnodup : (w₁.database.funnels.map (·.id)).Nodup :=
    hspares.nodup_funnels (reached_nodup_funnels outside naming turns)
  have hbegin : Confined f (w₁.database.executions.map (·.id)) w₁ := by
    refine ⟨?_, fun row' hrow' hid g hg => ?_, fun r hr _ hnew => ?_⟩
    · have hevolves : Database.Evolves False ((World.fresh outside naming).after turns).database
          w₁.database := .of_executions_eq hspares.executions_eq
      exact (hevolves (reached_sound outside naming turns)).1
    · obtain rfl : row' = row := List.inj_on_of_nodup_map hnodup hrow' hrow
        (hid.trans hkeeps.id_eq.symm)
      exact hkeeps.ids_eq hg
    · exact absurd (List.mem_map_of_mem hr) hnew
  refine hcourse.keeps (fun m hm hlegal => ?_) hbegin
  exact Move.confined hlegal fun w w' heq => hkept w w' (heq ▸ hm)

theorem Funnel.check_ne_good {fs : Json.Fields} {nodes : List Node} {start : Option String}
    (hnodes : defaulted fs "nodes" [] (listOf Node.check) = good nodes)
    (hstart : optional fs "start_node_id" text = good start)
    (h : ¬ Graph.WellFormed nodes start) (draft : Draft Funnel) :
    Funnel.check (.obj fs) ≠ good draft := by
  intro hgood
  obtain ⟨-, -, -, -, nodes', start', -, -, -, -, hnodes', hstart', hgraph, -⟩ :=
    Funnel.checkFields_eq_good_iff.mp hgood
  obtain rfl := good.inj (hnodes.symm.trans hnodes')
  obtain rfl := good.inj (hstart.symm.trans hstart')
  exact h hgraph

/-- Until a funnel that was saved is replaced, whatever else happens, every execution of it that is
started stays in its graph; and no funnel passes its check that has two nodes of one identifier, or
a start or a reference that names no node. -/
theorem executions_stay_in_graph :
    (∀ (outside : σ) (naming : Naming) (turns : List (Surroundings σ × Operation))
      (s : Surroundings σ) (draft : Draft Funnel) (f : Funnel) (w₁ w₂ : World σ)
      (moves : List (Move σ)),
      (Store.saveFunnel draft).run s ((World.fresh outside naming).after turns)
        = (.ok (.own f), w₁) →
      Course w₁ moves w₂ →
      (∀ w w', .idle w w' ∈ moves → ∀ row ∈ w'.database.funnels, row.id = f.id →
        row ∈ w.database.funnels) →
      ∀ r ∈ w₂.database.executions, r.funnelId = f.id →
        (∀ r₀ ∈ w₁.database.executions, r₀.id ≠ r.id) → r.StaysIn f) ∧
    ∀ fs nodes start, defaulted fs "nodes" [] (listOf Node.check) = good nodes →
      optional fs "start_node_id" text = good start →
      (¬ (Graph.ids nodes).Nodup ∨ (∃ id, start = some id ∧ id ∉ Graph.ids nodes) ∨
        ∃ n ∈ nodes, ∃ id ∈ n.successors, id ∉ Graph.ids nodes) →
      ∀ draft, Funnel.check (.obj fs) ≠ good draft := by
  constructor
  · intro outside naming turns s draft f w₁ w₂ moves hsaved hcourse hkept r hr hfunnel hnew
    refine (hcourse.confined hsaved hkept).stays r hr hfunnel fun hold => ?_
    obtain ⟨r₀, hr₀, hid⟩ := List.mem_map.mp hold
    exact hnew r₀ hr₀ hid
  · intro fs nodes start hnodes hstart hfault
    refine Funnel.check_ne_good hnodes hstart fun hgraph => ?_
    rcases hfault with hdup | ⟨id, rfl, hid⟩ | ⟨n, hn, id, hid, hmissing⟩
    · exact hdup hgraph.nodup
    · exact hid (hgraph.start_mem id rfl)
    · exact hmissing (hgraph.reference_mem n hn id hid)

namespace Newsletter

/-- The funnel is saved, -/
def kept : World Unit :=
  ((Store.saveFunnel ⟨some funnel.id, fun _ => funnel⟩).run surroundings (World.fresh ())).2

/-- a lead is there, -/
def subscribed : World Unit :=
  ((Store.subscribe { email := .str lead.email }).run surroundings kept).2

/-- the funnel is started for it, -/
def begun : Move Unit := .start surroundings funnel.trigger (.own lead.id) [] subscribed

/-- and a pass is made. -/
def driven : Move Unit := .pass ⟨surroundings, start, begun.after⟩

/-- Two nodes of one identifier. -/
def doubled : Json.Fields :=
  [("name", .str "Newsletter"), ("trigger", .str "launch"),
   ("nodes", .arr [letter.toJson, letter.toJson])]

/-- The execution waits at the letter after the pause, and a funnel in which the letter stands twice
is refused. -/
theorem execution_at_letter :
    (∃ r ∈ driven.after.database.executions, r.status = Status.waiting.name ∧
      r.nextRunAt = Calendar.hour ∧ r.currentNodeId = some letter.id ∧ r.StaysIn funnel) ∧
    ∀ draft, Funnel.check (.obj doubled) ≠ good draft := by
  constructor
  · obtain ⟨r, hr, hwaits, htime, hnode, hfunnel⟩ : ∃ r ∈ driven.after.database.executions,
        r.status = Status.waiting.name ∧ r.nextRunAt = Calendar.hour ∧
          r.currentNodeId = some letter.id ∧ r.funnelId = funnel.id := by decide +kernel
    have hcourse : Course kept [.idle kept subscribed, begun, driven] driven.after :=
      .move (m := .idle kept subscribed) (World.Retains.spares _ _ (Store.subscribe_retains _ kept))
        (.move (m := begun) trivial (.move (m := driven) trivial (.stay _)))
    have hkept : ∀ w w', .idle w w' ∈ [.idle kept subscribed, begun, driven] →
        ∀ row ∈ w'.database.funnels, row.id = funnel.id → row ∈ w.database.funnels := by
      intro w w' hidle row hrow _
      obtain ⟨rfl, rfl⟩ : w = kept ∧ w' = subscribed := by simpa [begun, driven] using hidle
      exact hrow
    exact ⟨r, hr, hwaits, htime, hnode, executions_stay_in_graph.1 () .counted [] surroundings
      ⟨some funnel.id, fun _ => funnel⟩ funnel kept driven.after _ rfl hcourse hkept r hr hfunnel
      fun r₀ hr₀ => nomatch hr₀⟩
  · exact (executions_stay_in_graph (σ := Unit)).2 doubled [letter, letter] none rfl rfl
      (.inl (by decide))

end Newsletter

end Nurture
