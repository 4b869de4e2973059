import Nurture.Proofs.Operations
import Nurture.Proofs.SendWindows
import Nurture.Proofs.Starts

/-!
  The life cycle of executions

  `Database.Evolves` relates tables to later ones: what is sound stays sound, and every
  row of an execution is there later, with a history that has only grown. Every call
  that writes and every pass is covered by it, hence so is every run from empty tables
  (`executions_advance`, `executions_placed`).

  Times are a matter of the zone. A delay never ends before it begins, but a
  send window may be one that has passed, where clocks do not keep dates.
-/

namespace Nurture

namespace ExecutionRow

/-- The row of an execution, and what it may have become later; its time is no earlier one if
`timely`. -/
structure Advances (timely : Prop) (r r' : ExecutionRow) : Prop where
  id_eq : r'.id = r.id
  funnelId_eq : r'.funnelId = r.funnelId
  leadId_eq : r'.leadId = r.leadId
  context_eq : r'.context = r.context
  createdAt_eq : r'.createdAt = r.createdAt
  /-- The history is a list of entries, which has only grown. -/
  history_grows : ∃ history more, r.history = Execution.historyJson history ∧
    r'.history = Execution.historyJson (history ++ more)
  status_eq : r'.status = r.status ∨
    r.status = Status.waiting.name ∧ r'.status = Status.completed.name
  /-- An execution that has ended is left alone. -/
  final : r.status = Status.completed.name → r' = r
  le_nextRunAt : timely → r.nextRunAt ≤ r'.nextRunAt

/-- The history is a list of entries, and the execution waits at a node or has ended at none. -/
structure Sound (r : ExecutionRow) : Prop where
  history : ∃ history, r.history = Execution.historyJson history
  place : r.status = Status.waiting.name ∧ (∃ id, r.currentNodeId = some id ∧ id ≠ "") ∨
    r.status = Status.completed.name ∧ r.currentNodeId = none

variable {timely timely' : Prop} {r r' r'' : ExecutionRow}

theorem Advances.refl (h : r.Sound) : Advances timely r r := by
  obtain ⟨history, hh⟩ := h.history
  refine ⟨rfl, rfl, rfl, rfl, rfl, ⟨history, [], hh, ?_⟩, .inl rfl, fun _ => rfl,
    fun _ => Int.le_refl _⟩
  rw [List.append_nil, hh]

theorem historyJson_injective : Function.Injective Execution.historyJson := by
  intro history history' h
  rw [Execution.historyJson, Execution.historyJson, Json.arr.injEq] at h
  exact List.map_injective_iff.mpr (fun _ _ h => Json.obj.inj h) h

theorem Advances.trans (h : Advances timely r r') (h' : Advances timely r' r'') :
    Advances timely r r'' where
  id_eq := h'.id_eq.trans h.id_eq
  funnelId_eq := h'.funnelId_eq.trans h.funnelId_eq
  leadId_eq := h'.leadId_eq.trans h.leadId_eq
  context_eq := h'.context_eq.trans h.context_eq
  createdAt_eq := h'.createdAt_eq.trans h.createdAt_eq
  history_grows := by
    obtain ⟨history, more, hr, hr'⟩ := h.history_grows
    obtain ⟨history', more', hheld, hr''⟩ := h'.history_grows
    obtain rfl : history' = history ++ more := historyJson_injective (hheld.symm.trans hr')
    exact ⟨history, more ++ more', hr, by rw [hr'', List.append_assoc]⟩
  status_eq := by
    rcases h.status_eq with hs | ⟨hw, hc⟩
    · rcases h'.status_eq with hs' | ⟨hw', hc'⟩
      · exact .inl (hs'.trans hs)
      · exact .inr ⟨hs ▸ hw', hc'⟩
    · exact .inr ⟨hw, (h'.final hc) ▸ hc⟩
  final := by
    intro hc
    have hsame : r' = r := h.final hc
    rw [h'.final (hsame ▸ hc), hsame]
  le_nextRunAt ht := Int.le_trans (h.le_nextRunAt ht) (h'.le_nextRunAt ht)

theorem Sound.holds {history : List Json.Fields} (h : r.Sound) (hh : r.Holds history) :
    r.history = Execution.historyJson history := by
  rcases hh with hh | ⟨hg, rfl⟩
  · exact hh
  · obtain ⟨history', hr⟩ := h.history
    rw [hr] at hg ⊢
    cases history' with
    | nil => rfl
    | cons fs history' => simp [Execution.historyJson, Json.isGiven] at hg

end ExecutionRow

/-! ## Tables -/

namespace Database

/-- The rows of executions have identifiers of their own, and each is sound. -/
structure Sound (db : Database) : Prop where
  keyed : db.Keyed
  rows : ∀ r ∈ db.executions, r.Sound

/-- Tables, and what they may have become later. -/
def Evolves (timely : Prop) (db db' : Database) : Prop :=
  db.Sound → db'.Sound ∧
    ∀ r ∈ db.executions, ∃ r' ∈ db'.executions, r.Advances timely r'

variable {timely : Prop} {db db' : Database}

theorem Evolves.of_executions_eq (h : db'.executions = db.executions) : Evolves timely db db' := by
  intro hs
  refine ⟨⟨⟨h ▸ hs.keyed.nodup, h ▸ hs.keyed.whole⟩, h ▸ hs.rows⟩, fun r hr => ?_⟩
  exact ⟨r, h ▸ hr, .refl (hs.rows r hr)⟩

instance : Std.Refl (Evolves timely) := ⟨fun _ => .of_executions_eq rfl⟩

instance : IsTrans Database (Evolves timely) := by
  constructor
  intro db₀ db₁ db₂ h h' hs
  obtain ⟨hs₁, hrows⟩ := h hs
  obtain ⟨hs₂, hrows'⟩ := h' hs₁
  refine ⟨hs₂, fun r hr => ?_⟩
  obtain ⟨r₁, hr₁, hadvances⟩ := hrows r hr
  obtain ⟨r₂, hr₂, hadvances'⟩ := hrows' r₁ hr₁
  exact ⟨r₂, hr₂, hadvances.trans hadvances'⟩

end Database

/-! ## New executions -/

theorem Starts.sound {now : Calendar.Stamp} {leadId : String} {context : Json.Fields} {f : Funnel}
    {r : ExecutionRow} (h : Starts now leadId context f r) : r.Sound := by
  obtain ⟨start, hstart, hnode⟩ := h.place
  exact ⟨⟨[], h.history_eq⟩,
    .inl ⟨h.status_eq, start, hnode, (reference_eq_some_iff.mp hstart).2⟩⟩

theorem Adds.evolves {timely : Prop} {news : List ExecutionRow} {db db' : Database}
    (h : Adds news db db') (hnews : ∀ r ∈ news, r.Sound) : db.Evolves timely db' := by
  intro hs
  have hexecutions : db'.executions = db.executions ++ news := congrArg (·.executions) h.database_eq
  refine ⟨⟨h.keyed hs.keyed, fun r hr => ?_⟩, fun r hr => ?_⟩
  · rw [hexecutions] at hr
    exact (List.mem_append.mp hr).elim (hs.rows r) (hnews r)
  · rw [hexecutions]
    exact ⟨r, List.mem_append_left _ hr, .refl (hs.rows r hr)⟩

theorem Triggered.evolves {σ : Type} {s : Surroundings σ} {timely : Prop} {trigger : String}
    {lead : Reply String} {context : Json.Fields} {w w' : World σ}
    (h : Triggered s trigger lead context w w') : w.database.Evolves timely w'.database := by
  obtain ⟨all, gs, news, -, -, hadds, hstarts, -⟩ := h.starts
  refine hadds.evolves fun r hr => ?_
  obtain ⟨f, -, leadId, -, hstart⟩ := exists_mem_of_forall₂ hstarts.flip hr
  exact hstart.sound

/-! ## Rows that are driven -/

section
variable {σ : Type} {s : Surroundings σ} {timely : Prop} {now : Calendar.Stamp}

/-- In a pass at the time no execution is parked until a time that has passed: the clocks of send
windows keep dates, and the clock that the time is read off goes on. -/
structure Surroundings.Timely (s : Surroundings σ) (now : Calendar.Stamp) : Prop where
  regular : s.policy.zone.Regular
  keepsDates : s.policy.zone.KeepsDates
  goesOn : now.GoesOn

/-- An execution is not parked until a time that has passed. -/
theorem Step.Waits.le_instant {ctx : StepContext} {n : Node} {node : String}
    {resumeAt : Calendar.Stamp} (hs : s.Timely ctx.now)
    (h : Step.Waits ctx s.policy n node resumeAt) : ctx.now.instant ≤ resumeAt.instant := by
  cases h with
  | delay hdelays hspan hadd =>
    exact Int.le_of_lt (hs.goesOn _ _ (Step.hour_le_of_delayHours hspan) hadd)
  | window htask hwindow =>
    rw [Calendar.Stamp.instant_toStamp]
    exact SendWindow.le_next hs.regular hs.keepsDates (Step.windowToAwait_eq_some hwindow).2

/-- What becomes of a sound row that is due when its execution is driven. -/
theorem Drove.advances {r r' : ExecutionRow} {history : List Json.Fields}
    {answer : Except Failure Departure}
    (htimely : timely → s.Timely now) (hr : r.Sound)
    (hdue : r.isDue now = true) (hh : r.Holds history) (h : Drove s now r history answer r') :
    r'.Sound ∧ r.Advances timely r' := by
  have hheld : r.history = Execution.historyJson history := hr.holds hh
  obtain ⟨hwaits, htime⟩ := ExecutionRow.isDue_eq_true_iff.mp hdue
  have hnot : r.status ≠ Status.completed.name := by
    rw [hwaits]
    decide
  cases h with
  | completed more =>
    refine ⟨⟨⟨_, rfl⟩, .inr ⟨rfl, rfl⟩⟩, ?_⟩
    exact ⟨rfl, rfl, rfl, rfl, rfl, ⟨history, more, hheld, rfl⟩, .inr ⟨hwaits, rfl⟩,
      fun hc => absurd hc hnot, fun _ => Int.le_refl _⟩
  | @suspended f ctx n node resumeAt more hf hn hnow hpark hmore =>
    have hnode : node ≠ "" := hf.id_ne_empty_of_mem_ids (hpark.mem_ids hf hn)
    refine ⟨⟨⟨_, rfl⟩, .inl ⟨hwaits, node, rfl, hnode⟩⟩, ?_⟩
    refine ⟨rfl, rfl, rfl, rfl, rfl, ⟨history, more, hheld, rfl⟩, .inl rfl,
      fun hc => absurd hc hnot, fun ht => ?_⟩
    -- It was due by now, and is parked until now at the earliest.
    have hlater := hpark.le_instant (hnow ▸ htimely ht)
    calc r.nextRunAt ≤ now.instant := htime
      _ = ctx.now.instant := by rw [hnow]
      _ ≤ resumeAt.instant := hlater
  | failed => exact ⟨hr, .refl hr⟩
  | broke cause => exact ⟨hr, .refl hr⟩
  | answered h d => exact ⟨hr, .refl hr⟩

theorem DroveSome.evolves {db db' : Database}
    (htimely : timely → s.Timely now)
    (h : db.Keyed → DroveSome s now db db') : db.Evolves timely db' := by
  intro hs
  obtain ⟨hkeyed, g, rfl, hrows⟩ := (h hs.keyed).rows hs.keyed
  have hrow : ∀ r ∈ db.executions, (g r).Sound ∧ r.Advances timely (g r) := by
    intro r hr
    rcases hrows r hr with hsame | ⟨hdue, e, answer, hload, hdrove⟩
    · rw [hsame]
      exact ⟨hs.rows r hr, .refl (hs.rows r hr)⟩
    · obtain ⟨status, history, -, hh, rfl⟩ := ExecutionRow.load_eq_ok_iff.mp hload
      exact hdrove.advances htimely (hs.rows r hr) hdue hh
  refine ⟨⟨hkeyed, fun r hr => ?_⟩, fun r hr => ?_⟩
  · obtain ⟨r₀, hr₀, rfl⟩ := List.mem_map.mp hr
    exact (hrow r₀ hr₀).1
  · exact ⟨g r, List.mem_map_of_mem hr, (hrow r hr).2⟩

end

/-! ## Whatever is asked for -/

open Nurture.Action

section
variable {σ : Type} {s : Surroundings σ} {timely : Prop}

/-- The tables evolve, whatever is asked for; times do not go back if the zone's clocks keep dates
and passes are made by clocks that go on. -/
theorem covers_evolves (hzone : timely → s.policy.zone.Regular ∧ s.policy.zone.KeepsDates)
    (hclock : timely → s.clock.GoesOn) :
    Covers (fun now => timely → now.GoesOn) (Tables (Database.Evolves timely)) s where
  spares _ _ h := .of_executions_eq h.executions_eq
  start _ _ _ _ := (triggerFunnels_starts _ _ _ _).evolves
  clock := hclock
  pass _ hnow _ := by
    refine DroveSome.evolves (fun h => ?_) processExecutions_droveSome
    exact ⟨(hzone h).1, (hzone h).2, hnow h⟩

end

/-! ## Runs from empty tables -/

/-- A pass that the operation makes is timely. -/
structure Operation.Timely {σ : Type} (op : Operation) (s : Surroundings σ) : Prop where
  clock : s.Timely s.clock
  pass : op.PassesAt Calendar.Stamp.GoesOn

section
variable {σ : Type} (outside : σ) (naming : Naming) (turns : List (Surroundings σ × Operation))

theorem Database.empty_sound : Database.empty.Sound :=
  ⟨⟨List.nodup_nil, by simp [Database.empty]⟩, by simp [Database.empty]⟩

theorem after_evolves (w : World σ) : w.database.Evolves
    (∀ turn ∈ turns, turn.2.Timely turn.1) (w.after turns).database := by
  refine World.after_takes (E := Tables _) (fun turn hturn => ⟨covers_evolves ?_ ?_, ?_⟩) w
  · exact fun h => ⟨(h turn hturn).clock.regular, (h turn hturn).clock.keepsDates⟩
  · exact fun h => (h turn hturn).clock.goesOn
  · exact fun now hop h => (h turn hturn).pass now hop

theorem reached_sound : ((World.fresh outside naming).after turns).database.Sound :=
  (after_evolves turns (World.fresh outside naming) Database.empty_sound).1

/-- Whatever the operations, what surrounds them and what comes in their way: an execution waits at
a node, or it has ended at none. -/
theorem executions_placed :
    ∀ r ∈ ((World.fresh outside naming).after turns).database.executions,
      (r.status = Status.waiting.name ∨ r.status = Status.completed.name) ∧
      (r.status = Status.waiting.name → ∃ id, r.currentNodeId = some id ∧ id ≠ "") ∧
      (r.status = Status.completed.name → r.currentNodeId = none) := by
  intro r hr
  have hne : Status.waiting.name ≠ Status.completed.name := by decide
  rcases ((reached_sound outside naming turns).rows r hr).place with ⟨hs, hnode⟩ | ⟨hs, hnode⟩
  · exact ⟨.inl hs, fun _ => hnode, fun hc => absurd (hs.symm.trans hc) hne⟩
  · exact ⟨.inr hs, fun hw => absurd (hw.symm.trans hs) hne, fun _ => hnode⟩

end

namespace Newsletter

/-- The funnel is saved and started for a lead that is not there. -/
def startedForNobody : List (Surroundings Unit × Operation) :=
  [(surroundings, .saveFunnel ⟨some funnel.id, fun _ => funnel⟩),
   (surroundings, .trigger funnel.trigger (.own lead.id) [] false)]

/-- The execution waits at the first node, and has ended at none after a pass. -/
theorem waits_then_ends :
    (∃ r ∈ ((World.fresh ()).after startedForNobody).database.executions,
      r.status = Status.waiting.name ∧ ∃ id, r.currentNodeId = some id ∧ id ≠ "") ∧
    ∃ r ∈ ((World.fresh ()).after
        (startedForNobody ++ [(surroundings, .processExecutions start)])).database.executions,
      r.status = Status.completed.name ∧ r.currentNodeId = none := by
  constructor
  · obtain ⟨r, hr, hs⟩ : ∃ r ∈ ((World.fresh ()).after startedForNobody).database.executions,
        r.status = Status.waiting.name := by decide +kernel
    exact ⟨r, hr, hs, (executions_placed () .counted startedForNobody r hr).2.1 hs⟩
  · obtain ⟨r, hr, hs⟩ : ∃ r ∈ ((World.fresh ()).after
        (startedForNobody ++ [(surroundings, .processExecutions start)])).database.executions,
        r.status = Status.completed.name := by decide +kernel
    exact ⟨r, hr, hs, (executions_placed () .counted _ r hr).2.2 hs⟩

end Newsletter

section
variable {σ : Type} (outside : σ) (naming : Naming)
  (turns later : List (Surroundings σ × Operation))

/-- Whatever the operations, what surrounds them and what comes in their way: a row of an execution
is there later too, as what it may have become. -/
theorem executions_advance :
    ∀ r ∈ ((World.fresh outside naming).after turns).database.executions,
      ∃ r' ∈ ((World.fresh outside naming).after (turns ++ later)).database.executions,
        r.Advances (∀ turn ∈ later, turn.2.Timely turn.1) r' ∧
        ∀ x ∈ ((World.fresh outside naming).after (turns ++ later)).database.executions,
          x.id = r.id → x = r' := by
  intro r hr
  rw [World.after_append]
  obtain ⟨hsound, hrows⟩ := after_evolves later _ (reached_sound outside naming turns)
  obtain ⟨r', hr', hadvances⟩ := hrows r hr
  refine ⟨r', hr', hadvances, fun x hx hid => ?_⟩
  exact hsound.keyed.eq_of_id hx hr' (hid.trans hadvances.id_eq.symm)

end

end Nurture
