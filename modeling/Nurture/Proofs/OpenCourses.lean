import Nurture.Proofs.Courses
import Nurture.Proofs.LeadNumbers
import Nurture.Proofs.ReadableRows
import Nurture.Proofs.StockFunnel

/-!
  Open courses

  Between its triggers and its passes a course leaves open what happens to other tables than that of
  executions. In an open course this is one call of the store or of the directory at a time
  (`Move.Open`). Every run of operations has one, whose calls are those that the operations make
  (`World.after_unfolds`); no operation both saves and deletes funnels
  (`Operation.unfolds_oneWay`). Along an open course identifiers of leads are not given out twice,
  and tables that can be read stay such.
-/

namespace Nurture

open Nurture.Action

variable {σ : Type} {w w' : World σ} {m : Move σ} {moves : List (Move σ)} {P : Upkeep → Prop}

/-- The tables, the attempts and the identifiers of leads are what they were. -/
structure World.Rests (w w' : World σ) : Prop where
  database_eq : w'.database = w.database
  attempts_eq : w'.attempts = w.attempts
  naming_eq : w'.issued.naming = w.issued.naming
  numbers_eq : w'.issued.leads = w.issued.leads

/-- Between triggers and passes nothing happens, or one call of the kind is made. -/
def Move.Open (P : Upkeep → Prop) : Move σ → Prop
  | idle w w' => w.Rests w' ∨ ∃ s c, P c ∧ w' = ((Upkeep.act c).run s w).2
  | start .. => True
  | pass _ => True

theorem Move.Open.mono {Q : Upkeep → Prop} (h : m.Open P) (hPQ : ∀ c, P c → Q c) : m.Open Q := by
  cases m with
  | idle w w' => exact h.imp_right fun ⟨s, c, hc, hw⟩ => ⟨s, c, hPQ c hc, hw⟩
  | start | pass => trivial

/-! ## Every run has an open course -/

/-- There is an open course from one world to the other. -/
def Unfolds (P : Upkeep → Prop) (w w' : World σ) : Prop :=
  ∃ moves, Course w moves w' ∧ ∀ m ∈ moves, m.Open P

theorem Unfolds.of_move (hm : m.Legal) (hopen : m.Open P) : Unfolds P m.before m.after :=
  ⟨[m], .move hm (.stay _), by simpa using hopen⟩

theorem World.Rests.unfolds (h : w.Rests w') : Unfolds P w w' :=
  .of_move (m := .idle w w') (Lenient.of_same h.database_eq h.attempts_eq : w.Spares w') (.inl h)

instance : Tolerant (Unfolds (σ := σ) P) where
  of_still hdb hattempts hissued :=
    World.Rests.unfolds
      ⟨hdb, hattempts, congrArg (·.naming) hissued, congrArg (·.leads) hissued⟩

instance : IsTrans (World σ) (Unfolds P) where
  trans := by
    rintro w w₁ w' ⟨moves, hcourse, hopen⟩ ⟨later, hcourse', hopen'⟩
    refine ⟨moves ++ later, hcourse.append hcourse', fun m hm => ?_⟩
    exact (List.mem_append.mp hm).elim (hopen m) (hopen' m)

theorem coversCalls_unfolds (s : Surroundings σ) :
    CoversCalls P (fun _ => True) (Unfolds P) s where
  upkeep c hc w :=
    .of_move (m := .idle w ((Upkeep.act c).run s w).2) (c.spares w) (.inr ⟨s, c, hc, rfl⟩)
  start trigger lead context w := .of_move (m := .start s trigger lead context w) trivial trivial
  clock := trivial
  pass now _ w := .of_move (m := .pass ⟨s, now, w⟩) trivial trivial
  stock _ := World.Rests.unfolds ⟨rfl, rfl, rfl, rfl⟩

/-- Every run of operations has an open course, in which the operations' calls are made. -/
theorem World.after_unfolds {turns : List (Surroundings σ × Operation)}
    (h : ∀ turn ∈ turns, turn.2.Gives P) (w : World σ) : Unfolds P w (w.after turns) :=
  World.after_takes_of_gives (fun turn hturn =>
    ⟨coversCalls_unfolds turn.1, h turn hturn, fun _ _ => trivial⟩) w

/-! ## Operations that leave rows readable -/

theorem Api.exists_of_checkBody {α : Type} {check : Json → Validation.Checked α}
    {body : Option Json} {a : α} (h : Api.checkBody check body = .good a) :
    ∃ j, check j = .good a := by
  unfold Api.checkBody at h
  split at h
  · cases h
  · cases h
  · split at h
    · rename_i hgood
      cases h
      exact ⟨_, Validation.Checked.within_eq_good_iff.mp hgood⟩
    · cases h

/-- The commands of requests save funnels that have passed their check, and tag with texts. -/
theorem Api.Endpoint.command_gives {e : Api.Endpoint} {id : String} {query : Api.Query}
    {body : Option Json} {c : Api.Command} (h : e.command id query body = .good c) :
    c.Gives Upkeep.IsReadable := by
  cases e with
  | saveFunnel =>
    obtain ⟨draft, hdraft, rfl⟩ := Validation.Checked.map_eq_good_iff.mp h
    obtain ⟨j, hj⟩ := Api.exists_of_checkBody hdraft
    exact fun id => (Funnel.proper_of_check hj id).2
  | createStockFunnel =>
    cases h
    exact ⟨fun _ _ => trivial, fun naming k => Stock.draft_proper naming k⟩
  | addTag =>
    obtain ⟨r, -, rfl⟩ := Validation.Checked.map_eq_good_iff.mp h
    exact ⟨r.tag, rfl⟩
  | listExecutions =>
    obtain ⟨_, leadId, hg, -, rfl⟩ := applied_eq_good_iff.mp h
    obtain ⟨_, funnelId, hg₁, -, rfl⟩ := applied_eq_good_iff.mp hg
    obtain ⟨status, -, rfl⟩ := mapped_eq_good_iff.mp hg₁
    trivial
  | saveTemplate | trigger | broadcast | listLeads | subscribe =>
    obtain ⟨_, -, rfl⟩ := Validation.Checked.map_eq_good_iff.mp h
    trivial
  | _ =>
    cases h
    trivial

/-- Funnels that are saved are such as their check lets through, and tags are texts. What requests
ask for is checked. -/
def Operation.IsReadable : Operation → Prop
  | saveFunnel draft => ∀ id, (draft.withId id).Proper
  | tagLead _ tag => ∃ t, tag = .str t
  | _ => True

theorem Operation.IsReadable.gives {op : Operation} (h : op.IsReadable) :
    op.Gives Upkeep.IsReadable := by
  cases op with
  | saveFunnel draft => exact h
  | tagLead id tag => exact h
  | createStockFunnel => exact ⟨fun _ _ => trivial, fun naming k => Stock.draft_proper naming k⟩
  | request env worker r => exact fun _ _ _ _ _ hcommand => Api.Endpoint.command_gives hcommand
  | _ => trivial

/-! ## Funnels that stay, or only go -/

/-- The call deletes a funnel. -/
def Upkeep.DeletesFunnel : Upkeep → Prop
  | deleteFunnel _ => True
  | _ => False

/-- No identifier of a funnel is given up. -/
def World.KeepsFunnels (w w' : World σ) : Prop :=
  ∀ row ∈ w.database.funnels, ∃ row' ∈ w'.database.funnels, row'.id = row.id

/-- No funnel is added. -/
def World.AddsNoFunnel (w w' : World σ) : Prop :=
  ∀ row ∈ w'.database.funnels, row ∈ w.database.funnels

theorem World.KeepsFunnels.of_eq {w w' : World σ}
    (h : w'.database.funnels = w.database.funnels) : w.KeepsFunnels w' :=
  fun row hrow => ⟨row, h ▸ hrow, rfl⟩

theorem World.AddsNoFunnel.of_eq {w w' : World σ}
    (h : w'.database.funnels = w.database.funnels) : w.AddsNoFunnel w' :=
  fun _ hrow => h ▸ hrow

instance : Lenient (World.KeepsFunnels (σ := σ)) where
  of_same h _ := .of_eq (congrArg _ h)

instance : IsTrans (World σ) World.KeepsFunnels where
  trans _ _ _ h h' row hrow := by
    obtain ⟨row₁, hrow₁, hid₁⟩ := h row hrow
    obtain ⟨row', hrow', hid'⟩ := h' row₁ hrow₁
    exact ⟨row', hrow', hid'.trans hid₁⟩

instance : Lenient (World.AddsNoFunnel (σ := σ)) where
  of_same h _ := .of_eq (congrArg _ h)

instance : IsTrans (World σ) World.AddsNoFunnel where
  trans _ _ _ h h' row hrow := h row (h' row hrow)

theorem Upkeep.keepsFunnels {c : Upkeep} (hc : ¬ c.DeletesFunnel) :
    Takes World.KeepsFunnels s c.act := by
  rcases c.retains_or (s := s) with ⟨draft, rfl⟩ | ⟨id, rfl⟩ | h
  · refine Takes.map' (Store.saveFunnel_takes (fun w new row hrow => ?_) draft)
    by_cases hid : row.id = new.id
    · exact ⟨new, mem_putRow_iff.mpr (.inl rfl), hid.symm⟩
    · exact ⟨row, mem_putRow_iff.mpr (.inr ⟨hrow, hid⟩), rfl⟩
  · exact absurd trivial hc
  · exact h.mono fun _ _ h => .of_eq h.funnels_eq

theorem Upkeep.addsNoFunnel {c : Upkeep} (hc : c.DeletesFunnel) :
    Takes World.AddsNoFunnel s c.act := by
  cases c with
  | deleteFunnel id =>
    exact Takes.map' (Store.deleteFunnel_takes (fun _ _ _ hrow => (List.mem_filter.mp hrow).1) id)
  | _ => cases hc

theorem Api.Command.gives_of_ne {c : Api.Command} (hc : ∀ id, c ≠ .deleteFunnel id) :
    c.Gives fun c => ¬ c.DeletesFunnel := by
  cases c with
  | deleteFunnel id => exact absurd rfl (hc id)
  | createStockFunnel => exact ⟨fun _ _ => not_false, fun _ _ => not_false⟩
  | saveFunnel | saveTemplate | subscribe | addTag => exact not_false
  | _ => trivial

theorem Operation.gives_isReadable (op : Operation) :
    op.Gives fun c => op.IsReadable → c.IsReadable := by
  by_cases h : op.IsReadable
  · exact h.gives.imp₂ op.gives_any fun _ hc _ _ => hc
  · exact op.gives_any.imp₂ op.gives_any fun _ _ _ h' => absurd h' h

/-- An operation deletes no funnel, or makes no other calls than those that do. -/
theorem Operation.unfolds_oneWay (op : Operation) (s : Surroundings σ) (w : World σ) :
    Unfolds (fun c => ¬ c.DeletesFunnel ∧ (op.IsReadable → c.IsReadable)) w (op.act.run s w).2 ∨
      Unfolds Upkeep.DeletesFunnel w (op.act.run s w).2 := by
  have hkeeps (hop : op.Gives fun c => ¬ c.DeletesFunnel) : Unfolds
      (fun c => ¬ c.DeletesFunnel ∧ (op.IsReadable → c.IsReadable)) w (op.act.run s w).2 :=
    Operation.takes_of_gives (coversCalls_unfolds s)
      (hop.imp₂ op.gives_isReadable fun _ => And.intro) (fun _ _ => trivial) w
  cases op with
  | deleteFunnel id =>
    have hdeletes : (Operation.deleteFunnel id).Gives Upkeep.DeletesFunnel := trivial
    exact .inr (Operation.takes_of_gives (coversCalls_unfolds s) hdeletes (fun _ _ => trivial) w)
  | request env worker r =>
    rw [act, snd_run_bind_pure]
    rcases Api.respond_cases env worker r with ⟨response, hr⟩ | ⟨e, id, query, body, c, hc, hr⟩
    · rw [hr]
      exact .inl (Takes.pure' response w)
    · rw [hr]
      by_cases hdeletes : ∃ id, c = .deleteFunnel id
      · obtain ⟨id, rfl⟩ := hdeletes
        have hc : (Api.Command.deleteFunnel id).Gives Upkeep.DeletesFunnel := trivial
        exact .inr ((coversCalls_unfolds s).answer worker hc w)
      · refine .inl ((coversCalls_unfolds s).answer worker ?_ w)
        exact (Api.Command.gives_of_ne fun id h => hdeletes ⟨id, h⟩).imp₂
          (Api.Endpoint.command_gives hc) fun _ h h' => ⟨h, fun _ => h'⟩
  | createStockFunnel => exact .inl (hkeeps ⟨fun _ _ => not_false, fun _ _ => not_false⟩)
  | saveFunnel | saveTemplate | subscribeLead | tagLead | deleteLead =>
    exact .inl (hkeeps not_false)
  | trigger | broadcast | processExecutions | processNow => exact .inl (hkeeps trivial)

/-! ## What moves of open courses do -/

theorem Move.aside : (∃ w w', m = .idle w w') ∨ m.before.Aside m.after := by
  cases m with
  | idle w w' => exact .inl ⟨w, w', rfl⟩
  | start s trigger lead context w =>
    exact .inr (coversDeeds_aside.triggerFunnels trigger lead context w)
  | pass run => exact .inr (coversDeeds_aside.processExecutions run.now run.before)

theorem Move.keepsFunnels (hopen : m.Open P) (hP : ∀ c, P c → ¬ c.DeletesFunnel) :
    m.before.KeepsFunnels m.after := by
  rcases m.aside with ⟨w, w', rfl⟩ | h
  · rcases hopen with h | ⟨s, c, hc, rfl⟩
    · exact .of_eq (congrArg (·.funnels) h.database_eq)
    · exact Upkeep.keepsFunnels (hP c hc) w
  · exact .of_eq h.funnels_eq

theorem Move.addsNoFunnel (hopen : m.Open P) (hP : ∀ c, P c → c.DeletesFunnel) :
    m.before.AddsNoFunnel m.after := by
  rcases m.aside with ⟨w, w', rfl⟩ | h
  · rcases hopen with h | ⟨s, c, hc, rfl⟩
    · exact .of_eq (congrArg (·.funnels) h.database_eq)
    · exact Upkeep.addsNoFunnel (hP c hc) w
  · exact .of_eq h.funnels_eq

theorem Move.joined (hopen : m.Open P) (hw : m.before.Numbered) : m.before.Joined m.after := by
  rcases m.aside with ⟨w, w', rfl⟩ | h
  · rcases hopen with h | ⟨s, c, -, rfl⟩
    · exact World.SameLeads.joined ⟨congrArg (·.leads) h.database_eq, h.naming_eq,
        h.numbers_eq⟩
    · exact c.joined hw
  · exact h.sameLeads.joined

theorem Course.vacant (h : Course w moves w') (hopen : ∀ m ∈ moves, m.Open P) {id : String}
    (hw : w.Numbered ∧ w.Vacant id) : w'.Numbered ∧ w'.Vacant id := by
  refine h.keeps (P := fun w => w.Numbered ∧ w.Vacant id) (fun m hm _ hbefore => ?_) hw
  have hjoined := Move.joined (hopen m hm) hbefore.1
  exact ⟨hjoined.numbered hbefore.1, hjoined.vacant hbefore.2⟩

theorem Course.numbered (h : Course w moves w') (hopen : ∀ m ∈ moves, m.Open P)
    (hw : w.Numbered) : w'.Numbered :=
  h.keeps (P := World.Numbered)
    (fun m hm _ hbefore => (Move.joined (hopen m hm) hbefore).numbered hbefore) hw

theorem reached_numbered (outside : σ) (naming : Naming)
    (turns : List (Surroundings σ × Operation)) :
    ((World.fresh outside naming).after turns).Numbered := by
  obtain ⟨moves, hcourse, hopen⟩ := World.after_unfolds (P := fun _ => True)
    (fun turn _ => turn.2.gives_any) (World.fresh outside naming)
  exact hcourse.numbered hopen (by simp [World.Numbered, World.fresh, Database.empty])

theorem ExecutionRow.Sound.isReadable {r : ExecutionRow} (h : r.Sound) : r.IsReadable := by
  obtain ⟨history, hhistory⟩ := h.history
  refine ⟨?_, history, .inl hhistory⟩
  rcases h.place with ⟨hstatus, -⟩ | ⟨hstatus, -⟩
  · exact ⟨.waiting, hstatus⟩
  · exact ⟨.completed, hstatus⟩

theorem Move.readable (hm : m.Legal) (hopen : m.Open Upkeep.IsReadable)
    (hw : m.before.database.Sound ∧ m.before.database.Readable) :
    m.after.database.Sound ∧ m.after.database.Readable := by
  obtain ⟨hsound, -⟩ := Move.evolves hm (fun h : False => h.elim) hw.1
  refine ⟨hsound, ?_⟩
  rcases m.aside with ⟨w, w', rfl⟩ | h
  · rcases hopen with h | ⟨s, c, hc, rfl⟩
    · exact h.database_eq ▸ hw.2
    · exact Upkeep.keeps hc hw.2
  · exact ⟨h.funnels_eq ▸ hw.2.funnels, fun r hr => (hsound.rows r hr).isReadable,
      h.leads_eq ▸ hw.2.leads⟩

theorem Course.readable (h : Course w moves w') (hopen : ∀ m ∈ moves, m.Open Upkeep.IsReadable)
    (hw : w.database.Sound ∧ w.database.Readable) : w'.database.Sound ∧ w'.database.Readable :=
  h.keeps (P := fun w => w.database.Sound ∧ w.database.Readable)
    (fun m hm hlegal => Move.readable hlegal (hopen m hm)) hw

/-- All rows can be read after operations that leave them readable. -/
theorem reached_readable (outside : σ) (naming : Naming)
    {turns : List (Surroundings σ × Operation)}
    (h : ∀ turn ∈ turns, turn.2.IsReadable) :
    ((World.fresh outside naming).after turns).database.Sound ∧
      ((World.fresh outside naming).after turns).database.Readable := by
  obtain ⟨moves, hcourse, hopen⟩ := World.after_unfolds (P := Upkeep.IsReadable)
    (fun turn hturn => (h turn hturn).gives) (World.fresh outside naming)
  exact hcourse.readable hopen ⟨Database.empty_sound, .empty⟩

end Nurture
