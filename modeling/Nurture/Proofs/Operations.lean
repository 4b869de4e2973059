import Nurture.Api.Server
import Nurture.Proofs.Rows
import Nurture.Proofs.StoreReads

/-!
  Operations

  What the engine can be asked to do, and runs of such operations in any order.
  An operation is put together from triggers, passes and calls that write other tables
  (`Upkeep`), so a relation of worlds that covers these (`CoversCalls`) covers the operation
  (`Operation.takes_of_gives`) and, since it can be chained, every run of them. The calls leave
  executions alone (`Spares`): what looks at nothing else need not tell them apart (`Covers`,
  `World.after_takes`).
-/

namespace Nurture

/-- What the engine can be asked to do. -/
inductive Operation where
  | saveFunnel (draft : Draft Funnel)
  | deleteFunnel (id : String)
  | saveTemplate (draft : Draft Template)
  | subscribeLead (form : SubscriptionForm)
  | tagLead (id : String) (tag : Json)
  | deleteLead (id : String)
  | trigger (name : String) (lead : Reply String) (context : Json.Fields) (process : Bool)
  | broadcast (name : String) (context : Json.Fields)
  | processExecutions (now : Calendar.Stamp)
  | processNow
  | createStockFunnel
  | request (env : Environment) (worker : Worker.State) (request : Api.Request)

/-- Does what is asked for; the result is not looked at. -/
def Operation.act {σ : Type} : Operation → Action σ Unit
  | saveFunnel draft => Store.saveFunnel draft >>= fun _ => pure ()
  | deleteFunnel id => Store.deleteFunnel id >>= fun _ => pure ()
  | saveTemplate draft => Store.saveTemplate draft >>= fun _ => pure ()
  | subscribeLead form => Nurture.subscribeLead form >>= fun _ => pure ()
  | tagLead id tag => Nurture.tagLead id tag >>= fun _ => pure ()
  | deleteLead id => Store.deleteLead id >>= fun _ => pure ()
  | trigger name lead context process =>
    triggerFunnels name lead context process >>= fun _ => pure ()
  | broadcast name context => Nurture.broadcast name context >>= fun _ => pure ()
  | processExecutions now => Nurture.processExecutions now >>= fun _ => pure ()
  | processNow => Nurture.processNow >>= fun _ => pure ()
  | createStockFunnel => Stock.create >>= fun _ => pure ()
  | request env worker r => Api.respond env worker r >>= fun _ => pure ()

/-- The calls that write other tables than that of executions. Operations make all of them but
updates of leads. -/
inductive Upkeep where
  | saveFunnel (draft : Draft Funnel)
  | deleteFunnel (id : String)
  | saveTemplate (draft : Draft Template)
  | subscribe (form : SubscriptionForm)
  | updateLead (id : String) (fields : Json.Fields)
  | updateStage (id : String) (stage : Json)
  | addTag (id : String) (tag : Json)
  | deleteLead (id : String)

/-- Makes the call; the answer is not looked at. -/
def Upkeep.act {σ : Type} : Upkeep → Action σ Unit
  | saveFunnel draft => (fun _ => ()) <$> Store.saveFunnel draft
  | deleteFunnel id => (fun _ => ()) <$> Store.deleteFunnel id
  | saveTemplate draft => (fun _ => ()) <$> Store.saveTemplate draft
  | subscribe form => (fun _ => ()) <$> Store.subscribe form
  | updateLead id fields => (fun _ => ()) <$> Store.updateLead id fields
  | updateStage id stage => (fun _ => ()) <$> Store.updateStage id stage
  | addTag id tag => (fun _ => ()) <$> Store.addTag id tag
  | deleteLead id => (fun _ => ()) <$> Store.deleteLead id

/-- The world after operations, each in surroundings of its own; those that fail count too. -/
def World.after {σ : Type} (w : World σ) (turns : List (Surroundings σ × Operation)) : World σ :=
  turns.foldl (fun w turn => (turn.2.act.run turn.1 w).2) w

theorem World.after_append {σ : Type} (w : World σ)
    (before later : List (Surroundings σ × Operation)) :
    w.after (before ++ later) = (w.after before).after later :=
  List.foldl_append

/-- Executions and attempts are what they were, and the rows of funnels still have identifiers of
their own if they had. -/
structure World.Spares {σ : Type} (w w' : World σ) : Prop where
  executions_eq : w'.database.executions = w.database.executions
  attempts_eq : w'.attempts = w.attempts
  nodup_funnels : (w.database.funnels.map (·.id)).Nodup → (w'.database.funnels.map (·.id)).Nodup

/-- The relation covers what leaves executions alone, triggers by themselves, and passes at times
of a kind, to which that of the clock belongs. -/
structure Covers {σ : Type} (T : Calendar.Stamp → Prop) (E : World σ → World σ → Prop)
    (s : Surroundings σ) : Prop where
  spares : ∀ w w' : World σ, w.Spares w' → E w w'
  start : ∀ trigger lead context, Action.Takes E s (triggerFunnels trigger lead context false)
  clock : T s.clock
  pass : ∀ now, T now → Action.Takes E s (processExecutions now)

/-- The relation covers the calls of a kind, triggers by themselves, passes at times of a kind, to
which that of the clock belongs, and the giving out of identifiers for the stock funnel. -/
structure CoversCalls {σ : Type} (P : Upkeep → Prop) (T : Calendar.Stamp → Prop)
    (E : World σ → World σ → Prop) (s : Surroundings σ) : Prop where
  upkeep : ∀ c, P c → Action.Takes E s c.act
  start : ∀ trigger lead context, Action.Takes E s (triggerFunnels trigger lead context false)
  clock : T s.clock
  pass : ∀ now, T now → Action.Takes E s (processExecutions now)
  stock : ∀ w : World σ, E w { w with issued := { w.issued with stock := w.issued.stock + 1 } }

open Nurture.Action Nurture.Action.Takes

variable {σ : Type} {s : Surroundings σ} {E : World σ → World σ → Prop} {P : Upkeep → Prop}
  {T : Calendar.Stamp → Prop}

instance : Lenient (World.Spares (σ := σ)) where
  of_same h h' := ⟨congrArg _ h, h', fun hnodup => h ▸ hnodup⟩

instance : IsTrans (World σ) World.Spares where
  trans _ _ _ h h' :=
    ⟨h'.executions_eq.trans h.executions_eq, h'.attempts_eq.trans h.attempts_eq,
      h'.nodup_funnels ∘ h.nodup_funnels⟩

namespace Store

theorem newId_takes [Tolerant E] [IsTrans (World σ) E] {α : Type} {given : Option String}
    {kind : Kind} {count : Issued → Nat} {next : Issued → Issued} {k : String → Action σ α}
    (hissue : ∀ w : World σ, E w { w with issued := next w.issued }) (hk : ∀ id, Takes E s (k id)) :
    Takes E s (match given with
      | some id => pure id >>= k
      | none => Action.issue kind count next >>= k) := by
  cases given with
  | some id => exact bind' (pure' id) hk
  | none => exact bind' (issue' hissue) hk

end Store

/-! ## Calls of the store that leave executions alone -/

/-- Executions, funnels and attempts are what they were. -/
structure World.Retains (w w' : World σ) : Prop where
  executions_eq : w'.database.executions = w.database.executions
  funnels_eq : w'.database.funnels = w.database.funnels
  attempts_eq : w'.attempts = w.attempts

instance : Lenient (World.Retains (σ := σ)) where
  of_same h h' := ⟨congrArg _ h, congrArg _ h, h'⟩

instance : IsTrans (World σ) World.Retains where
  trans _ _ _ h h' :=
    ⟨h'.executions_eq.trans h.executions_eq, h'.funnels_eq.trans h.funnels_eq,
      h'.attempts_eq.trans h.attempts_eq⟩

theorem World.Retains.spares (w w' : World σ) (h : w.Retains w') : w.Spares w' :=
  ⟨h.executions_eq, h.attempts_eq, fun hnodup => h.funnels_eq ▸ hnodup⟩

theorem World.Retains.modify {f : Database → Database}
    (h : ∀ db, (f db).executions = db.executions ∧ (f db).funnels = db.funnels) :
    Takes World.Retains s (modifyDatabase f : Action σ Unit) :=
  modify' fun w => ⟨(h w.database).1, (h w.database).2, rfl⟩

namespace Store

theorem saveFunnel_takes [Lenient E] [IsTrans (World σ) E]
    (hput : ∀ (w : World σ) row, E w { w with
      database := { w.database with funnels := putRow (·.id) row w.database.funnels } })
    (draft : Draft Funnel) : Takes E s (saveFunnel draft) := by
  refine guarded' (newId_takes (fun _ => Lenient.of_same rfl rfl) fun id => ?_)
  refine bind' (funnelRow?_still _).ofStill fun held => bind' databaseClock' fun now => ?_
  refine bind' (ofExcept' _) fun row => ?_
  cases row with
  | some row =>
    exact bind' (modify' fun w => hput w row) fun _ => bind' (note' _) fun _ => pure' _
  | none => exact bind' (note' _) fun _ => pure' _

theorem saveFunnel_spares (draft : Draft Funnel) : Takes World.Spares s (saveFunnel draft) :=
  saveFunnel_takes (fun _ _ => ⟨rfl, rfl, putRow_nodup⟩) draft

theorem deleteFunnel_takes [Tolerant E] [IsTrans (World σ) E]
    (hdrop : ∀ (w : World σ) id, E w { w with
      database := { w.database with funnels := w.database.funnels.filter fun r => r.id != id } })
    (id : String) : Takes E s (deleteFunnel id) := by
  refine guarded' (bind' (funnelRow?_still id).ofStill fun row => ?_)
  cases row with
  | some row => exact bind' (modify' fun w => hdrop w id) fun _ => bind' (note' _) fun _ => pure' _
  | none => exact pure' _

theorem deleteFunnel_spares (id : String) : Takes World.Spares s (deleteFunnel id) :=
  deleteFunnel_takes (fun _ _ =>
    ⟨rfl, rfl, fun hnodup => hnodup.sublist (List.filter_sublist.map _)⟩) id

theorem saveTemplate_retains (draft : Draft Template) :
    Takes World.Retains s (saveTemplate draft) := by
  refine guarded' (newId_takes (fun _ => Lenient.of_same rfl rfl) fun id => ?_)
  refine bind' (templateRow?_still _).ofStill fun held => bind' databaseClock' fun now => ?_
  refine bind' (ofExcept' _) fun row => ?_
  exact bind' (.modify fun _ => ⟨rfl, rfl⟩) fun _ => bind' (note' _) fun _ => pure' _

theorem subscribe_retains (form : SubscriptionForm) : Takes World.Retains s (subscribe form) := by
  refine guarded' (bind' (ofExcept' _) fun subscription => ?_)
  refine bind' (leadRowByEmail?_still _).ofStill fun held => bind' databaseClock' fun now => ?_
  cases held with
  | none =>
    refine bind' (issue' fun _ => Lenient.of_same rfl rfl) fun id => bind' (note' _) fun _ => ?_
    refine bind' (ofExcept' _) fun row => bind' database' fun db => ?_
    have hadd : Takes World.Retains s (do
        modifyDatabase fun db => { db with leads := db.leads ++ [row] }
        ofExcept row.load) :=
      bind' (.modify fun _ => ⟨rfl, rfl⟩) fun _ => ofExcept' _
    dsimp only
    split
    · exact bind' (fail' _) fun _ => hadd
    · exact hadd
  | some row =>
    refine bind' (note' _) fun _ => bind' (ofExcept' _) fun row => ?_
    exact bind' (.modify fun _ => ⟨rfl, rfl⟩) fun _ => ofExcept' _

theorem updateLead_retains (id : String) (fields : Json.Fields) :
    Takes World.Retains s (updateLead id fields) := by
  refine guarded' ?_
  dsimp only
  split
  · exact fun w => bindRun (fail' _) fun _ _ hrun => by cases hrun
  · refine bind' (leadRow?_still id).ofStill fun row => ?_
    cases row with
    | none => exact pure' _
    | some row =>
      refine bind' databaseClock' fun now => ?_
      refine bind' (ofExcept' _) fun tags => bind' (ofExcept' _) fun _ => ?_
      exact bind' (.modify fun _ => ⟨rfl, rfl⟩) fun _ => map' (ofExcept' _)

theorem updateStage_retains (id : String) (stage : Json) :
    Takes World.Retains s (updateStage id stage) :=
  guarded' (bind' (updateLead_retains id _) fun _ => pure' _)

theorem addTag_retains (id : String) (tag : Json) : Takes World.Retains s (addTag id tag) := by
  refine guarded' (bind' (leadRow?_still id).ofStill fun row => ?_)
  cases row with
  | none => exact bind' (note' _) fun _ => pure' _
  | some row =>
    dsimp only
    split
    · exact pure' _
    · refine bind' databaseClock' fun now => bind' (ofExcept' _) fun _ => ?_
      exact bind' (.modify fun _ => ⟨rfl, rfl⟩) fun _ => bind' (note' _) fun _ => pure' _

theorem deleteLead_retains (id : String) : Takes World.Retains s (deleteLead id) := by
  refine guarded' (bind' (leadRow?_still id).ofStill fun row => ?_)
  cases row with
  | some row =>
    exact bind' (.modify fun _ => ⟨rfl, rfl⟩) fun _ => bind' (note' _) fun _ => pure' _
  | none => exact pure' _

end Store

theorem Store.saveTemplate_own {id : String} {make : String → Template} {t : Template}
    {w w₁ : World σ} (h : (saveTemplate ⟨some id, make⟩).run s w = (.ok (.own t), w₁)) :
    t = make id ∧ w₁.issued = w.issued := by
  obtain ⟨o, h⟩ := run_guarded_eq_own h
  obtain ⟨_, w₂, hid, h⟩ := run_bind_eq_ok h
  cases hid
  obtain ⟨held, w₃, hheld, h⟩ := run_bind_eq_ok h
  have hissued : w₃.issued = w.issued :=
    (congrArg (fun r => r.2.issued) hheld).symm.trans (templateRow?_still (s := s) _ _).issued_eq
  obtain ⟨now, w₄, hnow, h⟩ := run_bind_eq_ok h
  cases hnow
  obtain ⟨row, -, h⟩ := run_ofExcept_bind_eq_ok h
  cases h
  exact ⟨rfl, hissued⟩

/-- The funnel that is saved or deleted, if the call does this, or else it leaves funnels alone. -/
theorem Upkeep.retains_or (c : Upkeep) : (∃ draft, c = .saveFunnel draft) ∨
    (∃ id, c = .deleteFunnel id) ∨ Takes World.Retains s c.act := by
  cases c with
  | saveFunnel draft => exact .inl ⟨draft, rfl⟩
  | deleteFunnel id => exact .inr (.inl ⟨id, rfl⟩)
  | saveTemplate draft => exact .inr (.inr (map' (Store.saveTemplate_retains draft)))
  | subscribe form => exact .inr (.inr (map' (Store.subscribe_retains form)))
  | updateLead id fields => exact .inr (.inr (map' (Store.updateLead_retains id fields)))
  | updateStage id stage => exact .inr (.inr (map' (Store.updateStage_retains id stage)))
  | addTag id tag => exact .inr (.inr (map' (Store.addTag_retains id tag)))
  | deleteLead id => exact .inr (.inr (map' (Store.deleteLead_retains id)))

theorem Upkeep.spares (c : Upkeep) : Takes World.Spares s c.act := by
  rcases c.retains_or (s := s) with ⟨draft, rfl⟩ | ⟨id, rfl⟩ | h
  · exact map' (Store.saveFunnel_spares draft)
  · exact map' (Store.deleteFunnel_spares id)
  · exact h.mono World.Retains.spares

theorem Covers.calls [Lenient E] (h : Covers T E s) : CoversCalls (fun _ => True) T E s where
  upkeep c _ := c.spares.mono h.spares
  start := h.start
  clock := h.clock
  pass := h.pass
  stock _ := Lenient.of_same rfl rfl

/-! ## Which calls are made -/

namespace Stock

/-- The draft of the stock funnel that takes the identifiers after the first `k`. -/
def draft (naming : Naming) (k : Nat) : Draft Funnel :=
  ⟨none, funnel (naming.name .stock (k + 1)) (naming.name .stock (k + 2))
    (naming.name .stock (k + 3)) (naming.name .stock (k + 4))⟩

/-- The calls that keep the stock funnel are of the kind. -/
structure Gives (P : Upkeep → Prop) : Prop where
  template : ∀ (naming : Naming) k,
    P (.saveTemplate ⟨some (naming.name .stock k), Stock.template⟩)
  funnel : ∀ naming k, P (.saveFunnel (draft naming k))

end Stock

/-- The calls that a command makes are of the kind. -/
def Api.Command.Gives (P : Upkeep → Prop) : Api.Command → Prop
  | saveFunnel draft => P (.saveFunnel draft)
  | createStockFunnel => Stock.Gives P
  | deleteFunnel id => P (.deleteFunnel id)
  | saveTemplate draft => P (.saveTemplate draft)
  | subscribe r => P (.subscribe r.form)
  | addTag id r => P (.addTag id (.str r.tag))
  | _ => True

/-- The calls that an operation makes are of the kind; a request makes those of a command that its
query and body have been checked for. -/
def Operation.Gives (P : Upkeep → Prop) : Operation → Prop
  | saveFunnel draft => P (.saveFunnel draft)
  | deleteFunnel id => P (.deleteFunnel id)
  | saveTemplate draft => P (.saveTemplate draft)
  | subscribeLead form => P (.subscribe form)
  | tagLead id tag => P (.addTag id tag)
  | deleteLead id => P (.deleteLead id)
  | createStockFunnel => Stock.Gives P
  | request _ _ _ => ∀ (e : Api.Endpoint) id query body c,
      e.command id query body = .good c → c.Gives P
  | _ => True

theorem Api.Command.gives_any (c : Api.Command) : c.Gives fun _ => True := by
  cases c <;> first | trivial | exact ⟨fun _ _ => trivial, fun _ _ => trivial⟩

theorem Operation.gives_any (op : Operation) : op.Gives fun _ => True := by
  cases op with
  | createStockFunnel => exact ⟨fun _ _ => trivial, fun _ _ => trivial⟩
  | request env worker r => exact fun _ _ _ _ c _ => c.gives_any
  | _ => trivial

/-- What follows from two kinds that the calls of a command are of. -/
theorem Api.Command.Gives.imp₂ {P Q R : Upkeep → Prop} {c : Api.Command} (h : c.Gives P)
    (h' : c.Gives Q) (hR : ∀ c, P c → Q c → R c) : c.Gives R := by
  cases c with
  | createStockFunnel =>
    exact ⟨fun naming k => hR _ (h.template naming k) (h'.template naming k),
      fun naming k => hR _ (h.funnel naming k) (h'.funnel naming k)⟩
  | saveFunnel | deleteFunnel | saveTemplate | subscribe | addTag => exact hR _ h h'
  | _ => trivial

theorem Operation.Gives.imp₂ {P Q R : Upkeep → Prop} {op : Operation} (h : op.Gives P)
    (h' : op.Gives Q) (hR : ∀ c, P c → Q c → R c) : op.Gives R := by
  cases op with
  | createStockFunnel =>
    exact ⟨fun naming k => hR _ (h.template naming k) (h'.template naming k),
      fun naming k => hR _ (h.funnel naming k) (h'.funnel naming k)⟩
  | saveFunnel | deleteFunnel | saveTemplate | subscribeLead | tagLead | deleteLead =>
    exact hR _ h h'
  | request env worker r =>
    exact fun e id query body c hc => (h e id query body c hc).imp₂ (h' e id query body c hc) hR
  | _ => trivial

/-- If the operation names the time of a pass, it is of the kind. -/
def Operation.PassesAt (T : Calendar.Stamp → Prop) (op : Operation) : Prop :=
  ∀ now, op = .processExecutions now → T now

/-! ## The engine -/

variable [Tolerant E] [IsTrans (World σ) E]

/-- A trigger that is to drive what is due does so after what it does by itself. -/
theorem triggerFunnels_true (trigger : String) (lead : Reply String) (context : Json.Fields) :
    (triggerFunnels trigger lead context true : Action σ _) = do
      let created ← triggerFunnels trigger lead context false
      if created.isEmpty then return created
      else
        let _ ← processNow
        return created := by
  unfold triggerFunnels
  simp only [Action.bind_assoc]
  congr 1
  funext reply
  congr 1
  funext all
  split
  · rfl
  · simp only [Action.bind_assoc]
    congr 1
    funext running
    congr 1
    funext now
    congr 1
    funext started
    cases started.filterMap id <;> rfl

/-- A request is answered at once, or a command that its query and body have been checked for is
performed. -/
theorem Api.respond_cases (env : Environment) (worker : Worker.State) (request : Api.Request) :
    (∃ r, (Api.respond env worker request : Action σ _) = pure r) ∨
      ∃ (e : Api.Endpoint) (id : String) (query : Api.Query) (body : Option Json)
        (c : Api.Command), e.command id query body = .good c ∧
          (Api.respond env worker request : Action σ _) = c.answer worker := by
  unfold Api.respond
  split
  · unfold Api.Route.respond
    split
    · exact .inl ⟨_, rfl⟩
    · split
      · exact .inl ⟨_, rfl⟩
      · exact .inl ⟨_, rfl⟩
      · split
        · exact .inl ⟨_, rfl⟩
        · rename_i hcommand
          exact .inr ⟨_, _, _, _, _, hcommand, rfl⟩
  · exact .inl ⟨_, rfl⟩

namespace CoversCalls

variable (h : CoversCalls P T E s)
include h

omit [Tolerant E] [IsTrans (World σ) E] in
theorem processNow : Takes E s processNow := by
  intro w
  unfold Nurture.processNow
  rw [Action.run_bind_ok (Action.run_clock s w)]
  exact h.pass s.clock h.clock w

theorem triggerFunnels (trigger : String) (lead : Reply String) (context : Json.Fields)
    (process : Bool) : Takes E s (triggerFunnels trigger lead context process) := by
  cases process with
  | false => exact h.start trigger lead context
  | true =>
    rw [triggerFunnels_true]
    refine bind' (h.start trigger lead context) fun created => ?_
    split
    · exact pure' created
    · exact bind' h.processNow fun _ => pure' created

omit [Tolerant E] [IsTrans (World σ) E] in
theorem made {α : Type} {x : Action σ α} {c : Upkeep} (hc : P c)
    (heq : c.act = (fun _ => ()) <$> x) : Takes E s x := by
  intro w
  have hact := h.upkeep c hc w
  rw [heq, run_map] at hact
  exact hact

theorem broadcast (trigger : String) (context : Json.Fields) :
    Takes E s (broadcast trigger context) := by
  refine bind' (Store.listLeads_still _).ofStill fun reply => bind' (ofExcept' _) fun leads => ?_
  refine bind' (collect' fun l _ => h.triggerFunnels trigger _ context false) fun created => ?_
  refine bind' (note' _) fun _ => ?_
  dsimp only
  split
  · exact bind' h.processNow fun _ => pure' _
  · exact pure' _

theorem tagLead {id : String} {tag : Json} (hP : P (.addTag id tag)) :
    Takes E s (tagLead id tag) := by
  refine bind' (h.made hP rfl) fun added => ?_
  dsimp only
  split
  · refine bind' (Store.getLead_still id).ofStill fun lead => ?_
    split
    · exact bind' (h.triggerFunnels _ _ _ _) fun _ => pure' added
    · exact pure' added
  · exact pure' added

theorem subscribeLead {form : SubscriptionForm} (hP : P (.subscribe form)) :
    Takes E s (subscribeLead form) := by
  refine bind' (h.made hP rfl) fun lead => ?_
  refine bind' (attempt' (h.triggerFunnels _ _ _ _)) fun result => ?_
  cases result with
  | ok created => exact pure' lead
  | error cause =>
    cases lead with
    | own l => exact bind' (note' _) fun _ => pure' _
    | foreign j => exact bind' (fail' _) fun _ => pure' _

theorem createStock (hP : Stock.Gives P) : Takes E s Stock.create := by
  intro w
  refine bindRun (issue' h.stock) fun templateId w₁ hrun => ?_
  cases hrun
  refine bindRun (h.made (hP.template _ _) rfl) fun reply w₂ hsaved => ?_
  refine bindRun (issue' h.stock) fun whatsAppId w₃ hrun => ?_
  cases hrun
  refine bindRun (issue' h.stock) fun delayId w₄ hrun => ?_
  cases hrun
  refine bindRun (issue' h.stock) fun emailId w₅ hrun => ?_
  cases hrun
  refine bindRun (ofExcept' _) fun saved w₆ hrun => ?_
  rw [run_ofExcept] at hrun
  obtain ⟨hid, rfl⟩ := Prod.ext_iff.mp hrun
  obtain ⟨t, rfl⟩ : ∃ t, reply = .own t := by
    cases reply with
    | own t => exact ⟨t, rfl⟩
    | foreign j => cases hid
  cases hid
  obtain ⟨rfl, hissued⟩ := Store.saveTemplate_own hsaved
  have hdraft : (⟨none, Stock.funnel (w.issued.naming.name .stock (w.issued.stock + 1))
      (w₂.issued.naming.name .stock (w₂.issued.stock + 1))
      (w₂.issued.naming.name .stock (w₂.issued.stock + 1 + 1))
      (w₂.issued.naming.name .stock (w₂.issued.stock + 1 + 1 + 1))⟩ : Draft Funnel)
        = Stock.draft w.issued.naming w.issued.stock := by
    rw [hissued]
    rfl
  refine bindRun ?_ fun reply w₇ _ => bind' (note' _) (fun _ => pure' _) w₇
  exact h.made (hP.funnel w.issued.naming w.issued.stock) (by rw [← hdraft]; rfl)

/-! ## Requests -/

theorem performTrigger (r : Api.TriggerRequest) : Takes E s (Api.performTrigger r) := by
  refine bind' (Store.getLead_still r.leadId).ofStill fun reply => ?_
  split
  · exact pure' _
  · exact bind' (h.triggerFunnels _ _ _ _) fun created => pure' _

theorem performBroadcast (r : Api.BroadcastRequest) : Takes E s (Api.performBroadcast r) := by
  refine bind' (attempt' (h.broadcast _ _)) fun result => ?_
  cases result with
  | ok created => exact pure' _
  | error cause => exact bind' (note' _) fun _ => pure' _

theorem performSubscribe {r : Api.SubscribeRequest} (hP : P (.subscribe r.form)) :
    Takes E s (Api.performSubscribe r) := by
  refine bind' (attempt' (h.subscribeLead hP)) fun result => ?_
  cases result with
  | ok lead => exact bind' (ofExcept' _) fun j => pure' _
  | error cause =>
    dsimp only
    split
    · exact pure' _
    · exact fail' cause

theorem performAddTag {id : String} {r : Api.TagRequest} (hP : P (.addTag id (.str r.tag))) :
    Takes E s (Api.performAddTag id r) := by
  refine bind' (Store.getLead_still id).ofStill fun reply => ?_
  split
  · exact pure' _
  · exact bind' (h.tagLead hP) fun added => bind' (ofExcept' _) fun flag => pure' _

omit h in
theorem found {α : Type} (shape : Api.Shape α) (kind : String) (reply : Reply (Option α)) :
    Takes E s (shape.found kind reply) := by
  unfold Api.Shape.found
  split
  · exact bind' (ofExcept' _) fun j => pure' _
  · exact pure' _

omit h in
theorem listing {α : Type} (shape : Api.Shape α) (name : String) (reply : Reply (List α)) :
    Takes E s (shape.listing name reply) :=
  bind' (ofExcept' _) fun _ => pure' _

theorem perform (worker : Worker.State) {c : Api.Command} (hP : c.Gives P) :
    Takes E s (c.perform worker) := by
  cases c with
  | page => exact pure' _
  | health => exact pure' _
  | listFunnels =>
    refine bind' Store.listFunnels_still.ofStill fun reply => ?_
    exact bind' (listing _ _ reply) fun _ => pure' _
  | saveFunnel draft =>
    refine bind' (h.made hP rfl) fun reply => ?_
    exact bind' (ofExcept' _) fun j => pure' _
  | createStockFunnel =>
    exact bind' (h.createStock hP) fun f => bind' (ofExcept' _) fun j => pure' _
  | getFunnel id => exact bind' (Store.getFunnel_still id).ofStill fun reply => found _ _ reply
  | deleteFunnel id => exact bind' (h.made hP rfl) fun deleted => pure' _
  | listTemplates =>
    refine bind' Store.listTemplates_still.ofStill fun reply => ?_
    exact bind' (listing _ _ reply) fun _ => pure' _
  | saveTemplate draft =>
    refine bind' (h.made hP rfl) fun reply => ?_
    exact bind' (ofExcept' _) fun j => pure' _
  | listExecutions status funnelId leadId =>
    refine bind' clock' fun now => bind' (Store.listExecutions_still _ _ _).ofStill fun reply => ?_
    exact bind' (ofExcept' _) fun executions => pure' _
  | processExecutions => exact bind' h.processNow fun report => pure' _
  | getExecution id =>
    refine bind' clock' fun now => bind' (Store.getExecution_still id).ofStill fun reply => ?_
    exact found _ _ reply
  | trigger r => exact h.performTrigger r
  | broadcast r => exact h.performBroadcast r
  | listLeads status =>
    refine bind' (Store.listLeads_still status).ofStill fun reply => ?_
    exact bind' (listing _ _ reply) fun _ => pure' _
  | subscribe r => exact h.performSubscribe hP
  | getLead id => exact bind' (Store.getLead_still id).ofStill fun reply => found _ _ reply
  | addTag id r => exact h.performAddTag hP

theorem answer (worker : Worker.State) {c : Api.Command} (hP : c.Gives P) :
    Takes E s (c.answer worker) := by
  refine bind' (attempt' (h.perform worker hP)) fun result => ?_
  cases result with
  | ok response => exact pure' _
  | error cause => exact pure' _

theorem respond (env : Environment) (worker : Worker.State) {request : Api.Request}
    (hP : (Operation.request env worker request).Gives P) :
    Takes E s (Api.respond env worker request) := by
  rcases Api.respond_cases env worker request with ⟨r, hr⟩ | ⟨e, id, query, body, c, hc, hr⟩
  · exact hr ▸ pure' r
  · exact hr ▸ h.answer worker (hP e id query body c hc)

end CoversCalls

/-! ## Every operation, and every run -/

/-- What covers the calls of an operation, triggers and passes covers the operation. -/
theorem Operation.takes_of_gives (h : CoversCalls P T E s) {op : Operation} (hP : op.Gives P)
    (hT : op.PassesAt T) : Takes E s op.act := by
  have hlast : ∀ {α : Type} {x : Action σ α}, Takes E s x → Takes E s (x >>= fun _ => pure ()) :=
    fun hx => bind' hx fun _ => pure' ()
  cases op with
  | saveFunnel draft => exact hlast (h.made hP rfl)
  | deleteFunnel id => exact hlast (h.made hP rfl)
  | saveTemplate draft => exact hlast (h.made hP rfl)
  | subscribeLead form => exact hlast (h.subscribeLead hP)
  | tagLead id tag => exact hlast (h.tagLead hP)
  | deleteLead id => exact hlast (h.made hP rfl)
  | trigger name lead context process => exact hlast (h.triggerFunnels name lead context process)
  | broadcast name context => exact hlast (h.broadcast name context)
  | processExecutions now => exact hlast (h.pass now (hT now rfl))
  | processNow => exact hlast h.processNow
  | createStockFunnel => exact hlast (h.createStock hP)
  | request env worker r => exact hlast (h.respond env worker hP)

/-- What covers every turn of a run covers the run. -/
theorem World.after_takes_of_gives {turns : List (Surroundings σ × Operation)}
    (h : ∀ turn ∈ turns, CoversCalls P T E turn.1 ∧ turn.2.Gives P ∧ turn.2.PassesAt T)
    (w : World σ) : E w (w.after turns) := by
  induction turns generalizing w with
  | nil => exact Tolerant.of_still rfl rfl rfl
  | cons turn turns ih =>
    obtain ⟨hcovers, hgives, hpasses⟩ := h turn List.mem_cons_self
    have hfirst : E w (turn.2.act.run turn.1 w).2 :=
      Operation.takes_of_gives hcovers hgives hpasses w
    exact IsTrans.trans _ _ _ hfirst (ih (fun t ht => h t (List.mem_cons_of_mem turn ht)) _)

theorem World.after_takes [Lenient E] {turns : List (Surroundings σ × Operation)}
    (h : ∀ turn ∈ turns, Covers T E turn.1 ∧ turn.2.PassesAt T) (w : World σ) :
    E w (w.after turns) :=
  World.after_takes_of_gives (P := fun _ => True)
    (fun turn hturn => ⟨(h turn hturn).1.calls, turn.2.gives_any, (h turn hturn).2⟩) w

end Nurture
