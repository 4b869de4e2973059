import Nurture.Engine.Step
import Nurture.Proofs.StoreReads

/-!
  The parts of steps

  Handlers of nodes are put together from few operations. A property of actions that these keep
  (`Step.Closed`) holds of every text that is filled and, if it holds of handing a message over, of
  every handler (`Step.Closed.perform`).
-/

namespace Nurture.Step

variable {σ : Type} {P : (α : Type) → Action σ α → Prop}

/-- The property is kept by the operations that steps are put together from, apart from handing
messages over. -/
structure Closed (P : (α : Type) → Action σ α → Prop) : Prop where
  pure' : ∀ {α : Type} (a : α), P α (pure a)
  bind' : ∀ {α β : Type} {x : Action σ α} {f : α → Action σ β},
    P α x → (∀ a, P β (f a)) → P β (x >>= f)
  ofExcept' : ∀ {α : Type} (r : Except Failure α), P α (Action.ofExcept r)
  policy' : P Policy Action.policy
  note' : ∀ events, P Unit (Action.note events)
  guarded' : ∀ {α : Type} {c : Call} {body : Action σ α}, P α body → P _ (Action.guarded c body)
  templateRow? : ∀ id, P _ (Store.templateRow? id)

namespace Closed

variable (h : Closed P) (ctx : StepContext)
include h

theorem map' {α β : Type} {f : α → β} {x : Action σ α} (hx : P α x) : P β (f <$> x) :=
  h.bind' hx fun a => h.pure' (f a)

theorem render (template : String) : P String (render ctx template) :=
  h.bind' h.policy' fun _ => h.pure' _

theorem whatsAppText (nodeId : String) (data : WhatsAppData) :
    P _ (whatsAppText ctx nodeId data) := by
  unfold Step.whatsAppText
  cases filled data.templateId with
  | some id =>
    have htemplate : P _ (Store.getTemplate id) :=
      h.guarded' (h.bind' (h.templateRow? id) fun _ => h.pure' _)
    refine h.bind' htemplate fun reply => h.bind' (h.ofExcept' _) fun template => ?_
    cases template with
    | none => exact h.bind' (h.note' _) fun _ => h.pure' _
    | some template => exact h.map' (h.render ctx template.content)
  | none =>
    cases filled data.content with
    | none => exact h.pure' _
    | some content => exact h.map' (h.render ctx content)

theorem delay (data : DelayData) (next : Option String) : P _ (delay ctx data next) := by
  refine h.bind' h.policy' fun policy => ?_
  cases reference next with
  | none => exact h.pure' _
  | some id => exact h.bind' (h.ofExcept' _) fun span => h.bind' (h.ofExcept' _) fun _ => h.pure' _

variable (hd : ∀ m, P _ (Action.deliver m))
include hd

theorem handOver (m : Message) {onDelivered : StepResult} {onRefused : Failure → StepResult}
    {event : Failure → Journal.Event} :
    P StepResult (do
      match ← Action.deliver m with
      | none => return onDelivered
      | some cause =>
        Action.note [event cause]
        return onRefused cause) := by
  refine h.bind' (hd m) fun refusal => ?_
  cases refusal with
  | none => exact h.pure' _
  | some cause => exact h.bind' (h.note' _) fun _ => h.pure' _

theorem email (nodeId : String) (data : EmailData) (next : Option String) :
    P _ (email ctx nodeId data next) := by
  unfold Step.email
  split
  · refine h.bind' (h.render ctx _) fun subject => h.bind' (h.render ctx _) fun body => ?_
    exact h.handOver hd _
  · exact h.bind' (h.note' _) fun _ => h.pure' _

theorem whatsApp (nodeId : String) (data : WhatsAppData) (next : Option String) :
    P _ (whatsApp ctx nodeId data next) := by
  refine h.bind' h.policy' fun policy => h.bind' (h.ofExcept' _) fun window => ?_
  cases window with
  | some window => exact h.bind' (h.note' _) fun _ => h.pure' _
  | none =>
    dsimp only
    split
    · exact h.bind' (h.note' _) fun _ => h.pure' _
    · refine h.bind' (h.whatsAppText ctx nodeId data) fun text => ?_
      cases text with
      | none => exact h.pure' _
      | some text => exact h.handOver hd _

theorem perform (n : Node) : P _ (perform ctx n) := by
  refine h.bind' (h.guarded' ?_) fun reply => h.ofExcept' _
  unfold Step.execute
  cases n.task with
  | email data next => exact h.email ctx hd n.id data next
  | whatsApp data next => exact h.whatsApp ctx hd n.id data next
  | delay data next => exact h.delay ctx data next
  | condition data ifTrue ifFalse => exact h.pure' _

end Closed

end Nurture.Step

namespace Nurture

open Nurture.Action

variable {σ : Type} {s : Surroundings σ}

/-- A relation that covers what changes nothing, and can be chained, is kept. -/
theorem Step.Closed.takes {E : World σ → World σ → Prop} [Tolerant E] [IsTrans (World σ) E] :
    Step.Closed fun _ x => Takes E s x where
  pure' := Takes.pure'
  bind' := Takes.bind'
  ofExcept' := Takes.ofExcept'
  policy' := Takes.policy'
  note' := Takes.note'
  guarded' := Takes.guarded'
  templateRow? id := (Store.templateRow?_still id).ofStill

end Nurture
