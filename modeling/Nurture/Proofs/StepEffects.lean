import Nurture.Proofs.AcceptedMessages

/-!
  What step results tell of messages

  `Step.composed` is the message that a node has for a lead, if it has one: its recipient is the
  lead's, its text is filled in, and a WhatsApp node has none before its window is open. Running
  the node attempts this message and no other, once at most (`Step.execute_hands`), and the result
  says what came of it (`StepResult.told`). Both together are `Step.execute_truthful`. Nothing keeps
  the message from being attempted but what comes in the way of reading a template.
-/

namespace Nurture

open Nurture.Action

variable {σ : Type} {s : Surroundings σ} {w : World σ}

namespace Step

/-! ## The message of a node -/

/-- A template filled in for the execution and its lead. -/
def filledIn (ctx : StepContext) (policy : Policy) (template : String) : String :=
  substitute policy.defaultName template ctx.execution.context ctx.lead

/-- The template that is stored under an identifier; it cannot be asked for by one that cannot be
encoded. -/
def stored? (templates : List TemplateRow) (id : String) : Option Template :=
  if Text.isWhole id = true then
    (templates.find? fun r => r.template.id == id).map (·.template)
  else none

/-- What the text of a WhatsApp node is made of: the template that it names, and its own content
only if it names none. -/
def source? (templates : List TemplateRow) (data : WhatsAppData) : Option String :=
  match filled data.templateId with
  | some id => (stored? templates id).map (·.content)
  | none => filled data.content

/-- The message that a node has for the lead. -/
def composed (ctx : StepContext) (policy : Policy) (templates : List TemplateRow) (n : Node) :
    Option Message :=
  match n.task with
  | .email data _ =>
    match filled data.subject, filled data.content with
    | some subject, some content =>
      some (.email ctx.lead.email (filledIn ctx policy subject) (filledIn ctx policy content))
    | _, _ => none
  | .whatsApp data _ =>
    match windowToAwait ctx data policy with
    | .ok none =>
      if ctx.lead.phone = "" then none
      else (source? templates data).map fun content =>
        .whatsApp ctx.lead.phone plainTextOnly [] (filledIn ctx policy content)
    | _ => none
  | .delay _ _ => none
  | .condition _ _ _ => none

end Step

/-! ## What results tell -/

/-- Of each message that a result tells of, whether it was refused. -/
def StepResult.told : Except Failure StepResult → List Bool
  | .ok (.advanced _ true) => [false]
  | .ok (.failed _ _) => [true]
  | .ok (.advanced _ false) => []
  | .ok (.suspended _ _) => []
  | .error _ => []

/-- The result of running a node tells what came of the messages attempted. -/
structure StepResult.TellsOf (result : Except Failure StepResult) (tried : List Attempt) :
    Prop where
  length_le : tried.length ≤ 1
  sent : (∃ next, result = .ok (.advanced next true)) ↔ ∃ m, tried = [⟨m, false⟩]
  failed : (∃ error retryable, result = .ok (.failed error retryable)) ↔ ∃ m, tried = [⟨m, true⟩]
  /-- An execution that is parked, a node that is passed over and one that breaks come with no
  message. -/
  silent : (∃ node resumeAt, result = .ok (.suspended node resumeAt)) ∨
    (∃ next, result = .ok (.advanced next false)) ∨ (∃ cause, result = .error cause) ↔ tried = []

theorem StepResult.tellsOf_of_told {result : Except Failure StepResult} {tried : List Attempt}
    (h : tried.map (·.refused) = told result) : TellsOf result tried := by
  match result, tried with
  | .ok (.advanced next true), [⟨m, false⟩] => constructor <;> simp
  | .ok (.failed error retryable), [⟨m, true⟩] => constructor <;> simp
  | .ok (.advanced next false), [] => constructor <;> simp
  | .ok (.suspended node resumeAt), [] => constructor <;> simp
  | .error cause, [] => constructor <;> simp

namespace Step

open StepResult

theorem Came.told_eq {ctx : StepContext} {policy : Policy} {n : Node}
    {r : Except Failure StepResult} {tried : List Attempt} (h : Came ctx policy n r tried) :
    tried.map (·.refused) = told r := by
  cases h <;> rfl

/-! ## What handlers attempt -/

/-- The message was attempted, and no other; nothing was attempted if there is none. -/
def Hands (w w' : World σ) (m : Option Message) : Prop :=
  ∃ tried, w'.attempts = w.attempts ++ tried ∧ tried.map (·.message) = m.toList

theorem Hands.none_of {w w' : World σ} (h : w'.attempts = w.attempts) : Hands w w' none :=
  ⟨[], by rw [h, List.append_nil], rfl⟩

theorem Hands.of_attempts {w w₁ w' : World σ} {m : Option Message} (h : Hands w₁ w' m)
    (hattempts : w₁.attempts = w.attempts) : Hands w w' m := by
  obtain ⟨tried, htried, hm⟩ := h
  exact ⟨tried, by rw [htried, hattempts], hm⟩

theorem Hands.bind {x : Action σ (Option String)} {f : Option String → Action σ StepResult}
    {text : Except Failure (Option String)} {w₁ : World σ} {g : String → Message}
    (hrun : x.run s w = (text, w₁)) (hattempts : w₁.attempts = w.attempts)
    (hnone : ∀ w, Hands w ((f none).run s w).2 none)
    (hsome : ∀ t w, Hands w ((f (some t)).run s w).2 (some (g t))) :
    Hands w ((x >>= f).run s w).2 (text.toOption.join.map g) := by
  rcases text with e | _ | t
  · rw [run_bind_error hrun]
    exact .none_of hattempts
  · rw [run_bind_ok hrun]
    exact (hnone w₁).of_attempts hattempts
  · rw [run_bind_ok hrun]
    exact (hsome t w₁).of_attempts hattempts

variable (ctx : StepContext) (n : Node)

theorem delay_quiet (data : DelayData) (next : Option String) :
    Quiet s (delay ctx data next : Action σ _) := by
  unfold delay
  refine Quiet.bind' Quiet.policy' fun policy => ?_
  cases reference next with
  | none => exact Quiet.pure' _
  | some node =>
    exact Quiet.bind' (Quiet.ofExcept' _) fun span =>
      Quiet.bind' (Quiet.ofExcept' _) fun resumeAt => Quiet.pure' _

theorem deliver_hands (m : Message) (next : Option String) (error : Failure → String)
    (event : Failure → Journal.Event) :
    Hands w ((do
      match ← Action.deliver m with
      | none => return StepResult.advanced next true
      | some cause =>
        Action.note [event cause]
        return .failed (error cause) true : Action σ StepResult).run s w).2 (some m) := by
  obtain ⟨-, tried, htried, refusal, hrefusal, rfl⟩ := Tries.deliver' (s := s) m w
  refine ⟨[⟨m, refusal.isSome⟩], ?_, rfl⟩
  rw [run_bind]
  rcases hrun : (Action.deliver m).run s w with ⟨answer, w'⟩
  rw [hrun] at htried hrefusal
  obtain rfl : answer = .ok refusal := hrefusal
  cases refusal with
  | none => exact htried
  | some cause => exact htried

theorem email_hands {data : EmailData} {next : Option String} (htask : n.task = .email data next)
    (templates : List TemplateRow) :
    Hands w ((email ctx n.id data next : Action σ _).run s w).2
      (composed ctx s.policy templates n) := by
  unfold composed email
  rw [htask]
  dsimp only
  cases filled data.subject with
  | none => exact .none_of rfl
  | some subject =>
    cases filled data.content with
    | none => exact .none_of rfl
    | some content =>
      dsimp only
      rw [run_bind_ok (run_render ctx subject), run_bind_ok (run_render ctx content)]
      exact deliver_hands _ _ _ _

/-- The template that a reply holds, if it holds one. -/
def held? : Except Failure (Reply (Option Template)) → Option Template
  | .ok reply => (reply.record? "content").toOption.join
  | .error _ => none

theorem run_getTemplate (id : String) :
    ∃ reply w', (Store.getTemplate id).run s w = (reply, w') ∧ w'.attempts = w.attempts ∧
      (held? reply = stored? w.database.templates id ∨
        (s.interrupt .getTemplate w.outside).1 ≠ none ∧ held? reply = none) := by
  rcases hi : s.interrupt .getTemplate w.outside with ⟨_ | reason | j, o⟩
  · have hrun : (Store.getTemplate id).run s w = ((Column.whole id).map fun _ => .own
        ((w.database.templates.find? fun r => r.template.id == id).map (·.template)),
        { w with outside := o }) := by
      rw [Store.getTemplate, guarded, relayed_of_none (congrArg Prod.fst hi), hi, run_map, run_bind,
        Store.run_templateRow?]
      cases Column.whole id <;> rfl
    refine ⟨_, _, hrun, rfl, .inl ?_⟩
    unfold stored?
    split
    · rename_i hwhole
      rw [Column.whole_eq_ok hwhole]
      rfl
    · rename_i hhalf
      cases hwhole : Column.whole id with
      | error e => rfl
      | ok t => exact absurd (Column.whole_eq_ok_iff.mp hwhole).1 hhalf
  · exact ⟨_, _, relayed_of_breaks hi, rfl, .inr ⟨Option.some_ne_none _, rfl⟩⟩
  · refine ⟨_, _, relayed_of_answers hi, rfl, .inr ⟨Option.some_ne_none _, ?_⟩⟩
    cases j <;> rfl

theorem run_whatsAppText_of_template (nodeId : String) {id : String} {data : WhatsAppData}
    {reply : Except Failure (Reply (Option Template))} {w' : World σ}
    (hid : filled data.templateId = some id) (hrun : (Store.getTemplate id).run s w = (reply, w')) :
    ∃ text w'', (whatsAppText ctx nodeId data).run s w = (text, w'') ∧
      w''.attempts = w'.attempts ∧
      text.toOption.join = (held? reply).map fun t => filledIn ctx s.policy t.content := by
  unfold whatsAppText held?
  rw [hid]
  dsimp only
  cases reply with
  | error e => exact ⟨_, _, run_bind_error hrun, rfl, rfl⟩
  | ok reply =>
    rw [run_bind_ok hrun, run_bind, run_ofExcept]
    dsimp only
    rcases reply.record? "content" with e | _ | t
    · exact ⟨_, _, rfl, rfl, rfl⟩
    · exact ⟨_, _, rfl, rfl, rfl⟩
    · exact ⟨_, _, rfl, rfl, rfl⟩

theorem run_whatsAppText_cases (nodeId : String) (data : WhatsAppData) :
    ∃ text w', (whatsAppText ctx nodeId data).run s w = (text, w') ∧ w'.attempts = w.attempts ∧
      (text.toOption.join = (source? w.database.templates data).map (filledIn ctx s.policy) ∨
        (s.interrupt .getTemplate w.outside).1 ≠ none ∧ text.toOption.join = none) := by
  cases hid : filled data.templateId with
  | some id =>
    obtain ⟨reply, w₁, hread, hattempts, hheld⟩ := run_getTemplate (s := s) (w := w) id
    obtain ⟨text, w₂, hrun, hattempts', htext⟩ :=
      run_whatsAppText_of_template ctx nodeId hid hread
    refine ⟨text, w₂, hrun, hattempts'.trans hattempts, ?_⟩
    unfold source?
    rw [hid, htext]
    rcases hheld with hstored | ⟨hi, hnone⟩
    · rw [hstored, Option.map_map]
      exact .inl rfl
    · rw [hnone]
      exact .inr ⟨hi, rfl⟩
  | none =>
    unfold whatsAppText source?
    rw [hid]
    cases filled data.content with
    | none => exact ⟨_, _, rfl, rfl, .inl rfl⟩
    | some content => exact ⟨_, _, rfl, rfl, .inl rfl⟩

theorem whatsApp_hands {data : WhatsAppData} {next : Option String}
    (htask : n.task = .whatsApp data next) :
    Hands w ((whatsApp ctx n.id data next : Action σ _).run s w).2
        (composed ctx s.policy w.database.templates n) ∨
      (s.interrupt .getTemplate w.outside).1 ≠ none ∧
        Hands w ((whatsApp ctx n.id data next : Action σ _).run s w).2 none := by
  unfold composed whatsApp
  rw [htask, run_bind_ok (run_policy s w)]
  dsimp only
  cases windowToAwait ctx data s.policy with
  | error e => exact .inl (.none_of rfl)
  | ok window =>
    rw [run_bind_ok (run_ofExcept _ s w)]
    cases window with
    | some window => exact .inl (.none_of rfl)
    | none =>
      dsimp only
      by_cases hphone : ctx.lead.phone = ""
      · rw [if_pos hphone, if_pos hphone]
        exact .inl (.none_of rfl)
      · rw [if_neg hphone, if_neg hphone]
        obtain ⟨text, w₁, hrun, hattempts, htext⟩ :=
          run_whatsAppText_cases (s := s) (w := w) ctx n.id data
        rcases htext with htext | ⟨hi, htext⟩
        · have hm : (source? w.database.templates data).map (fun content =>
              Message.whatsApp ctx.lead.phone plainTextOnly [] (filledIn ctx s.policy content))
                = text.toOption.join.map (.whatsApp ctx.lead.phone plainTextOnly []) := by
            rw [htext, Option.map_map]
            rfl
          rw [hm]
          exact .inl (.bind hrun hattempts (fun _ => .none_of rfl) fun _ _ => deliver_hands _ _ _ _)
        · have hm : none
              = text.toOption.join.map (Message.whatsApp ctx.lead.phone plainTextOnly []) := by
            rw [htext]
            rfl
          rw [hm]
          exact .inr ⟨hi, .bind hrun hattempts (fun _ => .none_of rfl) fun _ _ =>
            deliver_hands _ _ _ _⟩

/-- Running a node attempts the message that it has for the lead, unless something comes in the way
of reading a template; then nothing is attempted. -/
theorem execute_hands :
    Hands w ((execute ctx n).run s w).2 (composed ctx s.policy w.database.templates n) ∨
      (s.interrupt .getTemplate w.outside).1 ≠ none ∧
        Hands w ((execute ctx n).run s w).2 none := by
  unfold execute
  cases htask : n.task with
  | email data next => exact .inl (email_hands ctx n htask _)
  | whatsApp data next => exact whatsApp_hands ctx n htask
  | delay data next =>
    unfold composed
    rw [htask]
    exact .inl (.none_of ((delay_quiet ctx data next).attempts_eq w))
  | condition data ifTrue ifFalse =>
    unfold composed
    rw [htask]
    exact .inl (.none_of rfl)

/-- A windowed node that was passed or has failed found its window open. -/
theorem window_of_passed {data : WhatsAppData} {next : Option String} {sendTime : String}
    (htask : n.task = .whatsApp data next) (htime : filled data.sendTime = some sendTime)
    {result : StepResult} (h : ((execute ctx n).run s w).1 = .ok result)
    (hpassed : ∀ node resumeAt, result ≠ .suspended node resumeAt) :
    SendWindow.isOpen sendTime ctx.execution.nextRunAt ctx.now s.policy.zone s.policy.tolerance
      s.policy.grace = .ok true := by
  refine isOpen_of_windowToAwait htime ?_
  unfold execute at h
  rw [htask] at h
  dsimp only at h
  unfold whatsApp at h
  rw [run_bind_ok (run_policy s w)] at h
  cases hwindow : windowToAwait ctx data s.policy with
  | error e =>
    rw [hwindow] at h
    cases h
  | ok window =>
    cases window with
    | none => rfl
    | some window =>
      rw [hwindow] at h
      exact absurd (Except.ok.inj h).symm (hpassed _ _)

/-- What running a node comes to, and the messages attempted meanwhile. -/
structure Truthful (ctx : StepContext) (n : Node) (s : Surroundings σ) (w : World σ)
    (tried : List Attempt) : Prop where
  attempts_eq : ((execute ctx n).run s w).2.attempts = w.attempts ++ tried
  database_eq : ((execute ctx n).run s w).2.database = w.database
  tells : TellsOf ((execute ctx n).run s w).1 tried
  /-- Nothing else is attempted than the message that the node has for the lead. -/
  composes : ∀ a ∈ tried, composed ctx s.policy w.database.templates n = some a.message
  /-- This is attempted, unless something comes in the way of reading a template. -/
  complete : (s.interrupt .getTemplate w.outside).1 = none →
    tried.map (·.message) = (composed ctx s.policy w.database.templates n).toList
  /-- A node with a send time is neither passed nor does it fail before its window is open. -/
  window : ∀ data next sendTime, n.task = .whatsApp data next →
    filled data.sendTime = some sendTime →
    ∀ result, ((execute ctx n).run s w).1 = .ok result →
      (∀ node resumeAt, result ≠ .suspended node resumeAt) →
      SendWindow.isOpen sendTime ctx.execution.nextRunAt ctx.now s.policy.zone s.policy.tolerance
        s.policy.grace = .ok true

/-- Whatever the node, what it is run for, what comes in its way and what becomes of messages: the
result of running it tells the truth about the messages attempted. A node of no particular kind
breaks, without a message. -/
theorem execute_truthful (s : Surroundings σ) (w : World σ) :
    (∃ tried, Truthful ctx n s w tried) ∧
    ∀ frame, ((executeFrame frame).run s w).2 = w ∧
      TellsOf ((executeFrame frame).run s w).1 [] := by
  obtain ⟨hdb, tried, htried, hcame⟩ := execute_came (s := s) ctx n w
  have hhands : ∀ m, Hands w ((execute ctx n).run s w).2 m → tried.map (·.message) = m.toList := by
    rintro m ⟨tried', htried', hm⟩
    obtain rfl := List.append_cancel_left (htried.symm.trans htried')
    exact hm
  refine ⟨⟨tried, htried, hdb, tellsOf_of_told hcame.told_eq, ?composes, ?complete, ?window⟩,
    fun frame => ⟨rfl, tellsOf_of_told rfl⟩⟩
  case composes =>
    intro a ha
    have hmem : a.message ∈ tried.map (·.message) := List.mem_map_of_mem ha
    rcases execute_hands (s := s) (w := w) ctx n with h | ⟨-, h⟩
    · rw [hhands _ h] at hmem
      exact Option.mem_toList.mp hmem
    · rw [hhands _ h] at hmem
      cases hmem
  case complete =>
    intro hi
    rcases execute_hands (s := s) (w := w) ctx n with h | ⟨hne, -⟩
    · exact hhands _ h
    · exact absurd hi hne
  case window =>
    intro data next sendTime htask htime result h hpassed
    exact window_of_passed ctx n htask htime h hpassed

/-- The content of a node does not take the place of a template that is gone. -/
example : source? [] { WhatsAppData.blank with
    templateId := some "welcome", content := some "Hello" } = none := by
  decide

end Step

end Nurture
