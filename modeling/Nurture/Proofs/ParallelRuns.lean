import Nurture.Proofs.ExecutionTable
import Nurture.Proofs.Results
import Nurture.Proofs.StoreReads
import Nurture.Proofs.Validated

/-!
  Runs side by side

  Two worlds are `Matched` if they differ in their journals and in what their funnels are read as
  only, where a relation `R` says which differences are meant. `Action.Parallel` says of two actions
  that they keep matched worlds matched, and that their results are related unless both fail for the
  same reason. Actions are built from few operations, and there is one lemma for each of them, as
  there is for what a single run does to the world.

  An action that looks at funnels is run side by side with itself, or with what it becomes for
  another funnel. One that does not is `Blind`, and so are all calls of the store but those of the
  funnels.
-/

namespace Nurture

variable {σ α β γ δ : Type}

/-! ## Results -/

/-- Both fail for the same reason, or their results are related. -/
inductive Agree (Q : α → β → Prop) : Except Failure α → Except Failure β → Prop
  | failed (e : Failure) : Agree Q (.error e) (.error e)
  | came {a : α} {b : β} (h : Q a b) : Agree Q (.ok a) (.ok b)

namespace Agree

variable {Q : α → β → Prop} {x : Except Failure α} {y : Except Failure β}

theorem refl (x : Except Failure α) : Agree Eq x x := by
  cases x with
  | error e => exact .failed e
  | ok a => exact .came rfl

theorem eq {x y : Except Failure α} (h : Agree Eq x y) : x = y := by
  cases h with
  | failed e => rfl
  | came h => rw [h]

theorem strengthen {P : α → β → Prop} (h : Agree Q x y)
    (hP : ∀ a b, x = .ok a → y = .ok b → Q a b → P a b) : Agree P x y := by
  cases h with
  | failed e => exact .failed e
  | came h => exact .came (hP _ _ rfl rfl h)

theorem bind {P : γ → δ → Prop} {f : α → Except Failure γ} {g : β → Except Failure δ}
    (h : Agree Q x y) (hfg : ∀ a b, Q a b → Agree P (f a) (g b)) :
    Agree P (x >>= f) (y >>= g) := by
  cases h with
  | failed e => exact .failed e
  | came h => exact hfg _ _ h

/-- Lists that are gone through side by side stop at the same place, or not at all. -/
theorem mapM {P : γ → δ → Prop} {f : γ → Except Failure α} {g : δ → Except Failure β}
    {as : List γ} {bs : List δ} (h : List.Forall₂ P as bs)
    (hfg : ∀ a b, P a b → Agree Q (f a) (g b)) :
    Agree (List.Forall₂ Q) (as.mapM f) (bs.mapM g) := by
  induction h with
  | nil => exact .came .nil
  | cons hab _ ih =>
    rw [List.mapM_cons, List.mapM_cons]
    exact (hfg _ _ hab).bind fun _ _ hq => ih.bind fun _ _ hqs => .came (.cons hq hqs)

end Agree

/-- Replies of the store that are related, or the same data in their place. -/
inductive Reply.Related (Q : α → β → Prop) : Reply α → Reply β → Prop
  | own {a : α} {b : β} (h : Q a b) : Related Q (.own a) (.own b)
  | foreign (j : Json) : Related Q (.foreign j) (.foreign j)

theorem Reply.Related.refl (a : Reply α) : Reply.Related Eq a a := by
  cases a with
  | own a => exact .own rfl
  | foreign j => exact .foreign j

theorem Reply.Related.eq {a b : Reply α} (h : Reply.Related Eq a b) : a = b := by
  cases h with
  | own h => rw [h]
  | foreign j => rfl

theorem Reply.Related.records {Q : α → β → Prop} {a : Reply (List α)} {b : Reply (List β)}
    (h : Reply.Related (List.Forall₂ Q) a b) (part : String) :
    Agree (List.Forall₂ Q) (a.records part) (b.records part) := by
  cases h with
  | own h => exact .came h
  | foreign j =>
    simp only [Reply.records]
    rcases j.members? with _ | _ | ⟨m, rest⟩
    · exact .failed _
    · exact .came .nil
    · exact .failed _

/-! ## Worlds -/

/-- The rows are of the same time, and they are read as funnels that `R` relates, or cannot be
read for the same reason. -/
structure FunnelRow.Matched (R : Funnel → Funnel → Prop) (r r' : FunnelRow) : Prop where
  createdAt_eq : r'.createdAt = r.createdAt
  load : Agree R r.load r'.load

/-- The tables are the same but for the funnels. -/
structure Database.Matched (R : Funnel → Funnel → Prop) (db db' : Database) : Prop where
  funnels : List.Forall₂ (FunnelRow.Matched R) db.funnels db'.funnels
  executions : db'.executions = db.executions
  leads : db'.leads = db.leads
  templates : db'.templates = db.templates

/-- The worlds are the same but for the funnels and the journals. -/
structure World.Matched (R : Funnel → Funnel → Prop) (w w' : World σ) : Prop where
  database : w.database.Matched R w'.database
  issued : w'.issued = w.issued
  attempts : w'.attempts = w.attempts
  outside : w'.outside = w.outside

theorem World.Matched.withOutside {R : Funnel → Funnel → Prop} {w w' : World σ}
    (h : w.Matched R w') (o : σ) :
    World.Matched R { w with outside := o } { w' with outside := o } :=
  ⟨h.database, h.issued, h.attempts, rfl⟩

namespace Action

variable {R : Funnel → Funnel → Prop} {s : Surroundings σ}

/-- From matched worlds the actions come to related results, or fail for the same reason, and they
leave matched worlds. -/
def Parallel (R : Funnel → Funnel → Prop) (s : Surroundings σ) (Q : α → β → Prop)
    (x : Action σ α) (y : Action σ β) : Prop :=
  ∀ ⦃w w' : World σ⦄, w.Matched R w' →
    Agree Q (x.run s w).1 (y.run s w').1 ∧ (x.run s w).2.Matched R (y.run s w').2

/-- The action cannot tell matched worlds apart. -/
def Blind (R : Funnel → Funnel → Prop) (s : Surroundings σ) (x : Action σ α) : Prop :=
  Parallel R s Eq x x

namespace Parallel

variable {Q : α → β → Prop} {P : γ → δ → Prop}

theorem pure' {a : α} {b : β} (h : Q a b) : Parallel R s Q (pure a) (pure b) :=
  fun _ _ hw => ⟨.came h, hw⟩

theorem ofExcept' {x : Except Failure α} {y : Except Failure β} (h : Agree Q x y) :
    Parallel R s Q (ofExcept x) (ofExcept y) := by
  intro w w' hw
  rw [run_ofExcept, run_ofExcept]
  exact ⟨h, hw⟩

theorem note' (events events' : List Journal.Event) :
    Parallel R s Eq (note events) (note events') :=
  fun _ _ hw => ⟨.came rfl, hw.database, hw.issued, hw.attempts, hw.outside⟩

theorem database' : Parallel R s (Database.Matched R) database database :=
  fun _ _ hw => ⟨.came hw.database, hw⟩

theorem modify' {f g : Database → Database}
    (h : ∀ db db', db.Matched R db' → (f db).Matched R (g db')) :
    Parallel R s Eq (modifyDatabase f) (modifyDatabase g) :=
  fun _ _ hw => ⟨.came rfl, h _ _ hw.database, hw.issued, hw.attempts, hw.outside⟩

theorem bind' {x : Action σ α} {y : Action σ β} {f : α → Action σ γ} {g : β → Action σ δ}
    (hx : Parallel R s Q x y) (hf : ∀ a b, Q a b → Parallel R s P (f a) (g b)) :
    Parallel R s P (x >>= f) (y >>= g) := by
  intro w w' hw
  have h := hx hw
  rw [run_bind, run_bind]
  generalize x.run s w = p at h ⊢
  generalize y.run s w' = p' at h ⊢
  obtain ⟨r, w₁⟩ := p
  obtain ⟨r', w₁'⟩ := p'
  obtain ⟨hagree, hmatched⟩ := h
  cases hagree with
  | failed e => exact ⟨.failed e, hmatched⟩
  | came hq => exact hf _ _ hq hmatched

theorem andThen' {x y : Action σ α} {f : α → Action σ γ} {g : α → Action σ δ}
    (hx : Parallel R s Eq x y) (hf : ∀ a, Parallel R s P (f a) (g a)) :
    Parallel R s P (x >>= f) (y >>= g) := by
  refine bind' hx fun a b hab => ?_
  rw [hab]
  exact hf b

theorem map' {x : Action σ α} {y : Action σ β} {f : α → γ} {g : β → δ}
    (hx : Parallel R s Q x y) (hf : ∀ a b, Q a b → P (f a) (g b)) :
    Parallel R s P (f <$> x) (g <$> y) :=
  bind' hx fun a b hab => pure' (hf a b hab)

theorem attempt' {x : Action σ α} {y : Action σ β} (hx : Parallel R s Q x y) :
    Parallel R s (Agree Q) (attempt x) (attempt y) :=
  fun _ _ hw => ⟨.came (hx hw).1, (hx hw).2⟩

/-- The same comes in the way of both calls. -/
theorem relayed' {c : Call} {x : Action σ (Reply α)} {y : Action σ (Reply β)}
    (hx : Parallel R s (Reply.Related Q) x y) :
    Parallel R s (Reply.Related Q) (relayed c x) (relayed c y) := by
  intro w w' hw
  have hsame : s.interrupt c w'.outside = s.interrupt c w.outside := by rw [hw.outside]
  rcases hi : s.interrupt c w.outside with ⟨_ | reason | j, o⟩
  · rw [relayed_of_none (congrArg Prod.fst hi),
      relayed_of_none (congrArg Prod.fst (hsame.trans hi)), hsame]
    exact hx (hw.withOutside _)
  · rw [relayed_of_breaks hi, relayed_of_breaks (hsame.trans hi)]
    exact ⟨.failed _, hw.withOutside o⟩
  · rw [relayed_of_answers hi, relayed_of_answers (hsame.trans hi)]
    exact ⟨.came (.foreign j), hw.withOutside o⟩

theorem guarded' {c : Call} {x : Action σ α} {y : Action σ β} (hx : Parallel R s Q x y) :
    Parallel R s (Reply.Related Q) (guarded c x) (guarded c y) :=
  relayed' (map' hx fun _ _ h => .own h)

theorem collect' {f : α → Action σ γ} {g : β → Action σ γ} {as : List α} {bs : List β}
    (h : List.Forall₂ Q as bs) (hf : ∀ a b, Q a b → Parallel R s Eq (f a) (g b)) :
    Parallel R s Eq (collect f as) (collect g bs) := by
  induction h with
  | nil => exact pure' rfl
  | cons hab _ ih => exact andThen' (hf _ _ hab) fun c => andThen' ih fun cs => pure' rfl

end Parallel

namespace Blind

open Parallel

theorem pure' (a : α) : Blind R s (pure a : Action σ α) := Parallel.pure' rfl

theorem ofExcept' (r : Except Failure α) : Blind R s (ofExcept r : Action σ α) :=
  Parallel.ofExcept' (.refl r)

theorem fail' (e : Failure) : Blind R s (fail e : Action σ α) := ofExcept' (.error e)

theorem note' (events : List Journal.Event) : Blind R s (note events : Action σ Unit) :=
  Parallel.note' events events

theorem policy' : Blind R s (policy : Action σ Policy) := fun _ _ hw => ⟨.came rfl, hw⟩

theorem clock' : Blind R s (clock : Action σ Calendar.Stamp) := fun _ _ hw => ⟨.came rfl, hw⟩

theorem databaseClock' : Blind R s (databaseClock : Action σ Calendar.Stamp) :=
  fun _ _ hw => ⟨.came rfl, hw⟩

theorem issue' (kind : Kind) (count : Issued → Nat) (next : Issued → Issued) :
    Blind R s (issue kind count next : Action σ String) := by
  intro w w' hw
  rw [run_issue, run_issue, hw.issued]
  exact ⟨.came rfl, hw.database, rfl, hw.attempts, hw.outside⟩

/-- The outside is in the same state, so it takes the message in the same way. -/
theorem deliver' (m : Message) : Blind R s (deliver m : Action σ (Option Failure)) := by
  intro w w' hw
  have hsame : s.deliver m w'.outside = s.deliver m w.outside := by rw [hw.outside]
  refine ⟨?_, hw.database, hw.issued, ?_, ?_⟩
  · show Agree Eq (.ok (s.deliver m w.outside).1.refusal) (.ok (s.deliver m w'.outside).1.refusal)
    rw [hsame]
    exact .refl _
  · show w'.attempts ++ [⟨m, (s.deliver m w'.outside).1.refusal.isSome⟩] =
      w.attempts ++ [⟨m, (s.deliver m w.outside).1.refusal.isSome⟩]
    rw [hsame, hw.attempts]
  · show (s.deliver m w'.outside).2 = (s.deliver m w.outside).2
    rw [hsame]

theorem bind' {x : Action σ α} {f : α → Action σ β} (hx : Blind R s x)
    (hf : ∀ a, Blind R s (f a)) : Blind R s (x >>= f) :=
  andThen' hx hf

theorem map' {x : Action σ α} {f : α → β} (hx : Blind R s x) : Blind R s (f <$> x) :=
  bind' hx fun a => pure' (f a)

theorem relayed' {c : Call} {x : Action σ (Reply α)} (hx : Blind R s x) :
    Blind R s (relayed c x) := by
  have hrelated : Parallel R s (Reply.Related Eq) x x := fun w w' hw =>
    ⟨(hx hw).1.strengthen fun a b _ _ hab => hab ▸ .refl a, (hx hw).2⟩
  intro w w' hw
  obtain ⟨hagree, hmatched⟩ := Parallel.relayed' (c := c) hrelated hw
  exact ⟨hagree.strengthen fun _ _ _ _ h => h.eq, hmatched⟩

theorem guarded' {c : Call} {x : Action σ α} (hx : Blind R s x) : Blind R s (guarded c x) :=
  relayed' (map' hx)

end Blind

end Action

/-! ## Calls of the store -/

namespace Store

open Nurture.Action

variable {R : Funnel → Funnel → Prop} {s : Surroundings σ}

theorem listExecutions_blind (status funnelId leadId : Option String) :
    Blind R s (listExecutions status funnelId leadId) := by
  refine Blind.guarded' (Blind.bind' (Blind.ofExcept' _) fun _ => ?_)
  refine Blind.bind' (Blind.ofExcept' _) fun _ => Blind.bind' (Blind.ofExcept' _) fun _ => ?_
  refine Parallel.bind' .database' fun db db' h => ?_
  rw [h.executions]
  exact Blind.ofExcept' _

theorem listLeads_blind (status : Option String) : Blind R s (listLeads status) := by
  refine Blind.guarded' (Blind.bind' (Blind.ofExcept' _) fun _ => ?_)
  refine Parallel.bind' .database' fun db db' h => ?_
  rw [h.leads]
  exact Blind.ofExcept' _

theorem allLeads_blind : Blind R s allLeads := Blind.relayed' (listLeads_blind none)

theorem templateRow?_blind (id : String) : Blind R s (templateRow? id) := by
  refine Blind.bind' (Blind.ofExcept' _) fun _ => Parallel.bind' .database' fun db db' h => ?_
  rw [h.templates]
  exact Blind.pure' _

theorem executionRow?_blind (id : String) : Blind R s (executionRow? id) := by
  refine Blind.bind' (Blind.ofExcept' _) fun _ => Parallel.bind' .database' fun db db' h => ?_
  rw [h.executions]
  exact Blind.pure' _

theorem writeExecutions_blind (f : List ExecutionRow → List ExecutionRow) :
    Blind R s (modifyDatabase fun db => { db with executions := f db.executions }) :=
  Parallel.modify' fun _ _ h => ⟨h.funnels, congrArg f h.executions, h.leads, h.templates⟩

theorem createExecution_blind (draft : Draft Execution) : Blind R s (createExecution draft) := by
  rw [createExecution_eq]
  refine Blind.guarded' (Blind.bind' ?_ fun id => ?_)
  · unfold chooseId
    cases draft.id with
    | some id => exact Blind.pure' id
    | none => exact Blind.issue' _ _ _
  · refine Blind.bind' Blind.databaseClock' fun now => Blind.bind' (Blind.ofExcept' _) fun row => ?_
    refine Parallel.bind' .database' fun db db' h => ?_
    rw [h.executions]
    have hadd : Blind R s (do
        modifyDatabase fun db => { db with executions := db.executions ++ [row] }
        note [.executionCreated (draft.withId id).id (draft.withId id).funnelId
          (draft.withId id).leadId]
        return draft.withId id : Action σ Execution) :=
      Blind.bind' (writeExecutions_blind (· ++ [row])) fun _ =>
        Blind.bind' (Blind.note' _) fun _ => Blind.pure' _
    dsimp only
    split
    · exact Blind.bind' (Blind.fail' _) fun _ => hadd
    · exact hadd

theorem updateExecution_blind (id : String) (p : ExecutionPatch) :
    Blind R s (updateExecution id p) := by
  rw [updateExecution_eq]
  refine Blind.guarded' ?_
  unfold patchRow
  dsimp only
  split
  · exact Blind.fail' _
  · refine Blind.bind' (executionRow?_blind id) fun row => ?_
    cases row with
    | none => exact Blind.pure' _
    | some row =>
      refine Blind.bind' Blind.databaseClock' fun now => ?_
      refine Blind.bind' (Blind.ofExcept' _) fun row => ?_
      exact Blind.bind' (writeExecutions_blind (putRow (·.id) row)) fun _ => Blind.pure' _

theorem listFunnels_parallel :
    Parallel R s (Reply.Related (List.Forall₂ fun f f' => f.Validated ∧ R f f')) listFunnels
      listFunnels := by
  refine Parallel.guarded' (Parallel.bind' .database' fun db db' h => Parallel.ofExcept' ?_)
  have hsorted : List.Forall₂ (FunnelRow.Matched R) (inOrder (·.createdAt) db.funnels)
      (inOrder (·.createdAt) db'.funnels) := forall₂_inOrder h.funnels fun _ _ h => h.createdAt_eq
  exact Agree.mapM hsorted fun r r' hr =>
    hr.load.strengthen fun f f' hload _ hR => ⟨FunnelRow.validated_of_load hload, hR⟩

end Store

end Nurture
