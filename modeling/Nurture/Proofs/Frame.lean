import Mathlib.Order.Defs.Unbundled
import Nurture.Action

/-!
  What actions do to the world

  `Takes E s x` says that in the surroundings `s` the action `x` ends, be it by
  a failure, in a world that `E` relates to the one it began in. Actions are
  built from few operations, and there is one lemma for each of them, so what an
  action does follows from what its calls of the store do. Most relations look
  at the tables only (`Tables`); with equality for `D` the action leaves
  the tables alone.

  `Tries s x Q` is about actions that do leave them alone: their answer and the messages that
  they attempt are related by `Q`. A `Quiet` one attempts none. What takes a world to one that is
  `Still` the same gives out no identifier either.
-/

namespace Nurture

/-- Tables, attempts and identifiers given out are what they were. -/
structure World.Still {σ : Type} (w w' : World σ) : Prop where
  database_eq : w'.database = w.database
  attempts_eq : w'.attempts = w.attempts
  issued_eq : w'.issued = w.issued

end Nurture

namespace Nurture.Action

variable {σ α β : Type} {s : Surroundings σ} {E : World σ → World σ → Prop}
  {D : Database → Database → Prop}

/-- The action ends in a world that `E` relates to the one it began in. -/
def Takes (E : World σ → World σ → Prop) (s : Surroundings σ) (x : Action σ α) : Prop :=
  ∀ w, E w (x.run s w).2

/-- Worlds whose tables `D` relates. -/
def Tables (D : Database → Database → Prop) (w w' : World σ) : Prop := D w.database w'.database

/-- The relation looks at the tables and the attempts, and relates what is the same there. -/
class Lenient (E : World σ → World σ → Prop) : Prop where
  of_same : ∀ {w w' : World σ}, w'.database = w.database → w'.attempts = w.attempts → E w w'

/-- The relation looks at the tables, the attempts and the identifiers given out, and relates what
is the same there. -/
class Tolerant (E : World σ → World σ → Prop) : Prop where
  of_still : ∀ {w w' : World σ}, w'.database = w.database → w'.attempts = w.attempts →
    w'.issued = w.issued → E w w'

instance [Lenient E] : Tolerant E where
  of_still h h' _ := Lenient.of_same h h'

instance : Tolerant (World.Still (σ := σ)) where
  of_still h h' h'' := ⟨h, h', h''⟩

instance : IsTrans (World σ) World.Still where
  trans _ _ _ h h' := ⟨h'.database_eq.trans h.database_eq, h'.attempts_eq.trans h.attempts_eq,
    h'.issued_eq.trans h.issued_eq⟩

instance [Std.Refl D] : Lenient (Tables D : World σ → World σ → Prop) where
  of_same := by
    intro w w' h _
    show D w.database w'.database
    rw [h]
    exact Std.Refl.refl _

instance [IsTrans Database D] : IsTrans (World σ) (Tables D) where
  trans _ _ _ h h' := IsTrans.trans (r := D) _ _ _ h h'

/-! ## Running the remaining ways of building an action -/

@[simp] theorem run_map (f : α → β) (x : Action σ α) (s : Surroundings σ) (w : World σ) :
    (f <$> x).run s w = ((x.run s w).1.map f, (x.run s w).2) := by
  -- Mapping is chaining with an action that does nothing else.
  change (x >>= fun a => pure (f a)).run s w = _
  rw [run_bind]
  cases x.run s w with
  | mk r w' => cases r <;> rfl

@[simp] theorem run_issue (kind : Kind) (count : Issued → Nat) (next : Issued → Issued)
    (s : Surroundings σ) (w : World σ) :
    (issue kind count next).run s w
      = (.ok (w.issued.naming.name kind (count w.issued + 1)),
          { w with issued := next w.issued }) :=
  rfl

theorem bind_assoc {γ : Type} (x : Action σ α) (g : α → Action σ β) (h : β → Action σ γ) :
    (x >>= g) >>= h = x >>= fun a => g a >>= h := by
  funext s w
  show ((x >>= g) >>= h).run s w = (x >>= fun a => g a >>= h).run s w
  rw [run_bind, run_bind, run_bind]
  rcases x.run s w with ⟨e | a, w'⟩ <;> rfl

theorem snd_run_bind_pure (x : Action σ α) (g : α → β) (s : Surroundings σ) (w : World σ) :
    ((x >>= fun a => pure (g a)).run s w).2 = (x.run s w).2 := by
  rw [run_bind]
  rcases x.run s w with ⟨e | a, w'⟩ <;> rfl

theorem relayed_of_breaks {c : Call} {body : Action σ (Reply α)} {w : World σ} {reason : String}
    {o : σ} (h : s.interrupt c w.outside = (some (.breaks reason), o)) :
    (relayed c body).run s w = (.error (.broken reason), { w with outside := o }) := by
  simp only [relayed, Action.run, h]

theorem relayed_of_answers {c : Call} {body : Action σ (Reply α)} {w : World σ} {j : Json}
    {o : σ} (h : s.interrupt c w.outside = (some (.answers j), o)) :
    (relayed c body).run s w = (.ok (.foreign j), { w with outside := o }) := by
  simp only [relayed, Action.run, h]

theorem relayed_of_none {c : Call} {body : Action σ (Reply α)} {w : World σ}
    (h : (s.interrupt c w.outside).1 = none) :
    (relayed c body).run s w = body.run s { w with outside := (s.interrupt c w.outside).2 } := by
  rcases hi : s.interrupt c w.outside with ⟨i, o⟩
  rw [hi] at h
  cases h
  simp only [relayed, Action.run, hi]

/-- A call breaks, or is answered by the outside, or is made. -/
theorem relayed_cases (c : Call) (body : Action σ (Reply α)) (s : Surroundings σ) (w : World σ) :
    ∃ o, (∃ reason, (relayed c body).run s w = (.error (.broken reason), { w with outside := o })) ∨
      (∃ j, s.interrupt c w.outside = (some (.answers j), o) ∧
        (relayed c body).run s w = (.ok (.foreign j), { w with outside := o })) ∨
      (relayed c body).run s w = body.run s { w with outside := o } := by
  rcases hi : s.interrupt c w.outside with ⟨_ | reason | j, o⟩
  · -- nothing comes in the way
    refine ⟨o, .inr (.inr ?_)⟩
    rw [relayed_of_none (congrArg Prod.fst hi), hi]
  · -- an exception
    exact ⟨o, .inl ⟨reason, relayed_of_breaks hi⟩⟩
  · -- an answer in place of the store's
    exact ⟨o, .inr (.inl ⟨j, rfl, relayed_of_answers hi⟩)⟩

/-- What a call leaves of the answer, the tables and the numbers, if it breaks, if the outside
answers, and if it is made. -/
theorem guarded_leaves {c : Call} {body : Action σ α} {w : World σ}
    {Q : Except Failure (Reply α) → Database → Issued → Prop}
    (hbroken : ∀ reason, Q (.error (.broken reason)) w.database w.issued)
    (hforeign : ∀ j, Q (.ok (.foreign j)) w.database w.issued)
    (hmade : ∀ o, Q ((body.run s { w with outside := o }).1.map .own)
      (body.run s { w with outside := o }).2.database
      (body.run s { w with outside := o }).2.issued) :
    Q ((guarded c body).run s w).1 ((guarded c body).run s w).2.database
      ((guarded c body).run s w).2.issued := by
  obtain ⟨o, ⟨reason, h⟩ | ⟨j, -, h⟩ | h⟩ := relayed_cases c (.own <$> body) s w
  · rw [guarded, h]
    exact hbroken reason
  · rw [guarded, h]
    exact hforeign j
  · rw [guarded, h, run_map]
    exact hmade o

/-! ## Runs that succeed -/

section
variable {w w₁ w₂ : World σ}

theorem run_bind_eq_ok {x : Action σ α} {g : α → Action σ β} {b : β}
    (h : (x >>= g).run s w = (.ok b, w₂)) :
    ∃ a w₁, x.run s w = (.ok a, w₁) ∧ (g a).run s w₁ = (.ok b, w₂) := by
  rw [run_bind] at h
  rcases hx : x.run s w with ⟨e | a, w₁⟩
  · rw [hx] at h
    cases h
  · rw [hx] at h
    exact ⟨a, w₁, rfl, h⟩

theorem run_ofExcept_bind_eq_ok {r : Except Failure α} {g : α → Action σ β} {b : β}
    (h : (ofExcept r >>= g).run s w = (.ok b, w₂)) :
    ∃ a, r = .ok a ∧ (g a).run s w = (.ok b, w₂) := by
  obtain ⟨a, w₁, hr, h⟩ := run_bind_eq_ok h
  rw [run_ofExcept] at hr
  cases hr
  exact ⟨a, rfl, h⟩

theorem run_guarded_eq_own {c : Call} {body : Action σ α} {a : α}
    (h : (guarded c body).run s w = (.ok (.own a), w₁)) :
    ∃ o, body.run s { w with outside := o } = (.ok a, w₁) := by
  unfold guarded at h
  obtain ⟨o, ⟨reason, hrun⟩ | ⟨j, -, hrun⟩ | hrun⟩ := relayed_cases c (.own <$> body) s w
  · rw [hrun] at h
    cases h
  · rw [hrun] at h
    cases h
  · rw [hrun, run_map] at h
    rcases hbody : body.run s { w with outside := o } with ⟨e | a', w'⟩
    · rw [hbody] at h
      cases h
    · rw [hbody] at h
      cases h
      exact ⟨o, hbody⟩

end

namespace Takes

theorem mono {E' : World σ → World σ → Prop} {x : Action σ α} (hx : Takes E s x)
    (h : ∀ w w', E w w' → E' w w') : Takes E' s x :=
  fun w => h _ _ (hx w)

theorem map' {f : α → β} {x : Action σ α} (hx : Takes E s x) : Takes E s (f <$> x) := by
  intro w
  rw [run_map]
  exact hx w

theorem attempt' {x : Action σ α} (hx : Takes E s x) : Takes E s (attempt x) := fun w => hx w

theorem modify' {f : Database → Database}
    (h : ∀ w : World σ, E w { w with database := f w.database }) :
    Takes E s (modifyDatabase f : Action σ Unit) :=
  h

section
variable [Tolerant E]

theorem pure' (a : α) : Takes E s (pure a : Action σ α) := fun _ => Tolerant.of_still rfl rfl rfl

theorem fail' (e : Failure) : Takes E s (fail e : Action σ α) :=
  fun _ => Tolerant.of_still rfl rfl rfl

theorem ofExcept' (r : Except Failure α) : Takes E s (ofExcept r : Action σ α) := by
  intro w
  rw [run_ofExcept]
  exact Tolerant.of_still rfl rfl rfl

theorem policy' : Takes E s (policy : Action σ Policy) := fun _ => Tolerant.of_still rfl rfl rfl

theorem databaseClock' : Takes E s (databaseClock : Action σ Calendar.Stamp) :=
  fun _ => Tolerant.of_still rfl rfl rfl

theorem clock' : Takes E s (clock : Action σ Calendar.Stamp) :=
  fun _ => Tolerant.of_still rfl rfl rfl

theorem database' : Takes E s (database : Action σ Database) :=
  fun _ => Tolerant.of_still rfl rfl rfl

theorem note' (events : List Journal.Event) : Takes E s (note events : Action σ Unit) :=
  fun _ => Tolerant.of_still rfl rfl rfl

end

theorem issue' {kind : Kind} {count : Issued → Nat} {next : Issued → Issued}
    (h : ∀ w : World σ, E w { w with issued := next w.issued }) :
    Takes E s (issue kind count next : Action σ String) :=
  h

section
variable [IsTrans (World σ) E]

theorem bind' {x : Action σ α} {f : α → Action σ β} (hx : Takes E s x)
    (hf : ∀ a, Takes E s (f a)) : Takes E s (x >>= f) := by
  intro w
  have h₁ := hx w
  rw [run_bind]
  cases hr : x.run s w with
  | mk r w' =>
    rw [hr] at h₁
    cases r with
    | error e => exact h₁
    | ok a => exact IsTrans.trans _ _ _ h₁ (hf a w')

theorem bindRun {x : Action σ α} {f : α → Action σ β} {w : World σ} (hx : Takes E s x)
    (hf : ∀ a w₁, x.run s w = (.ok a, w₁) → E w₁ ((f a).run s w₁).2) :
    E w ((x >>= f).run s w).2 := by
  have h₁ := hx w
  rw [run_bind]
  rcases hrun : x.run s w with ⟨e | a, w₁⟩
  · rw [hrun] at h₁
    exact h₁
  · rw [hrun] at h₁
    exact IsTrans.trans _ _ _ h₁ (hf a w₁ hrun)

variable [Tolerant E]

/-- A call may take the outside with it before it is made. -/
theorem relayed' {c : Call} {body : Action σ (Reply α)} (hb : Takes E s body) :
    Takes E s (relayed c body) := by
  intro w
  obtain ⟨o, ⟨reason, h⟩ | ⟨j, -, h⟩ | h⟩ := relayed_cases c body s w
  · rw [h]
    exact Tolerant.of_still rfl rfl rfl
  · rw [h]
    exact Tolerant.of_still rfl rfl rfl
  · rw [h]
    exact IsTrans.trans w { w with outside := o } _ (Tolerant.of_still rfl rfl rfl) (hb _)

theorem guarded' {c : Call} {body : Action σ α} (hb : Takes E s body) :
    Takes E s (guarded c body) :=
  relayed' (map' hb)

theorem collect' {f : α → Action σ β} {items : List α}
    (hf : ∀ a ∈ items, Takes E s (f a)) : Takes E s (collect f items) := by
  induction items with
  | nil => exact pure' []
  | cons a rest ih =>
    refine bind' (hf a List.mem_cons_self) fun b => ?_
    refine bind' (ih fun x hx => hf x (List.mem_cons_of_mem a hx)) fun bs => ?_
    exact pure' _

end

theorem ofStill [Tolerant E] {x : Action σ α} (hx : Takes World.Still s x) : Takes E s x :=
  hx.mono fun _ _ h => Tolerant.of_still h.database_eq h.attempts_eq h.issued_eq

end Takes

/-! ## Attempts of an action -/

/-- The action leaves the tables alone, and its answer and the messages that it attempts are
related by `Q`. -/
def Tries (s : Surroundings σ) (x : Action σ α) (Q : Except Failure α → List Attempt → Prop) :
    Prop :=
  ∀ w, (x.run s w).2.database = w.database ∧
    ∃ tried, (x.run s w).2.attempts = w.attempts ++ tried ∧ Q (x.run s w).1 tried

/-- The action leaves the tables alone and attempts no message. -/
def Quiet (s : Surroundings σ) (x : Action σ α) : Prop := Tries s x fun _ tried => tried = []

namespace Tries

variable {Q Q' : Except Failure α → List Attempt → Prop}
  {R : Except Failure β → List Attempt → Prop}

theorem mono {x : Action σ α} (hx : Tries s x Q) (h : ∀ r tried, Q r tried → Q' r tried) :
    Tries s x Q' := by
  intro w
  obtain ⟨hdb, tried, htried, hq⟩ := hx w
  exact ⟨hdb, tried, htried, h _ _ hq⟩

theorem of_keeps {x : Action σ α} (hdb : ∀ w, (x.run s w).2.database = w.database)
    (hat : ∀ w, (x.run s w).2.attempts = w.attempts) (hq : ∀ w, Q (x.run s w).1 []) :
    Tries s x Q := by
  intro w
  refine ⟨hdb w, [], ?_, hq w⟩
  rw [hat, List.append_nil]

theorem pure' {a : α} (h : Q (.ok a) []) : Tries s (pure a : Action σ α) Q :=
  of_keeps (fun _ => rfl) (fun _ => rfl) fun _ => h

theorem ofExcept' {r : Except Failure α} (h : Q r []) : Tries s (ofExcept r : Action σ α) Q := by
  apply of_keeps <;> intro w <;> rw [run_ofExcept]
  exact h

theorem deliver' (m : Message) :
    Tries s (deliver m : Action σ (Option Failure))
      fun r tried => ∃ refusal, r = .ok refusal ∧ tried = [⟨m, refusal.isSome⟩] :=
  fun w => ⟨rfl, [⟨m, (s.deliver m w.outside).1.refusal.isSome⟩], rfl, _, rfl, rfl⟩

theorem note' (events : List Journal.Event) :
    Tries s (note events : Action σ Unit) fun r tried => r = .ok () ∧ tried = [] :=
  of_keeps (fun _ => rfl) (fun _ => rfl) fun _ => ⟨rfl, rfl⟩

/-- What is attempted first stands first; a failure ends the chain. -/
theorem bind' {x : Action σ β} {f : β → Action σ α} (hx : Tries s x R)
    (hf : ∀ b tried, R (.ok b) tried → Tries s (f b) fun r more => Q r (tried ++ more))
    (he : ∀ e tried, R (.error e) tried → Q (.error e) tried) : Tries s (x >>= f) Q := by
  intro w
  obtain ⟨hdb, tried, htried, hr⟩ := hx w
  rw [run_bind]
  cases hrun : x.run s w with
  | mk r w' =>
    rw [hrun] at hdb htried hr
    cases r with
    | error e => exact ⟨hdb, tried, htried, he e tried hr⟩
    | ok b =>
      obtain ⟨hdb', more, hmore, hq⟩ := hf b tried hr w'
      refine ⟨hdb'.trans hdb, tried ++ more, ?_, hq⟩
      rw [hmore, htried, List.append_assoc]

theorem afterQuiet {x : Action σ β} {f : β → Action σ α} (hx : Quiet s x)
    (hf : ∀ b, Tries s (f b) Q) (he : ∀ e, Q (.error e) []) : Tries s (x >>= f) Q := by
  refine bind' hx ?_ ?_
  · rintro b _ rfl
    exact hf b
  · rintro e _ rfl
    exact he e

theorem afterOfExcept {r : Except Failure β} {f : β → Action σ α}
    (hf : ∀ b, r = .ok b → Tries s (f b) Q) (he : ∀ e, Q (.error e) []) :
    Tries s (ofExcept r >>= f) Q := by
  cases r with
  | error e => exact of_keeps (fun _ => rfl) (fun _ => rfl) fun _ => he e
  | ok b => exact hf b rfl

theorem afterPolicy {f : Policy → Action σ α} (hf : Tries s (f s.policy) Q) :
    Tries s (policy >>= f) Q :=
  hf

theorem guarded' {c : Call} {body : Action σ β} {Q : Except Failure (Reply β) → List Attempt → Prop}
    (hb : Tries s body fun r tried => Q (r.map .own) tried) (he : ∀ e, Q (.error e) [])
    (ha : ∀ j, Q (.ok (.foreign j)) []) : Tries s (guarded c body) Q := by
  intro w
  unfold guarded
  obtain ⟨o, ⟨reason, h⟩ | ⟨j, -, h⟩ | h⟩ := relayed_cases c (.own <$> body) s w
  · rw [h]
    exact ⟨rfl, [], (List.append_nil w.attempts).symm, he _⟩
  · rw [h]
    exact ⟨rfl, [], (List.append_nil w.attempts).symm, ha j⟩
  · rw [h, run_map]
    exact hb { w with outside := o }

end Tries

namespace Quiet

theorem pure' (a : α) : Quiet s (pure a : Action σ α) := Tries.pure' rfl

theorem note' (events : List Journal.Event) : Quiet s (note events : Action σ Unit) :=
  Tries.mono (Tries.note' events) fun _ _ h => h.2

theorem policy' : Quiet s (policy : Action σ Policy) :=
  Tries.of_keeps (fun _ => rfl) (fun _ => rfl) fun _ => rfl

theorem database' : Quiet s (database : Action σ Database) :=
  Tries.of_keeps (fun _ => rfl) (fun _ => rfl) fun _ => rfl

theorem ofExcept' (r : Except Failure α) : Quiet s (ofExcept r : Action σ α) := Tries.ofExcept' rfl

theorem bind' {x : Action σ β} {f : β → Action σ α} (hx : Quiet s x) (hf : ∀ b, Quiet s (f b)) :
    Quiet s (x >>= f) :=
  Tries.afterQuiet hx hf fun _ => rfl

theorem map' {f : β → α} {x : Action σ β} (hx : Quiet s x) : Quiet s (f <$> x) := by
  intro w
  rw [run_map]
  exact hx w

theorem guarded' {c : Call} {body : Action σ β} (hb : Quiet s body) : Quiet s (guarded c body) :=
  Tries.guarded' hb (fun _ => rfl) fun _ => rfl

theorem relayed' {c : Call} {body : Action σ (Reply β)} (hb : Quiet s body) :
    Quiet s (relayed c body) := by
  intro w
  obtain ⟨o, ⟨reason, h⟩ | ⟨j, -, h⟩ | h⟩ := relayed_cases c body s w
  · rw [h]
    exact ⟨rfl, [], (List.append_nil w.attempts).symm, rfl⟩
  · rw [h]
    exact ⟨rfl, [], (List.append_nil w.attempts).symm, rfl⟩
  · rw [h]
    exact hb { w with outside := o }

theorem attempts_eq {x : Action σ α} (hx : Quiet s x) (w : World σ) :
    (x.run s w).2.attempts = w.attempts := by
  obtain ⟨-, tried, htried, rfl⟩ := hx w
  rw [htried, List.append_nil]

theorem database_eq {x : Action σ α} (hx : Quiet s x) (w : World σ) :
    (x.run s w).2.database = w.database :=
  (hx w).1

theorem same_of_run {x : Action σ α} (hx : Quiet s x) {w w₁ : World σ} {r : Except Failure α}
    (h : x.run s w = (r, w₁)) : w₁.database = w.database ∧ w₁.attempts = w.attempts := by
  have hdb := hx.database_eq w
  have hattempts := hx.attempts_eq w
  rw [h] at hdb hattempts
  exact ⟨hdb, hattempts⟩

end Quiet

theorem Takes.quiet {x : Action σ α} (hx : Takes World.Still s x) : Quiet s x :=
  Tries.of_keeps (fun w => (hx w).database_eq) (fun w => (hx w).attempts_eq) fun _ => rfl

end Nurture.Action
