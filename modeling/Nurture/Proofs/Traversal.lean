import Nurture.Engine.Pass
import Nurture.Proofs.ExecutionTable
import Nurture.Proofs.Steps

/-!
  Traversals

  A `Traversal` runs node after node, each time at the node that the one before it
  names, and knows neither a bound on its length nor a history: it only tells which
  nodes were passed and which messages were attempted at each of them. A walk is a
  traversal cut off at the bound: an induction along the traversal shows that a
  walk that has some nodes left to visit comes to where the traversal stands, with
  one entry of the history for each node passed (`Traversal.run_walk`). Within every
  bound there is a traversal that reaches it or cannot go on (`exists_traversal`).
-/

namespace Nurture

variable {σ : Type} {s : Surroundings σ} {f : Funnel} {ctx : StepContext}

/-! ## What a history tells -/

/-- The entry of a history about a node of the funnel. -/
def Node.told (n : Node) (outcome : String) (now : Calendar.Stamp) : Json.Fields :=
  [("node_id", .str n.id), ("node_type", .str n.kind.tag), ("outcome", .str outcome),
   ("at", .str now.isoText)]

/-- The entry of a history about a node that could not be looked at. -/
def toldUnseen (id outcome : String) (now : Calendar.Stamp) : Json.Fields :=
  [("node_id", .str id), ("node_type", .null), ("outcome", .str outcome),
   ("at", .str now.isoText)]

/-- A node that was run, and the messages attempted there. -/
structure Visit where
  node : Node
  tried : List Attempt

namespace Visit

/-- Whether a message was accepted. -/
def sent (v : Visit) : Bool := v.tried.any fun a => !a.refused

/-- The entry of the history about the visit. -/
def entry (now : Calendar.Stamp) (v : Visit) : Json.Fields :=
  v.node.told "advanced" now ++ [("sent", .bool v.sent)]

theorem entry_eq (now : Calendar.Stamp) (v : Visit) :
    v.entry now = advancedEntry v.node v.sent now := rfl

end Visit

/-- From a reference to a node and a world, nodes are run one by one, each of them advancing, up
to another reference and another world. -/
inductive Traversal (f : Funnel) (ctx : StepContext) (s : Surroundings σ) :
    Option String → World σ → List Visit → Option String → World σ → Prop
  | stay (start : Option String) (w : World σ) : Traversal f ctx s start w [] start w
  | step {start next stop : Option String} {id : String} {n : Node} {sent : Bool}
      {w w₁ w₂ : World σ} {tried : List Attempt} {visits : List Visit}
      (hid : reference start = some id) (hn : f.node? id = some n)
      (hrun : (Step.perform ctx n).run s w = (.ok (.advanced next sent), w₁))
      (htried : w₁.attempts = w.attempts ++ tried)
      (ht : Traversal f ctx s next w₁ visits stop w₂) :
      Traversal f ctx s start w (⟨n, tried⟩ :: visits) stop w₂

/-! ## One step of a walk -/

section
variable {k visited : Nat} {start : Option String} {id : String} {n : Node}
  {history : List Json.Fields} {w : World σ}

theorem run_walk_ended (h : reference start = none) :
    (walk f ctx k visited start history).run s w = (.ok (.ended, history), w) := by
  rw [walk, h]
  rfl

theorem run_walk_unreachable (h : reference start = some id) (hn : f.node? id = none) :
    (walk f ctx k visited start history).run s w = (.ok (.unreachable id, history), w) := by
  rw [walk, h]
  dsimp only
  rw [hn]
  rfl

theorem run_walk_looping (h : reference start = some id) (hn : f.node? id = some n) :
    (walk f ctx 0 visited start history).run s w = (.ok (.looping n visited, history), w) := by
  rw [walk, h]
  dsimp only
  rw [hn]
  rfl

theorem run_walk_succ (h : reference start = some id) (hn : f.node? id = some n) :
    (walk f ctx (k + 1) visited start history).run s w =
      match (Step.perform ctx n).run s w with
      | (.ok (.failed error _), w') => (.ok (.failed n error, history), w')
      | (.ok (.suspended node resumeAt), w') => (.ok (.parked n node resumeAt, history), w')
      | (.ok (.advanced next sent), w') =>
        (walk f ctx k (visited + 1) next (history ++ [advancedEntry n sent ctx.now])).run s w'
      | (.error e, w') => (.error e, w') := by
  rw [walk, h]
  dsimp only
  rw [hn]
  dsimp only
  rw [Action.run_bind]
  rcases (Step.perform ctx n).run s w with ⟨_ | (_ | _ | _), w'⟩ <;> rfl

end

/-! ## Walks along a traversal -/

namespace Traversal

variable {start stop : Option String} {w w₁ : World σ} {visits : List Visit}

theorem database_eq (ht : Traversal f ctx s start w visits stop w₁) :
    w₁.database = w.database := by
  induction ht with
  | stay => rfl
  | @step _ _ _ _ n _ w _ _ _ _ _ _ hrun _ _ ih =>
    have hdb := (Step.perform_came (s := s) ctx n w).1
    rw [hrun] at hdb
    exact ih.trans hdb

theorem attempts_eq (ht : Traversal f ctx s start w visits stop w₁) :
    w₁.attempts = w.attempts ++ visits.flatMap (·.tried) := by
  induction ht with
  | stay => simp
  | step _ _ _ htried _ ih => rw [ih, htried, List.flatMap_cons, List.append_assoc]

theorem sent_eq {n : Node} {next : Option String} {sent : Bool} {tried : List Attempt}
    (hrun : (Step.perform ctx n).run s w = (.ok (.advanced next sent), w₁))
    (htried : w₁.attempts = w.attempts ++ tried) : (Visit.mk n tried).sent = sent := by
  obtain ⟨-, tried', htried', hcame⟩ := Step.perform_came (s := s) ctx n w
  rw [hrun] at htried' hcame
  have htried_eq : tried = tried' := List.append_cancel_left (htried.symm.trans htried')
  rw [Visit.sent, htried_eq]
  exact hcame.sent_eq

/-- A walk with nodes left to visit comes to where the traversal stands. -/
theorem run_walk {k visited : Nat} {history : List Json.Fields}
    (ht : Traversal f ctx s start w visits stop w₁) (hk : visits.length ≤ k) :
    (walk f ctx k visited start history).run s w =
      (walk f ctx (k - visits.length) (visited + visits.length) stop
        (history ++ visits.map (Visit.entry ctx.now))).run s w₁ := by
  -- Each visit takes one of the nodes left and adds one entry to the history.
  induction ht generalizing k visited history with
  | stay => simp
  | @step _ _ _ _ n sent _ _ _ tried visits hid hn hrun htried _ ih =>
    obtain ⟨k, rfl⟩ : ∃ k', k = k' + 1 := ⟨k - 1, by rw [List.length_cons] at hk; omega⟩
    have hentry : Visit.entry ctx.now ⟨n, tried⟩ = advancedEntry n sent ctx.now := by
      rw [Visit.entry_eq, sent_eq hrun htried]
    rw [run_walk_succ hid hn, hrun]
    dsimp only
    rw [ih (by rw [List.length_cons] at hk; omega), List.map_cons, hentry, List.length_cons,
      List.append_assoc, List.singleton_append, Nat.add_sub_add_right,
      Nat.add_assoc visited 1, Nat.add_comm 1]

end Traversal

/-! ## Where a traversal is cut off -/

/-- The node at a reference does not advance. -/
def Halts (f : Funnel) (ctx : StepContext) (s : Surroundings σ) (stop : Option String)
    (w : World σ) : Prop :=
  ∀ id n, reference stop = some id → f.node? id = some n →
    ∀ next sent w', (Step.perform ctx n).run s w ≠ (.ok (.advanced next sent), w')

/-- Within every bound there is a traversal that reaches it, or one that cannot go on. -/
theorem exists_traversal (f : Funnel) (ctx : StepContext) (s : Surroundings σ)
    (start : Option String) (w : World σ) (bound : Nat) :
    ∃ visits stop w₁, Traversal f ctx s start w visits stop w₁ ∧ visits.length ≤ bound ∧
      (visits.length < bound → Halts f ctx s stop w₁) := by
  induction bound generalizing start w with
  | zero => exact ⟨[], start, w, .stay start w, Nat.le_refl 0, fun h => absurd h (Nat.lt_irrefl 0)⟩
  | succ bound ih =>
    by_cases hhalt : Halts f ctx s start w
    · exact ⟨[], start, w, .stay start w, Nat.zero_le _, fun _ => hhalt⟩
    · -- the first node advances: after it the bound is one less
      unfold Halts at hhalt
      push Not at hhalt
      obtain ⟨id, n, hid, hn, next, sent, w', hrun⟩ := hhalt
      obtain ⟨-, tried, htried, -⟩ := Step.perform_came (s := s) ctx n w
      rw [hrun] at htried
      obtain ⟨visits, stop, w₁, ht, hle, hstop⟩ := ih next w'
      refine ⟨⟨n, tried⟩ :: visits, stop, w₁, .step hid hn hrun htried ht, ?_, ?_⟩
      · rw [List.length_cons]
        omega
      · intro hlt
        rw [List.length_cons] at hlt
        exact hstop (by omega)

end Nurture
