import Nurture.Proofs.Isolation
import Nurture.Proofs.LifeCycle
import Nurture.Proofs.Retries

/-!
  The loop guard

  A walk that has visited as many nodes as one pass admits is stopped as a loop, though it only
  counts and never looks for a node that it has seen before. In a funnel with no more nodes than
  that, nothing else is stopped (`loopGuard_exact`): so many visits and a node to come are more
  places than there are nodes, hence one of them is come to twice. If the outside keeps no memory,
  whatever led from that place back to it leads there again, and the traversal has no end. A funnel
  without cycles leads nowhere twice, whatever the outside does.
-/

namespace Nurture

open Relation

variable {σ : Type} {s : Surroundings σ} {f : Funnel} {ctx : StepContext}
  {start mid stop : Option String} {w w₁ w₂ : World σ} {visits more : List Visit}

/-! ## Parts of traversals -/

namespace Traversal

theorem append (h : Traversal f ctx s start w visits mid w₁)
    (h' : Traversal f ctx s mid w₁ more stop w₂) :
    Traversal f ctx s start w (visits ++ more) stop w₂ := by
  induction h with
  | stay => exact h'
  | step hid hn hrun htried _ ih => exact .step hid hn hrun htried (ih h')

theorem split (h : Traversal f ctx s start w (visits ++ more) stop w₂) :
    ∃ mid w₁, Traversal f ctx s start w visits mid w₁ ∧
      Traversal f ctx s mid w₁ more stop w₂ := by
  induction visits generalizing start w with
  | nil => exact ⟨start, w, .stay start w, h⟩
  | cons v visits ih =>
    cases h with
    | step hid hn hrun htried ht =>
      obtain ⟨mid, w₁, hfront, hrest⟩ := ih ht
      exact ⟨mid, w₁, .step hid hn hrun htried hfront, hrest⟩

theorem exists_of_le {k : Nat} (h : Traversal f ctx s start w visits stop w₁)
    (hk : k ≤ visits.length) :
    ∃ front mid w', Traversal f ctx s start w front mid w' ∧ front.length = k := by
  rw [← List.take_append_drop k visits] at h
  obtain ⟨mid, w', hfront, -⟩ := h.split
  exact ⟨visits.take k, mid, w', hfront, List.length_take_of_le hk⟩

theorem node_mem (h : Traversal f ctx s start w visits stop w₁) :
    ∀ v ∈ visits, v.node ∈ f.nodes := by
  induction h with
  | stay => simp
  | step _ hn _ _ _ ih => exact List.forall_mem_cons.mpr ⟨mem_of_findNode hn, ih⟩

theorem exists_to (h : Traversal f ctx s start w visits stop w₁) {a b : String}
    (hb : reference stop = some b) (ha : a ∈ visits.map (·.node.id) ++ [b]) :
    ∃ front w', Traversal f ctx s start w front (some a) w' := by
  induction h with
  | stay start w =>
    obtain rfl : a = b := by simpa using ha
    obtain ⟨rfl, -⟩ := reference_eq_some_iff.mp hb
    exact ⟨[], w, .stay _ w⟩
  | @step start next stop id n sent w w₁ w₂ tried visits hid hn hrun htried _ ih =>
    rw [List.map_cons, List.cons_append] at ha
    rcases List.mem_cons.mp ha with rfl | ha
    · obtain ⟨rfl, -⟩ := reference_eq_some_iff.mp hid
      rw [findNode_id hn]
      exact ⟨[], w, .stay _ w⟩
    · obtain ⟨front, w', hfront⟩ := ih hb ha
      exact ⟨_, w', .step hid hn hrun htried hfront⟩

theorem leads_of_perform {id b : String} {n : Node} {next : Option String} {sent : Bool}
    (hn : f.node? id = some n)
    (hrun : (Step.perform ctx n).run s w = (.ok (.advanced next sent), w₁))
    (hb : reference next = some b) : f.Leads id b := by
  obtain ⟨-, tried, -, hcame⟩ := Step.perform_came (s := s) ctx n w
  rw [hrun] at hcame
  exact ⟨n, hn, hcame.leadsTo b hb⟩

theorem reached (h : Traversal f ctx s start w visits stop w₁) {b : String}
    (hb : reference stop = some b) :
    ∃ a, reference start = some a ∧ ReflTransGen f.Leads a b := by
  induction h with
  | stay => exact ⟨b, hb, .refl⟩
  | step hid hn hrun _ _ ih =>
    obtain ⟨c, hc, hpath⟩ := ih hb
    exact ⟨_, hid, .head (leads_of_perform hn hrun hc) hpath⟩

/-- If the outside keeps no memory, the same traversal can be made in every world with the same
templates. -/
theorem anywhere (hm : Memoryless s) (h : Traversal f ctx s start w visits stop w₁) {w' : World σ}
    (hT : w'.database.templates = w.database.templates) :
    ∃ w₁', Traversal f ctx s start w' visits stop w₁' := by
  -- Each node comes to the same in both worlds, and leaves the templates of both alone.
  induction h generalizing w' with
  | stay start => exact ⟨w', .stay start w'⟩
  | @step start next stop id n sent w w₁ w₂ tried visits hid hn hrun htried _ ih =>
    obtain ⟨result, attempts, hperform⟩ :=
      Step.perform_determined (s := s) (T := w.database.templates) ctx n hm
    obtain ⟨hresult, hattempts, hdb⟩ := hperform w rfl
    obtain ⟨hresult', hattempts', hdb'⟩ := hperform w' hT
    rw [hrun] at hresult hattempts hdb
    obtain rfl : attempts = tried := List.append_cancel_left (hattempts.symm.trans htried)
    have hrun' : (Step.perform ctx n).run s w'
        = (.ok (.advanced next sent), ((Step.perform ctx n).run s w').2) :=
      Prod.ext (hresult'.trans hresult.symm) rfl
    have hrest : ((Step.perform ctx n).run s w').2.database.templates = w₁.database.templates := by
      rw [hdb', hT, hdb]
    obtain ⟨w₁', ht⟩ := ih hrest
    exact ⟨w₁', .step hid hn hrun' hattempts' ht⟩

end Traversal

/-! ## Traversals without an end -/

/-- The traversal has no end: there is one of every length. -/
def Endless (f : Funnel) (ctx : StepContext) (s : Surroundings σ) (start : Option String)
    (w : World σ) : Prop :=
  ∀ k, ∃ visits stop w₁, Traversal f ctx s start w visits stop w₁ ∧ visits.length = k

/-- The traversal comes to a node, and from there to the same node. -/
def ComesBack (f : Funnel) (ctx : StepContext) (s : Surroundings σ) (start : Option String)
    (w : World σ) : Prop :=
  ∃ front round a w₁ w₂, Traversal f ctx s start w front (some a) w₁ ∧
    Traversal f ctx s (some a) w₁ round (some a) w₂ ∧ round ≠ []

/-- If the outside keeps no memory, what came back once comes back for ever. -/
theorem ComesBack.endless (hm : Memoryless s) (h : ComesBack f ctx s start w) :
    Endless f ctx s start w := by
  intro k
  obtain ⟨front, round, a, w₁, w₂, hfront, hround, hne⟩ := h
  -- A round leaves the templates alone, so another one can be made after it.
  have hrounds : ∀ m w', w'.database.templates = w₁.database.templates →
      ∃ visits w'', Traversal f ctx s (some a) w' visits (some a) w'' ∧ m ≤ visits.length := by
    intro m
    induction m with
    | zero => exact fun w' _ => ⟨[], w', .stay _ w', Nat.zero_le _⟩
    | succ m ih =>
      intro w' hT
      obtain ⟨w'', hfirst⟩ := hround.anywhere hm hT
      obtain ⟨visits, w''', hrest, hle⟩ := ih w'' (by rw [hfirst.database_eq, hT])
      have hpos : 0 < round.length := List.length_pos_of_ne_nil hne
      refine ⟨round ++ visits, w''', hfirst.append hrest, ?_⟩
      rw [List.length_append]
      omega
  obtain ⟨visits, w', hloop, hle⟩ := hrounds k w₁ rfl
  refine (hfront.append hloop).exists_of_le ?_
  rw [List.length_append]
  omega

theorem ComesBack.not_acyclic (h : ComesBack f ctx s start w) : ¬ f.Acyclic := by
  intro hacyclic
  obtain ⟨front, round, a, w₁, w₂, -, hround, hne⟩ := h
  cases hround with
  | stay => exact hne rfl
  | step hid hn hrun _ ht =>
    obtain ⟨heq, hne'⟩ := reference_eq_some_iff.mp hid
    have hstop : reference (some a) = some a :=
      reference_eq_some_iff.mpr ⟨rfl, Option.some.inj heq ▸ hne'⟩
    obtain ⟨c, hc, hpath⟩ := ht.reached hstop
    obtain rfl := Option.some.inj heq
    exact hacyclic a (.head' (Traversal.leads_of_perform hn hrun hc) hpath)

/-- Unless it comes back, a traversal visits no node twice, and stands at one that it has not
visited. -/
theorem Traversal.nodup_or_comesBack (h : Traversal f ctx s start w visits stop w₁) {b : String}
    (hb : reference stop = some b) :
    (visits.map (·.node.id) ++ [b]).Nodup ∨ ComesBack f ctx s start w := by
  -- By induction from the end: in front of places that are distinct there is a new place, or one of
  -- them.
  induction h with
  | stay => exact .inl (by simp)
  | @step start next stop id n sent w w₁ w₂ tried visits hid hn hrun htried ht ih =>
    rcases ih hb with hnodup | ⟨front, round, a, w', w'', hfront, hround, hne⟩
    · by_cases hmem : n.id ∈ visits.map (·.node.id) ++ [b]
      · -- the first node is come to again
        obtain ⟨front, w', hfront⟩ := ht.exists_to hb hmem
        obtain ⟨rfl, -⟩ := reference_eq_some_iff.mp hid
        rw [findNode_id hn] at hfront
        exact .inr ⟨[], _, id, w, w', .stay _ w, .step hid hn hrun htried hfront,
          List.cons_ne_nil _ _⟩
      · exact .inl (List.nodup_cons.mpr ⟨hmem, hnodup⟩)
    · exact .inr ⟨_, round, a, w', w'', .step hid hn hrun htried hfront, hround, hne⟩

theorem Traversal.comesBack (h : Traversal f ctx s start w visits stop w₁) {b : String} {n : Node}
    (hb : reference stop = some b) (hn : f.node? b = some n)
    (hlen : f.nodes.length ≤ visits.length) : ComesBack f ctx s start w := by
  refine (h.nodup_or_comesBack hb).resolve_left fun hnodup => ?_
  -- Distinct places are no more than there are nodes.
  have hsub : visits.map (·.node.id) ++ [b] ⊆ Graph.ids f.nodes := by
    intro a ha
    rcases List.mem_append.mp ha with ha | ha
    · obtain ⟨v, hv, rfl⟩ := List.mem_map.mp ha
      exact List.mem_map_of_mem (h.node_mem v hv)
    · rw [List.mem_singleton.mp ha, ← findNode_id hn]
      exact List.mem_map_of_mem (mem_of_findNode hn)
  have hle := (List.subperm_of_subset hnodup hsub).length_le
  rw [List.length_append, List.length_map, List.length_singleton, Graph.ids, List.length_map] at hle
  omega

/-! ## Where the guard stops -/

/-- Driving the execution ends it, and the last entry of its history tells of a loop. -/
def StoppedAsLoop (f : Funnel) (e : Execution) (lead : Lead) (now : Calendar.Stamp)
    (s : Surroundings σ) (w : World σ) : Prop :=
  ∃ (passed : List Json.Fields) (n : Node) (attempts : List Attempt),
    (processExecution e (some f) (some lead) now).EndsWith s w (.ok .completed) attempts
      (w.database.change e.id (·.ended
        (e.history ++ passed ++ [n.told "loop_detected" now])))

theorem Action.EndsWith.unique {α : Type} {x : Action σ α} {answer answer' : Except Failure α}
    {attempts attempts' : List Attempt} {db db' : Database}
    (h : x.EndsWith s w answer attempts db) (h' : x.EndsWith s w answer' attempts' db') :
    answer = answer' ∧ db = db' := by
  obtain ⟨w₁, hrun, -, rfl⟩ := h
  obtain ⟨w₂, hrun', -, rfl⟩ := h'
  obtain ⟨rfl, rfl⟩ := Prod.mk.inj (hrun.symm.trans hrun')
  exact ⟨rfl, rfl⟩

theorem ExecutionRow.ended_injective {db : Database} {row : ExecutionRow} {id : String}
    (hr : row ∈ db.executions) (hid : row.id = id) {history history' : List Json.Fields}
    (h : db.change id (·.ended history) = db.change id (·.ended history')) :
    history = history' := by
  have hmem : row.ended history ∈ (db.change id (·.ended history')).executions := by
    rw [← h]
    exact Database.mem_change.mpr (.inl ⟨row, hr, hid, rfl⟩)
  rcases Database.mem_change.mp hmem with ⟨row', -, -, heq⟩ | ⟨-, hne⟩
  · exact ExecutionRow.historyJson_injective (congrArg ExecutionRow.history heq)
  · exact absurd hid hne

section
variable {e : Execution} {lead : Lead} {now : Calendar.Stamp}

/-- The answer of a walk that came to an end tells how. -/
theorem departure_eq {j : Journey} {history : List Json.Fields} {d : Departure}
    {attempts : List Attempt} {db : Database}
    (hwalk : (walk f ⟨e, lead, now⟩ s.policy.bound 0 e.currentNodeId e.history).run s w
      = (.ok (j, history), w₁))
    (h : (processExecution e (some f) (some lead) now).EndsWith s w (.ok d) attempts db) :
    d = j.departure := by
  obtain ⟨w', hrun, -, -⟩ := h
  rw [run_processExecution, Action.run_bind_ok hwalk] at hrun
  cases hp : j.patch? now history with
  | none =>
    cases j with
    | failed n error =>
      obtain ⟨w₂, -, hsettle⟩ := @run_settle_failed σ s f ⟨e, lead, now⟩ history n error w₁
      exact (Except.ok.inj (Prod.mk.inj (hsettle.symm.trans hrun)).1).symm
    | ended | unreachable | looping | parked => cases hp
  | some p =>
    obtain ⟨w₀, -, hrest⟩ := @settle_writes σ s f ⟨e, lead, now⟩ history p j hp w₁
    obtain ⟨written, w₂, hwrite⟩ : ∃ written w₂,
        (Store.updateExecution e.id p).run s w₀ = (written, w₂) := ⟨_, _, rfl⟩
    obtain ⟨w₃, -, hsettle⟩ := hrest _ _ hwrite
    have hanswer := (Prod.mk.inj (hsettle.symm.trans hrun)).1
    cases written with
    | error cause => cases hanswer
    | ok reply => exact (Except.ok.inj hanswer).symm

theorem not_stoppedAsLoop {row : ExecutionRow} (hr : row ∈ w.database.executions)
    (hid : row.id = e.id) {entries : List Json.Fields} {attempts : List Attempt}
    (hends : (processExecution e (some f) (some lead) now).EndsWith s w (.ok .completed) attempts
      (w.database.change e.id (·.ended
        (e.history ++ visits.map (Visit.entry now) ++ entries))))
    (hentries : ∀ entry ∈ entries,
      Json.Fields.get? entry "outcome" ≠ some (.str "loop_detected")) :
    ¬ StoppedAsLoop f e lead now s w := by
  rintro ⟨passed, n, attempts', hstopped⟩
  -- The rows are the same, and so are the histories; but no entry of the one tells of a loop.
  have hhistory := ExecutionRow.ended_injective hr hid (hstopped.unique hends).2
  rw [List.append_assoc, List.append_assoc] at hhistory
  have hmem : n.told "loop_detected" now
      ∈ visits.map (Visit.entry now) ++ entries := by
    rw [← List.append_cancel_left hhistory]
    exact List.mem_append_right _ (List.mem_singleton_self _)
  rcases List.mem_append.mp hmem with hvisit | hentry
  · obtain ⟨v, -, hv⟩ := List.mem_map.mp hvisit
    have houtcome := congrArg (Json.Fields.get? · "outcome") hv
    have hsame : some (Json.str "advanced") = some (.str "loop_detected") := houtcome
    rw [Option.some.injEq, Json.str.injEq] at hsame
    exact absurd hsame (by decide)
  · exact hentries _ hentry rfl

/-- An execution is stopped as a loop exactly if a traversal of as many nodes as the bound admits
stands at another one. -/
theorem stoppedAsLoop_iff {row : ExecutionRow} (hkeyed : w.database.Keyed)
    (hr : row ∈ w.database.executions) (hload : row.load = .ok e)
    (hclock : Calendar.inRange s.databaseClock.instant = true)
    (hs : ∀ o, (s.interrupt .updateExecution o).1 = none) :
    StoppedAsLoop f e lead now s w ↔ ∃ visits stop w₁ id n,
      Traversal f ⟨e, lead, now⟩ s e.currentNodeId w visits stop w₁ ∧
        visits.length = s.policy.bound ∧ reference stop = some id ∧ f.node? id = some n := by
  have hid : row.id = e.id := (ExecutionRow.ids_of_load hload).1.symm
  constructor
  · intro hstopped
    obtain ⟨visits, stop, w₁, ht, hle, hhalts⟩ :=
      exists_traversal f ⟨e, lead, now⟩ s e.currentNodeId w s.policy.bound
    cases hnext : reference stop with
    | none =>
      have hended := process_ended hkeyed hr hload hclock hs ht hle hnext
      rw [← List.append_nil (e.history ++ _)] at hended
      exact absurd hstopped (not_stoppedAsLoop hr hid hended (by simp))
    | some id =>
      cases hn : f.node? id with
      | none =>
        have hended := process_unreachable hkeyed hr hload hclock hs ht hle hnext hn
        refine absurd hstopped (not_stoppedAsLoop hr hid hended ?_)
        rw [List.forall_mem_singleton]
        show some (Json.str "unreachable") ≠ some (.str "loop_detected")
        rw [Ne, Option.some.injEq, Json.str.injEq]
        decide
      | some n =>
        rcases Nat.lt_or_eq_of_le hle with hlt | heq
        · -- the node is run, and the execution is parked, or driving it fails
          exfalso
          obtain ⟨passed, m, attempts, hends⟩ := hstopped
          have hwalk := run_walk_of_bounded ht hlt hnext hn
          rcases hrun : (Step.perform ⟨e, lead, now⟩ n).run s w₁ with ⟨cause | result, w₂⟩
          · cases (hends.unique (process_broke ht hlt hnext hn hrun)).1
          · rw [hrun] at hwalk
            cases result with
            | failed error retryable => cases departure_eq hwalk hends
            | suspended node resumeAt => cases departure_eq hwalk hends
            | advanced next sent => exact hhalts hlt id n hnext hn next sent w₂ hrun
        · exact ⟨visits, stop, w₁, id, n, ht, heq, hnext, hn⟩
  · rintro ⟨visits, stop, w₁, id, n, ht, hlen, hnext, hn⟩
    exact ⟨_, n, _, process_looping hkeyed hr hload hclock hs ht hlen hnext hn⟩

end

/-! ## The guard is exact -/

theorem Endless.exists_at (h : Endless f ctx s start w) (k : Nat) :
    ∃ visits stop w₁ id n, Traversal f ctx s start w visits stop w₁ ∧ visits.length = k ∧
      reference stop = some id ∧ f.node? id = some n := by
  obtain ⟨visits, stop, w₁, ht, hlen⟩ := h (k + 1)
  rw [← List.take_append_drop k visits] at ht
  obtain ⟨mid, w', hfront, hrest⟩ := ht.split
  have hfrontLen : (visits.take k).length = k := List.length_take_of_le (by omega)
  cases hdrop : visits.drop k with
  | nil =>
    have hrestLen := List.length_drop (i := k) (l := visits)
    rw [hdrop, hlen, List.length_nil] at hrestLen
    omega
  | cons v rest =>
    rw [hdrop] at hrest
    cases hrest with
    | step hid hn => exact ⟨_, mid, w', _, _, hfront, hfrontLen, hid, hn⟩

theorem memoryless_of_accepting (hdeliver : ∀ m o, (s.deliver m o).1.refusal = none)
    (hinterrupt : ∀ c o, (s.interrupt c o).1 = none) : Memoryless s where
  refusal m o o' := (hdeliver m o).trans (hdeliver m o').symm
  interrupt c o o' := (hinterrupt c o).trans (hinterrupt c o').symm

/-- In a funnel with no more nodes than one pass may visit, an execution is stopped as a loop
exactly if its traversal has no end, provided that the outside keeps no memory; so it is if every
message is accepted and no call is interrupted. No execution of a funnel without cycles is stopped,
whatever becomes of messages and calls. -/
theorem loopGuard_exact {e : Execution} {lead : Lead} {now : Calendar.Stamp} {row : ExecutionRow}
    (hkeyed : w.database.Keyed) (hr : row ∈ w.database.executions) (hload : row.load = .ok e)
    (hclock : Calendar.inRange s.databaseClock.instant = true)
    (hs : ∀ o, (s.interrupt .updateExecution o).1 = none)
    (hsmall : f.nodes.length ≤ s.policy.bound) :
    (Memoryless s → (StoppedAsLoop f e lead now s w ↔
      Endless f ⟨e, lead, now⟩ s e.currentNodeId w)) ∧
    (f.Acyclic → ¬ StoppedAsLoop f e lead now s w) := by
  have hstopped : StoppedAsLoop f e lead now s w ↔ _ := stoppedAsLoop_iff hkeyed hr hload hclock hs
  have hcomesBack : StoppedAsLoop f e lead now s w →
      ComesBack f ⟨e, lead, now⟩ s e.currentNodeId w := by
    intro h
    obtain ⟨visits, stop, w₁, id, n, ht, hlen, hid, hn⟩ := hstopped.mp h
    exact ht.comesBack hid hn (by omega)
  refine ⟨fun hm => ⟨fun h => (hcomesBack h).endless hm, fun h => ?_⟩, fun hacyclic h => ?_⟩
  · exact hstopped.mpr (h.exists_at s.policy.bound)
  · exact (hcomesBack h).not_acyclic hacyclic

namespace Newsletter

/-- The reminder leads back to the letter. -/
def reminderOfLetter : Node :=
  ⟨⟨"reminder", .origin⟩,
    .whatsApp { WhatsAppData.blank with content := some "Read on" } (some Letters.letter.id)⟩

def ring : Funnel := { Letters.funnel with nodes := [Letters.letter, reminderOfLetter] }

/-- The letter is sent and the reminder is not, since the lead has no phone; then it is the letter's
turn again, and so on. -/
theorem ring_endless :
    Endless ring ⟨execution, lead, Newsletter.start⟩ surroundings (some "letter") world := by
  have hletter : (Step.perform ⟨execution, lead, Newsletter.start⟩ Letters.letter).run surroundings
      world = (.ok (.advanced (some "reminder") true),
        { world with attempts := [⟨.email lead.email "News" "Welcome", false⟩] }) := by
    cbv
  obtain ⟨w', hreminder, hattempts⟩ : ∃ w',
      (Step.perform ⟨execution, lead, Newsletter.start⟩ reminderOfLetter).run surroundings
          { world with attempts := [⟨.email lead.email "News" "Welcome", false⟩] }
        = (.ok (.advanced (some "letter") false), w') ∧
      w'.attempts = [⟨.email lead.email "News" "Welcome", false⟩] := ⟨_, rfl, rfl⟩
  have hround : Traversal ring ⟨execution, lead, Newsletter.start⟩ surroundings (some "letter")
      world [⟨Letters.letter, [⟨.email lead.email "News" "Welcome", false⟩]⟩,
        ⟨reminderOfLetter, []⟩] (some "letter") w' :=
    .step rfl rfl hletter rfl (.step rfl rfl hreminder hattempts (.stay _ _))
  exact ComesBack.endless (memoryless_of_accepting (fun _ _ => rfl) fun _ _ => rfl)
    ⟨[], _, "letter", world, w', .stay _ world, hround, List.cons_ne_nil _ _⟩

/-- Two nodes are the most that one pass admits. If they lead to each other, an execution that
begins with the letter is stopped, and its traversal has no end; if the reminder is the last node,
it is not stopped. -/
theorem ring_stopped_and_chain_not :
    ((world.database.Keyed ∧ row ∈ world.database.executions ∧ row.load = .ok execution ∧
        Calendar.inRange surroundings.databaseClock.instant = true ∧
        ∀ o, (surroundings.interrupt .updateExecution o).1 = none) ∧
      (ring.nodes.length ≤ surroundings.policy.bound ∧ Memoryless surroundings) ∧
      Letters.funnel.nodes.length ≤ surroundings.policy.bound ∧ Letters.funnel.Acyclic) ∧
    StoppedAsLoop ring execution lead Newsletter.start surroundings world ∧
    Endless ring ⟨execution, lead, Newsletter.start⟩ surroundings (some "letter") world ∧
    ¬ StoppedAsLoop Letters.funnel execution lead Newsletter.start surroundings world := by
  have hr : row ∈ world.database.executions := List.mem_singleton_self row
  have hclock : Calendar.inRange surroundings.databaseClock.instant = true := by decide
  have hs : ∀ o, (surroundings.interrupt .updateExecution o).1 = none := fun _ => rfl
  have hm : Memoryless surroundings := memoryless_of_accepting (fun _ _ => rfl) fun _ _ => rfl
  have hsmall : ring.nodes.length ≤ surroundings.policy.bound := by decide
  have hsmall' : Letters.funnel.nodes.length ≤ surroundings.policy.bound := by decide
  refine ⟨⟨⟨keyed, hr, load_row, hclock, hs⟩, ⟨hsmall, hm⟩, hsmall', Letters.acyclic⟩, ?_,
    ring_endless, ?_⟩
  · exact ((loopGuard_exact keyed hr load_row hclock hs hsmall).1 hm).mpr ring_endless
  · exact (loopGuard_exact keyed hr load_row hclock hs hsmall').2 Letters.acyclic

end Newsletter

end Nurture
