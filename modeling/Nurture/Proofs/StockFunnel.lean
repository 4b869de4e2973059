import Nurture.Proofs.FunnelTable

/-!
  The stock funnel is in order

  The identifiers of its nodes are given out one after the other, so they are told apart; and it is
  read from its row as it was kept.
-/

namespace Nurture

variable {σ : Type}

theorem Naming.name_injective (naming : Naming) (kind : Kind) :
    Function.Injective (naming.name kind) :=
  naming.distinct kind

namespace Stock

theorem texts_whole : (Text.isWhole (funnel "" "" "" "" "").name = true ∧
      1 ≤ (funnel "" "" "" "" "").name.length) ∧
    Text.isWhole (funnel "" "" "" "" "").trigger = true ∧
      1 ≤ (funnel "" "" "" "" "").trigger.length := by
  decide

variable (naming : Naming) (k : Nat) (id : String)

/-- The funnel is such as its check lets through, whatever it is kept under. -/
theorem draft_proper : ((draft naming k).withId id).Proper where
  name := texts_whole.1
  trigger := texts_whole.2
  nodes := by
    intro n hn
    simp only [draft, funnel, nodes, List.mem_cons, List.not_mem_nil, or_false] at hn
    rcases hn with rfl | rfl | rfl
    · exact ⟨naming.whole _ _, naming.ne_empty _ _, nofun, nofun⟩
    · exact ⟨naming.whole _ _, naming.ne_empty _ _, nofun, trivial⟩
    · exact ⟨naming.whole _ _, naming.ne_empty _ _, nofun, trivial⟩
  graph := by
    have hids : Graph.ids ((draft naming k).withId id).nodes
        = [naming.name .stock (k + 2), naming.name .stock (k + 3), naming.name .stock (k + 4)] :=
      rfl
    refine ⟨?_, ?_, ?_⟩
    · rw [hids]
      simp [(naming.name_injective .stock).eq_iff]
    · rw [hids]
      intro start hstart
      cases hstart
      exact List.mem_cons_self
    · rw [hids]
      intro n hn
      simp only [draft, funnel, nodes, List.mem_cons, List.not_mem_nil, or_false] at hn
      rcases hn with rfl | rfl | rfl <;>
        simp [Node.successors, Task.successors, reference, naming.ne_empty]

theorem draft_load (createdAt : Int) :
    (((draft naming k).withId id).toRow createdAt).load = .ok ((draft naming k).withId id) := by
  rw [FunnelRow.load_toRow (draft_proper naming k id), Funnel.dumped_of_isFinite (by rfl)]

end Stock

end Nurture
