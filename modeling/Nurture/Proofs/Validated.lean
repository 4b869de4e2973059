import Nurture.Proofs.Results
import Nurture.Store.Funnels

/-!
  Validated funnels

  What holds of every funnel that has passed its check: its graph has no fault,
  and the identifiers of its nodes are neither empty nor do they hold halves of
  pairs. A funnel that is read from the store has passed the check again, whatever
  was saved.
-/

namespace Nurture

open Validation Validation.Checked

/-- What holds of every funnel that has passed its check. -/
structure Funnel.Validated (f : Funnel) : Prop where
  graph : f.WellFormed
  id_ne_empty : ∀ n ∈ f.nodes, n.id ≠ ""
  id_whole : ∀ n ∈ f.nodes, Text.isWhole n.id = true

theorem NodeFrame.id_of_checkFields {fs : Json.Fields} {frame : NodeFrame}
    (h : NodeFrame.checkFields fs = good frame) :
    fs.get? "id" = some (.str frame.id) ∧ frame.id ≠ "" ∧ Text.isWhole frame.id = true := by
  obtain ⟨g, position, hg, -, rfl⟩ := applied_eq_good_iff.mp h
  obtain ⟨id, hid, rfl⟩ := mapped_eq_good_iff.mp hg
  obtain ⟨j, hget, hj⟩ := required_eq_good_iff.mp hid
  obtain ⟨rfl, hwhole, hlen⟩ := textOf_eq_good_iff.mp hj
  refine ⟨hget, ?_, hwhole⟩
  rintro rfl
  exact absurd hlen (by decide)

theorem Node.id_of_checkFields {kind : NodeKind} {fs : Json.Fields} {n : Node}
    (h : Node.checkFields kind fs = good n) :
    fs.get? "id" = some (.str n.id) ∧ n.id ≠ "" ∧ Text.isWhole n.id = true := by
  obtain ⟨g, task, hg, -, rfl⟩ := applied_eq_good_iff.mp h
  obtain ⟨g', _, hg', -, rfl⟩ := applied_eq_good_iff.mp hg
  obtain ⟨frame, hframe, rfl⟩ := mapped_eq_good_iff.mp hg'
  exact NodeFrame.id_of_checkFields hframe

theorem Node.id_of_check {j : Json} {n : Node} (h : Node.check j = good n) :
    j.get? "id" = some (.str n.id) ∧ n.id ≠ "" ∧ Text.isWhole n.id = true := by
  unfold Node.check at h
  split at h
  · split at h
    · simp at h
    · split at h
      · exact Node.id_of_checkFields (within_eq_good_iff.mp h)
      · simp at h
  · simp at h

theorem Node.id_of_listOf {j : Json} {ns : List Node} (h : listOf Node.check j = good ns) :
    ∀ n ∈ ns, n.id ≠ "" ∧ Text.isWhole n.id = true := by
  obtain ⟨items, -, hs⟩ := listOf_eq_good_iff.mp h
  intro n hn
  obtain ⟨j, -, hj⟩ := exists_mem_of_forall₂ hs.flip hn
  exact (Node.id_of_check hj).2

/-- What the check of a funnel comes to: every field passes its own, and the graph is
well-formed. -/
theorem Funnel.checkFields_eq_good_iff {fs : Json.Fields} {draft : Draft Funnel} :
    Funnel.checkFields fs = good draft ↔ ∃ id name trigger isActive nodes start,
      Draft.checkId fs = good id ∧ required fs "name" (textOf 1) = good name ∧
      required fs "trigger" (textOf 1) = good trigger ∧
      defaulted fs "is_active" true boolean = good isActive ∧
      defaulted fs "nodes" [] (listOf Node.check) = good nodes ∧
      optional fs "start_node_id" text = good start ∧ Graph.WellFormed nodes start ∧
      draft = ⟨id, fun id => ⟨id, name, trigger, isActive, nodes, start⟩⟩ := by
  unfold Funnel.checkFields
  constructor
  · intro h
    obtain ⟨draft', hfields, h⟩ := andThen_eq_good_iff.mp h
    obtain ⟨g, start, hg, hstart, rfl⟩ := applied_eq_good_iff.mp hfields
    obtain ⟨g₄, nodes, hg₄, hnodes, rfl⟩ := applied_eq_good_iff.mp hg
    obtain ⟨g₃, isActive, hg₃, hactive, rfl⟩ := applied_eq_good_iff.mp hg₄
    obtain ⟨g₂, trigger, hg₂, htrigger, rfl⟩ := applied_eq_good_iff.mp hg₃
    obtain ⟨g₁, name, hg₁, hname, rfl⟩ := applied_eq_good_iff.mp hg₂
    obtain ⟨id, hid, rfl⟩ := mapped_eq_good_iff.mp hg₁
    split at h
    · simp at h
    · rename_i hfault
      cases h
      exact ⟨id, name, trigger, isActive, nodes, start, hid, hname, htrigger, hactive, hnodes,
        hstart, Graph.fault?_eq_none_iff.mp hfault, rfl⟩
  · rintro ⟨id, name, trigger, isActive, nodes, start, hid, hname, htrigger, hactive, hnodes,
      hstart, hgraph, rfl⟩
    rw [hid, hname, htrigger, hactive, hnodes, hstart]
    refine andThen_eq_good_iff.mpr ⟨_, rfl, ?_⟩
    have hfault : (Funnel.mk "" name trigger isActive nodes start).graphFault? = none :=
      Graph.fault?_eq_none_iff.mpr hgraph
    simp only [hfault]

theorem Funnel.validated_of_checkFields {fs : Json.Fields} {draft : Draft Funnel}
    (h : Funnel.checkFields fs = good draft) (id : String) : (draft.withId id).Validated := by
  obtain ⟨-, name, trigger, isActive, nodes, start, -, -, -, -, hnodes, -, hgraph, rfl⟩ :=
    Funnel.checkFields_eq_good_iff.mp h
  have hids : ∀ n ∈ nodes, n.id ≠ "" ∧ Text.isWhole n.id = true := by
    rcases defaulted_eq_good_iff.mp hnodes with ⟨j, -, hj⟩ | ⟨-, rfl⟩
    · exact Node.id_of_listOf hj
    · simp
  exact ⟨hgraph, fun n hn => (hids n hn).1, fun n hn => (hids n hn).2⟩

section
variable {r : FunnelRow} {f : Funnel} (h : r.load = .ok f)
include h

theorem FunnelRow.validated_of_load : f.Validated := by
  unfold FunnelRow.load at h
  obtain ⟨draft, hdraft, rfl⟩ := map_eq_ok_iff.mp (mapError_eq_ok_iff.mp h)
  exact Funnel.validated_of_checkFields (toExcept_eq_ok_iff.mp hdraft) _

/-- A funnel that is read from the store has the identifier of its row, and nodes that are read
from the data in it. -/
theorem FunnelRow.parts_of_load :
    f.id = r.id ∧ List.Forall₂ (fun j n => Node.check j = good n) r.nodes f.nodes := by
  unfold FunnelRow.load at h
  obtain ⟨draft, hdraft, rfl⟩ := map_eq_ok_iff.mp (mapError_eq_ok_iff.mp h)
  obtain ⟨id, name, trigger, isActive, nodes, start, hid, -, -, -, hnodes, -, -, rfl⟩ :=
    Funnel.checkFields_eq_good_iff.mp (toExcept_eq_ok_iff.mp hdraft)
  -- The row brings an identifier, so none is given to it.
  obtain rfl : some r.id = id := good.inj hid
  refine ⟨rfl, ?_⟩
  rcases defaulted_eq_good_iff.mp hnodes with ⟨j, hj, hcheck⟩ | ⟨hnone, -⟩
  · obtain rfl : .arr r.nodes = j := Option.some.inj hj
    exact each_eq_good_iff.mp hcheck
  · cases hnone

theorem FunnelRow.id_of_load : f.id = r.id := (FunnelRow.parts_of_load h).1

end

namespace Funnel.Validated

variable {f : Funnel} {n : Node}

theorem id_ne_empty_of_mem_ids (hf : f.Validated) {id : String} (h : id ∈ Graph.ids f.nodes) :
    id ≠ "" := by
  obtain ⟨n, hn, rfl⟩ := List.mem_map.mp h
  exact hf.id_ne_empty n hn

theorem id_whole_of_mem_ids (hf : f.Validated) {id : String} (h : id ∈ Graph.ids f.nodes) :
    Text.isWhole id = true := by
  obtain ⟨n, hn, rfl⟩ := List.mem_map.mp h
  exact hf.id_whole n hn

end Funnel.Validated

end Nurture
