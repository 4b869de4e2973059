import Nurture.Proofs.ExecutionTable
import Nurture.Proofs.Operations
import Nurture.Proofs.Validated

/-!
  Graphs in the store

  The nodes of a funnel are kept as data, and are checked again whenever they are read. A row that
  is saved over keeps the data it holds if they count as the same as those that are given: numbers
  are compared by value, so a node may be kept in another form than it was given in. Texts count
  as the same only if they are, so whatever is read has nodes of the same
  identifiers in the same order (`FunnelRow.Keeps.ids_eq`).
-/

namespace Nurture

open Validation Validation.Checked

/-! ## Data that count as the same -/

namespace Json

theorem eq_of_same_str {s : String} {j : Json} (h : (str s).same j = true) : j = str s := by
  cases j <;> simp [same, sameScalar, sameNumber, counted] at h
  rw [h]

theorem get?_of_sameFields {fs others : Fields} {key : String} {a : Json}
    (h : sameFields fs others = true) (ha : Fields.get? fs key = some a) :
    ∃ b, others.get? key = some b ∧ a.same b = true := by
  induction fs with
  | nil => cases ha
  | cons field fs ih =>
    rw [sameFields, Bool.and_eq_true] at h
    rw [Fields.get?_cons] at ha
    split at ha
    · rename_i hkey
      obtain rfl := Option.some.inj ha
      rw [hkey] at h
      cases hb : others.get? key with
      | none => simp [hb] at h
      | some b => exact ⟨b, rfl, by simpa [hb] using h.1⟩
    · exact ih h.2 ha

theorem get?_of_same {j other : Json} {key s : String} (h : j.same other = true)
    (hs : j.get? key = some (str s)) : other.get? key = some (str s) := by
  cases j
  case obj fs =>
    cases other
    case obj others =>
      rw [same, Bool.and_eq_true] at h
      obtain ⟨b, hb, hsame⟩ := get?_of_sameFields h.2 hs
      rw [eq_of_same_str hsame] at hb
      exact hb
    all_goals simp [same, sameScalar, sameNumber, counted] at h
  all_goals cases hs

theorem forall₂_of_sameItems {items others : List Json} (h : sameItems items others = true) :
    List.Forall₂ (fun a b => a.same b = true) items others := by
  induction items generalizing others with
  | nil =>
    cases others with
    | nil => exact .nil
    | cons b others => simp [sameItems] at h
  | cons a items ih =>
    cases others with
    | nil => simp [sameItems] at h
    | cons b others =>
      rw [sameItems, Bool.and_eq_true] at h
      exact .cons h.1 (ih h.2)

end Json

/-! ## Rows that keep a funnel -/

theorem Node.get?_toJson (n : Node) : n.toJson.get? "id" = some (.str n.id) := rfl

/-- The data are those of the node, or count as the same. -/
def Node.KeptAs (n : Node) (j : Json) : Prop := j = n.toJson ∨ j.same n.toJson = true

theorem Node.KeptAs.id_eq {n n' : Node} {j : Json} (h : n.KeptAs j)
    (hread : Node.check j = good n') : n'.id = n.id := by
  have hid := (Node.id_of_check hread).1
  have hsame : n.toJson.get? "id" = some (.str n'.id) := by
    rcases h with rfl | h
    · exact hid
    · exact Json.get?_of_same h hid
  rw [Node.get?_toJson] at hsame
  exact (Json.str.inj (Option.some.inj hsame)).symm

/-- The row is that of the funnel, whose nodes are kept in it. -/
structure FunnelRow.Keeps (r : FunnelRow) (f : Funnel) : Prop where
  id_eq : r.id = f.id
  nodes : List.Forall₂ Node.KeptAs f.nodes r.nodes

/-- What is read from a row has the nodes of the funnel that is kept in it, by their identifiers. -/
theorem FunnelRow.Keeps.ids_eq {r : FunnelRow} {f g : Funnel} (h : r.Keeps f)
    (hload : r.load = .ok g) : Graph.ids g.nodes = Graph.ids f.nodes := by
  obtain ⟨-, hread⟩ := FunnelRow.parts_of_load hload
  have hkept := h.nodes
  clear h hload
  revert hkept
  generalize f.nodes = nodes
  generalize r.nodes = items at hread
  generalize g.nodes = nodes' at hread
  intro hkept
  induction hkept generalizing nodes' with
  | nil =>
    cases hread
    rfl
  | @cons n j nodes items hn _ ih =>
    cases hread with
    | @cons _ n' _ nodes' hj hread =>
      rw [Graph.ids, Graph.ids, List.map_cons, List.map_cons, hn.id_eq hj]
      exact congrArg _ (ih _ hread)

/-! ## Saving a funnel -/

theorem Funnel.kept_toJson (f : Funnel) :
    List.Forall₂ Node.KeptAs f.nodes (f.nodes.map Node.toJson) := by
  rw [List.forall₂_map_right_iff]
  exact List.forall₂_same.mpr fun n _ => .inl rfl

theorem Funnel.kept_of_same {f : Funnel} {items : List Json}
    (h : (Json.arr items).same (.arr (f.nodes.map Node.toJson)) = true) :
    List.Forall₂ Node.KeptAs f.nodes items := by
  rw [Json.same] at h
  have hsame := Json.forall₂_of_sameItems h
  rw [List.forall₂_map_right_iff] at hsame
  exact hsame.flip.imp fun n j hj => .inr hj

theorem FunnelRow.replaced_keeps (r : FunnelRow) (f : Funnel) : (r.replaced f).Keeps f := by
  refine ⟨rfl, ?_⟩
  unfold FunnelRow.replaced keptData
  dsimp only
  by_cases hsame : (Json.arr r.nodes).same (.arr (f.nodes.map Node.toJson)) = true
  · simp only [hsame, if_true]
    exact Funnel.kept_of_same hsame
  · simp only [hsame]
    exact f.kept_toJson

theorem FunnelRow.keeps_of_not_differs {r : FunnelRow} {f : Funnel} (hid : r.id = f.id)
    (h : r.differs f = false) : r.Keeps f := by
  refine ⟨hid, Funnel.kept_of_same ?_⟩
  unfold FunnelRow.differs at h
  rw [Bool.or_eq_false_iff, Bool.not_eq_false'] at h
  exact h.2

theorem Store.funnelToWrite_keeps {held row? : Option FunnelRow} {f : Funnel} {now : Calendar.Stamp}
    (hheld : ∀ r, held = some r → r.id = f.id)
    (h : Store.funnelToWrite held f now = .ok row?) : ∃ r, (row?.or held) = some r ∧ r.Keeps f := by
  unfold Store.funnelToWrite at h
  dsimp only at h
  split at h
  · cases h
  · cases held with
    | none =>
      obtain ⟨-, -, h⟩ := bind_eq_ok_iff.mp h
      obtain ⟨time, -, h⟩ := bind_eq_ok_iff.mp h
      cases h
      exact ⟨_, rfl, rfl, f.kept_toJson⟩
    | some row =>
      dsimp only at h
      split at h
      · obtain ⟨-, -, h⟩ := bind_eq_ok_iff.mp h
        obtain ⟨-, -, h⟩ := bind_eq_ok_iff.mp h
        cases h
        exact ⟨_, rfl, row.replaced_keeps f⟩
      · rename_i hsame
        cases h
        exact ⟨row, rfl, FunnelRow.keeps_of_not_differs (hheld row rfl) (by simpa using hsame)⟩

variable {σ : Type} {s : Surroundings σ} {w w₁ : World σ} {draft : Draft Funnel} {f g : Funnel}

namespace Store

open Nurture.Action

/-- Keeps a funnel that has its identifier. -/
def keepFunnel (f : Funnel) : Action σ Funnel := do
  let held ← funnelRow? f.id
  let now ← databaseClock
  let row? ← ofExcept (funnelToWrite held f now)
  match row? with
  | some row => modifyDatabase fun db => { db with funnels := putRow (·.id) row db.funnels }
  | none => pure ()
  note [.funnelSaved held.isNone f.id f.name]
  return f

/-- What saving comes to, apart from what may come in its way. -/
def saveDraft (draft : Draft Funnel) : Action σ Funnel :=
  match draft.id with
  | some id => pure id >>= fun id => keepFunnel (draft.withId id)
  | none =>
    issue .funnel (·.funnels) (fun n => { n with funnels := n.funnels + 1 }) >>=
      fun id => keepFunnel (draft.withId id)

theorem saveFunnel_eq (draft : Draft Funnel) :
    (saveFunnel draft : Action σ (Reply Funnel)) = guarded .saveFunnel (saveDraft draft) := rfl

theorem keepFunnel_keeps (h : (keepFunnel f).run s w = (.ok g, w₁)) :
    g = f ∧ ∃ r ∈ w₁.database.funnels, r.Keeps f := by
  unfold keepFunnel at h
  obtain ⟨held, w₂, hheld, h⟩ := run_bind_eq_ok h
  obtain ⟨id, hid, hheld⟩ := run_ofExcept_bind_eq_ok hheld
  obtain ⟨now, w₃, hnow, h⟩ := run_bind_eq_ok h
  obtain ⟨row?, hrow, h⟩ := run_ofExcept_bind_eq_ok h
  obtain rfl : f.id = id := (Column.whole_eq_ok_iff.mp hid).2.symm
  cases hheld
  cases hnow
  have hid : ∀ r, (w.database.funnels.find? fun r => r.id == f.id) = some r → r.id = f.id := by
    intro r hr
    simpa using List.find?_some hr
  obtain ⟨r, hr, hkeeps⟩ := funnelToWrite_keeps hid hrow
  cases row? with
  | some row =>
    cases h
    obtain rfl : row = r := Option.some.inj hr
    exact ⟨rfl, row, mem_putRow, hkeeps⟩
  | none =>
    cases h
    exact ⟨rfl, r, List.mem_of_find?_eq_some hr, hkeeps⟩

/-- A funnel that was saved is kept in a row. -/
theorem saveFunnel_keeps (h : (saveFunnel draft).run s w = (.ok (.own f), w₁)) :
    (∃ id, f = draft.withId id) ∧ ∃ r ∈ w₁.database.funnels, r.Keeps f := by
  rw [saveFunnel_eq] at h
  obtain ⟨o, h⟩ := run_guarded_eq_own h
  obtain ⟨id, w₂, h⟩ : ∃ id w₂, (keepFunnel (draft.withId id)).run s w₂ = (.ok f, w₁) := by
    unfold saveDraft at h
    cases hid : draft.id with
    | none | some =>
      rw [hid] at h
      obtain ⟨id, w₂, -, h⟩ := run_bind_eq_ok h
      exact ⟨id, w₂, h⟩
  obtain ⟨rfl, hkeeps⟩ := keepFunnel_keeps h
  exact ⟨⟨id, rfl⟩, hkeeps⟩

end Store

end Nurture
