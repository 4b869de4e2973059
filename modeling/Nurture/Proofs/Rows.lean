import Mathlib.Data.List.Forall2
import Mathlib.Data.List.Nodup
import Nurture.Store.Rows

/-!
  Rows that are found by a key

  A row is put in the place of the one with its identifier, or at the end, and rows are looked for
  by a key that no two of them share. Tables whose rows are related one by one are read in the same
  order.
-/

namespace Nurture

variable {α β : Type} {id key : α → String} {row r : α} {rows : List α}

theorem mem_putRow_iff : r ∈ putRow id row rows ↔ r = row ∨ r ∈ rows ∧ id r ≠ id row := by
  unfold putRow
  split
  · rename_i hany
    obtain ⟨r₀, hr₀, hid₀⟩ := List.any_eq_true.mp hany
    rw [List.mem_map]
    constructor
    · rintro ⟨r', hr', rfl⟩
      by_cases hid : id r' = id row
      · simp [hid]
      · simp [hid, hr']
    · rintro (rfl | ⟨hr, hid⟩)
      · exact ⟨r₀, hr₀, if_pos hid₀⟩
      · exact ⟨r, hr, by simp [hid]⟩
  · rename_i hany
    have hne : ∀ r ∈ rows, id r ≠ id row := fun r hr hid =>
      hany (List.any_eq_true.mpr ⟨r, hr, by simp [hid]⟩)
    rw [List.mem_append, List.mem_singleton]
    constructor
    · rintro (hr | rfl)
      · exact .inr ⟨hr, hne r hr⟩
      · exact .inl rfl
    · rintro (rfl | ⟨hr, -⟩)
      · exact .inr rfl
      · exact .inl hr

theorem mem_putRow : row ∈ putRow id row rows := mem_putRow_iff.mpr (.inl rfl)

theorem putRow_of_new (h : ∀ r ∈ rows, id r ≠ id row) : putRow id row rows = rows ++ [row] := by
  have hany : (rows.any fun r => id r == id row) = false :=
    List.any_eq_false.mpr fun r hr => by simpa using h r hr
  rw [putRow, hany]
  rfl

theorem putRow_of_mem (hr : r ∈ rows) (hid : id row = id r) :
    putRow id row rows = rows.map fun x => if id x = id r then row else x := by
  have hany : (rows.any fun x => id x == id row) = true :=
    List.any_eq_true.mpr ⟨r, hr, by simp [hid]⟩
  rw [putRow, if_pos hany]
  simp only [hid, beq_iff_eq]

theorem map_putRow {f : α → β} (hnodup : (rows.map id).Nodup) (hr : r ∈ rows) (hid : id row = id r)
    (hf : f row = f r) : (putRow id row rows).map f = rows.map f := by
  rw [putRow_of_mem hr hid, List.map_map]
  refine List.map_congr_left fun x hx => ?_
  by_cases hx' : id x = id r
  · obtain rfl := List.inj_on_of_nodup_map hnodup hx hr hx'
    simp [hf]
  · simp [hx']

theorem putRow_nodup (h : (rows.map id).Nodup) : ((putRow id row rows).map id).Nodup := by
  by_cases hold : ∃ r ∈ rows, id r = id row
  · obtain ⟨r, hr, hid⟩ := hold
    rwa [map_putRow h hr hid.symm hid.symm]
  · rw [putRow_of_new fun r hr hid => hold ⟨r, hr, hid⟩, List.map_append, List.map_singleton,
      ← List.concat_eq_append]
    exact h.concat fun hmem => hold (List.mem_map.mp hmem)

theorem find?_putRow : ((putRow id row rows).find? fun r => id r == id row) = some row := by
  cases hfind : (putRow id row rows).find? fun r => id r == id row with
  | none => simpa using List.find?_eq_none.mp hfind row mem_putRow
  | some r =>
    have hid : id r = id row := by simpa using List.find?_some hfind
    rcases mem_putRow_iff.mp (List.mem_of_find?_eq_some hfind) with rfl | ⟨-, hne⟩
    · rfl
    · exact absurd hid hne

theorem find?_key (hnodup : (rows.map key).Nodup) (hr : r ∈ rows) :
    (rows.find? fun x => key x == key r) = some r := by
  cases hfind : rows.find? fun x => key x == key r with
  | none => simpa using List.find?_eq_none.mp hfind r hr
  | some x =>
    have hkey : key x = key r := by simpa using List.find?_some hfind
    rw [List.inj_on_of_nodup_map hnodup (List.mem_of_find?_eq_some hfind) hr hkey]

/-- In which order rows stand makes no difference to what is found by a key. -/
theorem find?_perm {rows' : List α} (h : rows.Perm rows')
    (hnodup : (rows.map key).Nodup) (k : String) :
    (rows.find? fun r => key r == k) = rows'.find? fun r => key r == k := by
  cases hfind : rows'.find? fun r => key r == k with
  | none =>
    exact List.find?_eq_none.mpr fun r hr => List.find?_eq_none.mp hfind r (h.mem_iff.mp hr)
  | some r =>
    have hkey : key r = k := by simpa using List.find?_some hfind
    rw [← hkey]
    exact find?_key hnodup (h.mem_iff.mpr (List.mem_of_find?_eq_some hfind))

/-! ## Rows of two tables -/

/-- Related rows of the same times are put in the same order. -/
theorem forall₂_inOrder {P : α → β → Prop} {time : α → Int} {time' : β → Int} {rows' : List β}
    (h : List.Forall₂ P rows rows') (ht : ∀ a b, P a b → time' b = time a) :
    List.Forall₂ P (inOrder time rows) (inOrder time' rows') := by
  -- Both lists are the halves of a list of pairs, which is sorted by the time of either half.
  obtain ⟨pairs, hpairs, rfl, rfl⟩ : ∃ pairs : List (α × β), (∀ p ∈ pairs, P p.1 p.2) ∧
      pairs.map Prod.fst = rows ∧ pairs.map Prod.snd = rows' := by
    induction h with
    | nil => exact ⟨[], by simp, rfl, rfl⟩
    | @cons a b _ _ hab _ ih =>
      obtain ⟨pairs, hpairs, rfl, rfl⟩ := ih
      exact ⟨(a, b) :: pairs, List.forall_mem_cons.mpr ⟨hab, hpairs⟩, rfl, rfl⟩
  have hfst : inOrder time (pairs.map Prod.fst)
      = (inOrder (fun p => time p.1) pairs).map Prod.fst := by
    refine (List.map_mergeSort fun p _ q _ => ?_).symm
    rfl
  have hsnd : inOrder time' (pairs.map Prod.snd)
      = (inOrder (fun p => time p.1) pairs).map Prod.snd := by
    refine (List.map_mergeSort fun p hp q hq => ?_).symm
    rw [ht _ _ (hpairs p hp), ht _ _ (hpairs q hq)]
  rw [hfst, hsnd, List.forall₂_map_left_iff, List.forall₂_map_right_iff]
  exact List.forall₂_same.mpr fun p hp => hpairs p (mem_inOrder.mp hp)

theorem find?_forall₂ {P : α → β → Prop} {p : α → Bool} {q : β → Bool} {as : List α} {bs : List β}
    (h : List.Forall₂ P as bs) (hpq : ∀ a b, P a b → q b = p a) :
    Option.Rel P (as.find? p) (bs.find? q) := by
  induction h with
  | nil => exact .none
  | @cons a b _ _ hab _ ih =>
    rw [List.find?_cons, List.find?_cons, hpq a b hab]
    cases p a with
    | true => exact .some hab
    | false => exact ih

end Nurture
