import Nurture.Proofs.ZoneChanges

/-!
  Zones whose clocks are never changed

  A zone is constant if its clocks are as far from UTC at one instant as at any other. It may still
  be written with changes, but then each of them changes nothing, provided that they are in order
  (`changes_of_constant`). Its readings are instants moved by one distance, and instants are found
  from readings by moving them back (`exists_aheadBy`).
-/

namespace Nurture.Calendar.Zone

/-- Distances from UTC are of less than a day, and changes are listed in order. -/
def WellFormed : Zone → Prop
  | utc => True
  | fixed offset => -day < offset ∧ offset < day
  | regional _ initial changes =>
    (-day < initial ∧ initial < day) ∧ (∀ c ∈ changes, -day < c.offset ∧ c.offset < day) ∧
      changes.Pairwise (·.instant < ·.instant)

instance : (z : Zone) → Decidable z.WellFormed
  | utc => inferInstanceAs (Decidable True)
  | fixed _ => inferInstanceAs (Decidable (_ ∧ _))
  | regional _ _ _ => inferInstanceAs (Decidable (_ ∧ _ ∧ _))

/-- The zone's clocks are less than a day from UTC, at every instant and whatever they show. -/
structure WithinADay (z : Zone) : Prop where
  offsetAt_lt : ∀ t, -day < z.offsetAt t ∧ z.offsetAt t < day
  offsetOf_lt : ∀ r, -day < z.offsetOf r ∧ z.offsetOf r < day

section
variable {current : Int} {changes : List Change}

/-- Whatever the scans come to was in force before all changes or from one of them on. -/
theorem offsetAfter_mem (t : Int) :
    offsetAfter t current changes ∈ current :: changes.map Change.offset := by
  induction changes generalizing current with
  | nil => exact List.mem_cons_self
  | cons c rest ih =>
    unfold offsetAfter
    split
    · exact List.mem_cons_of_mem current ih
    · exact List.mem_cons_self

theorem offsetOfReading_mem (r : Reading) :
    offsetOfReading r current changes ∈ current :: changes.map Change.offset := by
  induction changes generalizing current with
  | nil => exact List.mem_cons_self
  | cons c rest ih =>
    by_cases hpast : c.instant + (if r.again then min current c.offset else max current c.offset)
        ≤ r.wall
    · rw [offsetOfReading, if_pos hpast]
      exact List.mem_cons_of_mem current ih
    · rw [offsetOfReading, if_neg hpast]
      exact List.mem_cons_self

end

theorem WellFormed.withinADay {z : Zone} (hz : z.WellFormed) : z.WithinADay := by
  have hutc : -day < 0 ∧ 0 < day := by decide
  cases z with
  | utc => exact ⟨fun _ => hutc, fun _ => hutc⟩
  | fixed offset => exact ⟨fun _ => hz, fun _ => hz⟩
  | regional key initial changes =>
    obtain ⟨hinitial, hchanges, -⟩ := hz
    have hoffsets : ∀ offset ∈ initial :: changes.map Change.offset, -day < offset ∧ offset < day :=
      List.forall_mem_cons.mpr ⟨hinitial, List.forall_mem_map.mpr hchanges⟩
    exact ⟨fun t => hoffsets _ (offsetAfter_mem t), fun r => hoffsets _ (offsetOfReading_mem r)⟩

/-! ## Changes that change nothing -/

section
variable {current offset : Int} {changes : List Change}

theorem RegularFrom.inOrder (h : RegularFrom current changes) :
    (∀ c ∈ changes, -day < c.offset ∧ c.offset < day) ∧
      changes.Pairwise (·.instant < ·.instant) := by
  induction changes generalizing current with
  | nil => simp
  | cons c rest ih =>
    obtain ⟨-, -, -, hapart, hrest⟩ := h
    obtain ⟨hoffsets, hpairwise⟩ := ih hrest
    have hnext : ∀ next ∈ rest, c.instant < next.instant := by
      intro next hnext
      have := hapart next hnext
      rw [day_eq] at this
      omega
    exact ⟨List.forall_mem_cons.mpr ⟨hrest.offset_lt, hoffsets⟩, .cons hnext hpairwise⟩

theorem offsets_of_constant {start : Int} (horder : changes.Pairwise (·.instant < ·.instant))
    (hstart : ∀ c ∈ changes, start < c.instant)
    (h : ∀ t, start ≤ t → offsetAfter t current changes = offset) :
    current = offset ∧ ∀ c ∈ changes, c.offset = offset := by
  induction changes generalizing current start with
  | nil => exact ⟨h start (Int.le_refl start), by simp⟩
  | cons c rest ih =>
    obtain ⟨hnext, hrest⟩ := List.pairwise_cons.mp horder
    have hcurrent : current = offset := by
      rw [← h start (Int.le_refl start), offsetAfter_of_ahead hstart]
    have hc := hstart c List.mem_cons_self
    have hafter : ∀ t, c.instant ≤ t → offsetAfter t c.offset rest = offset := by
      intro t ht
      rw [← h t (by omega), offsetAfter, if_pos ht]
    exact ⟨hcurrent, List.forall_mem_cons.mpr (ih hrest hnext hafter)⟩

theorem changes_of_constant {key : String} {initial : Int}
    (horder : changes.Pairwise (·.instant < ·.instant))
    (h : (regional key initial changes).IsConstant) : ∀ c ∈ changes, c.offset = initial := by
  obtain ⟨start, hstart⟩ : ∃ start, ∀ c ∈ changes, start < c.instant := by
    cases changes with
    | nil => exact ⟨0, by simp⟩
    | cons c rest =>
      obtain ⟨hnext, -⟩ := List.pairwise_cons.mp horder
      refine ⟨c.instant - 1, List.forall_mem_cons.mpr ⟨by omega, fun next hmem => ?_⟩⟩
      have := hnext next hmem
      omega
  obtain ⟨hinitial, hoffsets⟩ := offsets_of_constant horder hstart fun t _ => h t start
  rwa [hinitial]

theorem offsetAfter_of_constant (h : ∀ c ∈ changes, c.offset = offset) (t : Int) :
    offsetAfter t offset changes = offset := by
  induction changes with
  | nil => rfl
  | cons c rest ih =>
    obtain ⟨hc, hrest⟩ := List.forall_mem_cons.mp h
    rw [offsetAfter, hc, ih hrest, ite_self]

theorem offsetOfReading_of_constant (h : ∀ c ∈ changes, c.offset = offset) (r : Reading) :
    offsetOfReading r offset changes = offset := by
  induction changes with
  | nil => rfl
  | cons c rest ih =>
    obtain ⟨hc, hrest⟩ := List.forall_mem_cons.mp h
    rw [offsetOfReading, hc, ih hrest, ite_self]

theorem repeats_of_constant (h : ∀ c ∈ changes, c.offset = offset) (t : Int) :
    repeats t offset changes = false := by
  induction changes with
  | nil => rfl
  | cons c rest ih =>
    obtain ⟨hc, hrest⟩ := List.forall_mem_cons.mp h
    unfold repeats
    split
    · rename_i hle
      have hnot : decide (t - c.instant < offset - c.offset) = false := by
        rw [decide_eq_false_iff_not]
        omega
      split
      · exact hnot
      · split
        · rw [hc]
          exact ih hrest
        · exact hnot
    · rfl

end

theorem Regular.wellFormed {z : Zone} (hz : z.Regular) : z.WellFormed := by
  cases z with
  | utc => trivial
  | fixed offset => exact hz
  | regional key initial changes => exact ⟨RegularFrom.offset_lt hz, RegularFrom.inOrder hz⟩

theorem Regular.withinADay {z : Zone} (hz : z.Regular) : z.WithinADay := hz.wellFormed.withinADay

theorem wellFormed_of_mem_table : ∀ z ∈ table, z.WellFormed := fun z hz =>
  (regular_of_mem_table z hz).wellFormed

/-! ## Constant zones -/

/-- The zone's clocks are ahead of UTC by the same distance always, and show no time twice. -/
structure AheadBy (z : Zone) (offset : Int) : Prop where
  lt : -day < offset ∧ offset < day
  readingAt_eq : ∀ t, z.readingAt t = ⟨t + offset, false⟩
  instantOf_eq : ∀ r, z.instantOf r = r.wall - offset

theorem AheadBy.withinADay {z : Zone} {offset : Int} (hz : z.AheadBy offset) : z.WithinADay := by
  refine ⟨fun t => ?_, fun r => ?_⟩
  · have hshown : t + z.offsetAt t = t + offset := congrArg Reading.wall (hz.readingAt_eq t)
    rw [Int.add_left_cancel hshown]
    exact hz.lt
  · have hinstant : r.wall - z.offsetOf r = r.wall - offset := hz.instantOf_eq r
    have hoffset : z.offsetOf r = offset := by omega
    rw [hoffset]
    exact hz.lt

/-- A constant zone is one whose clocks are ahead of UTC by one distance, whatever changes it is
written with. -/
theorem exists_aheadBy {z : Zone} (hz : z.WellFormed) (hconst : z.IsConstant) :
    ∃ offset, z.AheadBy offset := by
  cases z with
  | utc => exact ⟨0, by decide, fun _ => rfl, fun _ => rfl⟩
  | fixed offset => exact ⟨offset, hz, fun _ => rfl, fun _ => rfl⟩
  | regional key initial changes =>
    obtain ⟨hlt, -, horder⟩ := hz
    have hoffsets := changes_of_constant horder hconst
    refine ⟨initial, hlt, fun t => ?_, fun r => ?_⟩
    · rw [readingAt, offsetAt, offsetAfter_of_constant hoffsets, repeats_of_constant hoffsets]
    · rw [instantOf, offsetOf, offsetOfReading_of_constant hoffsets]

end Nurture.Calendar.Zone
