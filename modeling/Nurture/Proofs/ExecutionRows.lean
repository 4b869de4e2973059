import Nurture.Proofs.Results
import Nurture.Store.Executions

/-!
  Rows of executions

  What a row is read as, and what the two patches of the engine make of it: one
  ends an execution (`ExecutionRow.ended`), one parks it (`ExecutionRow.parkedAt`).
  Both are given the history that was read from the row with entries behind it,
  and both leave exactly that history in the row: a column keeps what it holds
  when it is given the same again, but a longer history is never the same, and a
  history without new entries is the one that was read.
-/

namespace Nurture

open Validation Validation.Checked

/-! ## Columns of text -/

namespace Column

theorem whole_eq_ok_iff {t u : String} :
    whole t = .ok u ↔ Text.isWhole t = true ∧ u = t := by
  unfold whole
  cases hf : Text.encodingFault? t with
  | none =>
    rw [Text.encodingFault?_eq_none_iff] at hf
    rw [Except.ok.injEq]
    exact ⟨fun h => ⟨hf, h.symm⟩, fun h => h.2.symm⟩
  | some fault =>
    constructor
    · intro h
      cases h
    · rintro ⟨h, -⟩
      rw [← Text.encodingFault?_eq_none_iff, hf] at h
      cases h

theorem optional_eq_ok_iff {t u : Option String} :
    optional t = .ok u ↔ (∀ s ∈ t, Text.isWhole s = true) ∧ u = t := by
  cases t with
  | none =>
    rw [optional, Json.ofOption, text_null, Except.ok.injEq, eq_comm]
    simp
  | some s =>
    simp only [optional, Json.ofOption, text, map_eq_ok_iff, whole_eq_ok_iff,
      Option.mem_some_iff, forall_eq']
    constructor
    · rintro ⟨_, ⟨hwhole, rfl⟩, rfl⟩
      exact ⟨hwhole, rfl⟩
    · rintro ⟨hwhole, rfl⟩
      exact ⟨s, ⟨hwhole, rfl⟩, rfl⟩

theorem eq_of_given?_str {held t : Option String} {s : String}
    (h : given? held (.str s) = .ok t) : t = some s := by
  unfold given? at h
  split at h
  · rename_i hsame
    obtain rfl := Except.ok.inj h
    cases held with
    | none =>
      simp [Json.ofOption, Json.same, Json.sameScalar, Json.counted, Json.sameNumber] at hsame
    | some u => simpa [Json.ofOption, Json.same, Json.sameScalar] using hsame
  · obtain ⟨u, hu, rfl⟩ := map_eq_ok_iff.mp h
    exact congrArg some (whole_eq_ok_iff.mp hu).2

theorem given?_str {held : Option String} {s : String} (hs : Text.isWhole s = true) :
    given? held (.str s) = .ok (some s) := by
  by_cases hsame : (Json.ofOption held).same (.str s) = true
  · have hheld : given? held (.str s) = .ok held := if_pos hsame
    exact hheld.trans (congrArg Except.ok (eq_of_given?_str hheld))
  · rw [given?, if_neg hsame, text_str hs]

theorem given?_null (held : Option String) : given? held .null = .ok none := by
  cases held with
  | none => rfl
  | some u =>
    simp [given?, Json.ofOption, Json.same, Json.sameScalar, Json.counted, Json.sameNumber]

end Column

/-! ## What a row is read as -/

theorem Status.ofName?_eq_some_iff {name : String} {s : Status} :
    Status.ofName? name = some s ↔ name = s.name := by
  constructor
  · intro h
    simp only [Status.ofName?, Option.map_eq_some_iff] at h
    obtain ⟨c, hc, rfl⟩ := h
    have hname : c.1 = name := by simpa using List.find?_some hc
    have hmem := List.mem_of_find?_eq_some hc
    simp only [Status.names, List.map_cons, List.map_nil, List.mem_cons, List.not_mem_nil,
      or_false] at hmem
    rcases hmem with rfl | rfl <;> exact hname.symm
  · rintro rfl
    exact Status.ofName?_name s

theorem Status.name_injective : Function.Injective Status.name := by
  intro s t h
  have hs := Status.ofName?_name s
  rw [h, Status.ofName?_name t] at hs
  exact (Option.some.inj hs).symm

theorem each_mapping_eq_good_iff {items : List Json} {history : List Json.Fields} :
    each mapping items = good history ↔ items = history.map Json.obj := by
  rw [each_eq_good_iff]
  constructor
  · intro h
    induction h with
    | nil => rfl
    | @cons j fs items history hj _ ih =>
      rw [ih]
      cases j <;> simp_all [mapping, complain]
  · rintro rfl
    induction history with
    | nil => exact .nil
    | cons fs history ih => exact .cons rfl ih

/-! ## Columns that are read -/

/-- The text of a column that is read as a status. -/
def readStatus (name : String) : Except Failure Status :=
  match Status.ofName? name with
  | some s => pure s
  | none => .error (.unknownStatus (.str name))

theorem readStatus_eq_ok_iff {name : String} {s : Status} :
    readStatus name = .ok s ↔ name = s.name := by
  rw [← Status.ofName?_eq_some_iff, readStatus]
  cases Status.ofName? name <;> simp [pure, Except.pure]

/-- The data of a column that is read as a history. -/
def readHistory (j : Json) : Except Failure (List Json.Fields) := do
  let items ←
    if j.isGiven then
      match j.members? with
      | some items => pure items
      | none => .error (.notIterable j.typeName)
    else pure []
  (((each mapping items).within (.field "history")).toExcept "FunnelExecution").mapError .invalid

theorem eq_historyJson_of_members? {j : Json} {history : List Json.Fields}
    (hg : j.isGiven = true) (h : j.members? = some (history.map Json.obj)) :
    j = Execution.historyJson history := by
  cases j with
  | arr items =>
    rw [Json.members?, Option.some.injEq] at h
    rw [h, Execution.historyJson]
  -- The members of an object are its keys and those of a text its characters: texts, not objects.
  | obj fields =>
    cases fields with
    | nil => simp [Json.isGiven] at hg
    | cons f fields => cases history <;> simp [Json.members?] at h
  | str s =>
    rw [Json.members?, Option.some.injEq] at h
    cases hl : s.toList with
    | nil =>
      have hs : s = "" := String.toList_eq_nil_iff.mp hl
      simp [Json.isGiven, hs] at hg
    | cons c cs =>
      rw [hl] at h
      cases history <;> simp at h
  | null => simp [Json.members?] at h
  | bool b => simp [Json.members?] at h
  | int n => simp [Json.members?] at h
  | real x => simp [Json.members?] at h

theorem readItems_eq_ok_iff {items : List Json} {history : List Json.Fields} :
    (((each mapping items).within (.field "history")).toExcept "FunnelExecution").mapError
        Failure.invalid = .ok history ↔ items = history.map Json.obj := by
  rw [mapError_eq_ok_iff, toExcept_eq_ok_iff, within_eq_good_iff, each_mapping_eq_good_iff]

theorem readHistory_eq_ok_iff {j : Json} {history : List Json.Fields} :
    readHistory j = .ok history ↔
      j = Execution.historyJson history ∨ j.isGiven = false ∧ history = [] := by
  by_cases hg : j.isGiven = true
  · cases hm : j.members? with
    | none =>
      simp only [readHistory, hg, if_true, hm]
      constructor
      · intro h
        cases h
      · rintro (rfl | ⟨h, -⟩)
        · cases hm
        · cases h
    | some items =>
      simp only [readHistory, hg, if_true, hm, pure_bind]
      rw [readItems_eq_ok_iff]
      constructor
      · rintro rfl
        exact .inl (eq_historyJson_of_members? hg hm)
      · rintro (rfl | ⟨h, -⟩)
        · exact (Option.some.inj hm).symm
        · cases h
  · rw [Bool.not_eq_true] at hg
    simp only [readHistory, hg, Bool.false_eq_true, if_false, pure_bind]
    rw [readItems_eq_ok_iff]
    cases history with
    | nil => simp
    | cons fs history =>
      simp only [List.map_cons, reduceCtorEq, and_false, or_false, false_iff]
      rintro rfl
      simp [Execution.historyJson, Json.isGiven] at hg

theorem length_eq_of_sameItems {items others : List Json}
    (h : Json.sameItems items others = true) : items.length = others.length := by
  induction items generalizing others with
  | nil => cases others <;> simp_all [Json.sameItems]
  | cons j items ih =>
    cases others with
    | nil => simp [Json.sameItems] at h
    | cons k others =>
      simp only [Json.sameItems, Bool.and_eq_true] at h
      simp [ih h.2]

theorem eq_arr_of_same {j : Json} {items : List Json} (h : j.same (.arr items) = true) :
    ∃ others, j = .arr others ∧ others.length = items.length := by
  cases j
  case arr others => exact ⟨others, rfl, length_eq_of_sameItems h⟩
  all_goals simp [Json.same, Json.sameScalar, Json.counted, Json.sameNumber] at h

namespace ExecutionRow

/-- The row's column of the history is read as the history. -/
def Holds (r : ExecutionRow) (history : List Json.Fields) : Prop :=
  r.history = Execution.historyJson history ∨ r.history.isGiven = false ∧ history = []

/-- The execution that a row is read as, given its status and its history. -/
def toExecution (r : ExecutionRow) (status : Status) (history : List Json.Fields) : Execution :=
  { id := r.id, funnelId := r.funnelId, leadId := r.leadId, currentNodeId := r.currentNodeId,
    status := status, nextRunAt := .ahead r.nextRunAt 0, history := history, context := r.context,
    createdAt := some (.floating r.createdAt) }

theorem load_eq (r : ExecutionRow) :
    r.load = do
      let status ← readStatus r.status
      let history ← readHistory r.history
      return r.toExecution status history := by
  unfold load readStatus readHistory
  cases Status.ofName? r.status with
  | none => rfl
  | some status =>
    cases r.history.isGiven with
    | false => rfl
    | true => cases r.history.members? <;> rfl

theorem load_eq_ok_iff {r : ExecutionRow} {e : Execution} :
    r.load = .ok e ↔
      ∃ status history, r.status = status.name ∧ r.Holds history ∧
        e = r.toExecution status history := by
  rw [load_eq, bind_eq_ok_iff]
  constructor
  · rintro ⟨status, hs, h⟩
    obtain ⟨history, hh, h⟩ := bind_eq_ok_iff.mp h
    cases h
    exact ⟨status, history, readStatus_eq_ok_iff.mp hs, readHistory_eq_ok_iff.mp hh, rfl⟩
  · rintro ⟨status, history, hs, hh, rfl⟩
    refine ⟨status, readStatus_eq_ok_iff.mpr hs, bind_eq_ok_iff.mpr ?_⟩
    exact ⟨history, readHistory_eq_ok_iff.mpr hh, rfl⟩

/-! ## Patching rows -/

/-- The row of an execution that has ended with the history. -/
def ended (r : ExecutionRow) (history : List Json.Fields) : ExecutionRow :=
  { r with
    currentNodeId := none, status := Status.completed.name,
    history := Execution.historyJson history }

/-- The row of an execution that is parked at a node until an instant, with the history. -/
def parkedAt (r : ExecutionRow) (node : String) (resumeAt : Int) (history : List Json.Fields) :
    ExecutionRow :=
  { r with
    currentNodeId := some node, nextRunAt := resumeAt, history := Execution.historyJson history }

theorem load_parkedAt {r : ExecutionRow} {status : Status} (hs : r.status = status.name)
    (node : String) (resumeAt : Int) (history : List Json.Fields) :
    (r.parkedAt node resumeAt history).load
      = .ok { r.toExecution status history with
          currentNodeId := some node, nextRunAt := (.ahead resumeAt 0) } :=
  load_eq_ok_iff.mpr ⟨status, history, hs, .inl rfl, rfl⟩

theorem keptData_historyJson {r : ExecutionRow} {history : List Json.Fields}
    (hr : r.Holds history) (more : List Json.Fields) :
    keptData r.history (Execution.historyJson (history ++ more))
      = Execution.historyJson (history ++ more) := by
  unfold keptData
  split
  · -- what is held counts as the same, so it is as long, and nothing was added
    rename_i hsame
    obtain ⟨items, hitems, hlen⟩ := eq_arr_of_same hsame
    simp only [List.length_map, List.length_append] at hlen
    rcases hr with hr | ⟨hg, rfl⟩
    · rw [hitems, Execution.historyJson, Json.arr.injEq] at hr
      rw [hr, List.length_map] at hlen
      have hmore : more = [] := List.length_eq_zero_iff.mp (by omega)
      rw [hitems, hr, hmore, List.append_nil, Execution.historyJson]
    · have hnil : items = [] := by
        rw [hitems] at hg
        simpa [Json.isGiven] using hg
      rw [hnil] at hlen
      have hmore : more = [] := List.length_eq_zero_iff.mp (by simpa using hlen.symm)
      rw [hitems, hnil, hmore]
      rfl
  · rfl

theorem toUtc_wall {t : Calendar.Stamp} {m : Calendar.Moment} (h : t.toUtc = .ok m) :
    m.wall = t.instant := by
  have hi := Calendar.Moment.instant_of_toUtc h
  have ho := Calendar.Moment.offset_of_toUtc h
  rw [Calendar.Stamp.instant_toMoment, Calendar.Moment.instant, ho] at hi
  omega

theorem writingTime_eq_ok_iff {now : Calendar.Stamp} {t : Int} :
    writingTime now = .ok t ↔ Calendar.inRange now.instant = true ∧
      t = now.instant / Calendar.second * Calendar.second := by
  unfold writingTime
  split
  · rename_i hnow
    rw [Except.ok.injEq]
    exact ⟨fun h => ⟨hnow, h.symm⟩, fun h => h.2.symm⟩
  · rename_i hnow
    constructor
    · intro h
      cases h
    · intro h
      exact absurd h.1 hnow

/-- A row takes what a status and a time come to when both hold something. -/
theorem held_eq_ok_iff {r' : ExecutionRow} {status : Option String} {time : Option Int}
    {f : String → Int → ExecutionRow} :
    (do
      let status ← Column.given status
      match time with
      | none => .error .constraint
      | some time => return f status time : Except Failure ExecutionRow) = .ok r' ↔
      ∃ st t, status = some st ∧ time = some t ∧ r' = f st t := by
  constructor
  · intro h
    obtain ⟨st, hgiven, h⟩ := bind_eq_ok_iff.mp h
    cases status with
    | none => cases hgiven
    | some status =>
      cases hgiven
      cases time with
      | none => cases h
      | some t =>
        cases h
        exact ⟨st, t, rfl, rfl, rfl⟩
  · rintro ⟨st, t, rfl, rfl, rfl⟩
    rfl

/-- A patch succeeds when all of its columns take their values, the row can be written
if it changes, and the columns that must hold something do. -/
theorem patch_eq_ok_iff {r r' : ExecutionRow} {p : ExecutionPatch} {now : Calendar.Stamp} :
    r.patch p now = .ok r' ↔
      ∃ time history node status,
        columnOr p "next_run_at" (some r.nextRunAt) timeOf = .ok (some time) ∧
        columnOr p "history" r.history (historyOf r.history) = .ok history ∧
        columnOr p "current_node_id" r.currentNodeId (textOf r.currentNodeId) = .ok node ∧
        columnOr p "status" (some r.status) (textOf (some r.status)) = .ok (some status) ∧
        (r.differs p = true → Calendar.inRange now.instant = true) ∧
        r' = { r with
          currentNodeId := node, status := status, nextRunAt := time, history := history } := by
  unfold patch
  constructor
  · intro h
    obtain ⟨time, htime, h⟩ := bind_eq_ok_iff.mp h
    obtain ⟨history, hhistory, h⟩ := bind_eq_ok_iff.mp h
    obtain ⟨node, hnode, h⟩ := bind_eq_ok_iff.mp h
    obtain ⟨status, hstatus, h⟩ := bind_eq_ok_iff.mp h
    -- Only a row that changes asks for the clock.
    have hwrite : r.differs p = true → Calendar.inRange now.instant = true := by
      intro hd
      simp only [hd, if_true] at h
      obtain ⟨_, hwrite, -⟩ := bind_eq_ok_iff.mp h
      exact (writingTime_eq_ok_iff.mp hwrite).1
    obtain ⟨st, t, rfl, rfl, rfl⟩ : ∃ st t, status = some st ∧ time = some t ∧ _ := by
      by_cases hd : r.differs p = true
      · simp only [hd, if_true] at h
        obtain ⟨_, -, h⟩ := bind_eq_ok_iff.mp h
        exact held_eq_ok_iff.mp h
      · simp only [hd] at h
        exact held_eq_ok_iff.mp h
    exact ⟨t, history, node, st, htime, hhistory, hnode, hstatus, hwrite, rfl⟩
  · rintro ⟨time, history, node, status, htime, hhistory, hnode, hstatus, hwrite, rfl⟩
    refine bind_eq_ok_iff.mpr ⟨_, htime, bind_eq_ok_iff.mpr ⟨_, hhistory, ?_⟩⟩
    refine bind_eq_ok_iff.mpr ⟨_, hnode, bind_eq_ok_iff.mpr ⟨_, hstatus, ?_⟩⟩
    by_cases hd : r.differs p = true
    · simp only [hd, if_true]
      exact bind_eq_ok_iff.mpr ⟨_, writingTime_eq_ok_iff.mpr ⟨hwrite hd, rfl⟩, rfl⟩
    · simp only [hd]
      rfl

/-! The two patches of the engine, column by column. -/

section
variable {r r' : ExecutionRow} {history more : List Json.Fields} {now : Calendar.Stamp}

theorem patch_complete_eq_ok_iff (hr : r.Holds history) :
    r.patch (.complete (history ++ more)) now = .ok r' ↔
      (r.differs (.complete (history ++ more)) = true → Calendar.inRange now.instant = true) ∧
        r' = r.ended (history ++ more) := by
  have hhistory : columnOr (.complete (history ++ more)) "history" r.history (historyOf r.history)
      = .ok (Execution.historyJson (history ++ more)) := by
    change Except.ok (keptData r.history _) = _
    rw [keptData_historyJson hr]
  have hnode : columnOr (.complete (history ++ more)) "current_node_id" r.currentNodeId
      (textOf r.currentNodeId) = .ok none :=
    Column.given?_null r.currentNodeId
  have hstatus : columnOr (.complete (history ++ more)) "status" (some r.status)
      (textOf (some r.status)) = .ok (some Status.completed.name) :=
    Column.given?_str (by decide)
  have htime : columnOr (.complete (history ++ more)) "next_run_at" (some r.nextRunAt) timeOf
      = .ok (some r.nextRunAt) := rfl
  rw [patch_eq_ok_iff]
  constructor
  · rintro ⟨time, h, node, status, ht, hh, hn, hs, hw, rfl⟩
    rw [htime] at ht
    rw [hhistory] at hh
    rw [hnode] at hn
    rw [hstatus] at hs
    cases ht
    cases hh
    cases hn
    cases hs
    exact ⟨hw, rfl⟩
  · rintro ⟨hw, rfl⟩
    exact ⟨_, _, _, _, htime, hhistory, hnode, hstatus, hw, rfl⟩

theorem patch_park_eq_ok_iff {node : String} {resumeAt : Calendar.Stamp} (hr : r.Holds history)
    (hnode : Text.isWhole node = true) :
    r.patch (.park node resumeAt (history ++ more)) now = .ok r' ↔
      Calendar.inRange now.instant = true ∧ (∃ m, resumeAt.toUtc = .ok m) ∧
        r' = r.parkedAt node resumeAt.instant (history ++ more) := by
  have hdiffers : r.differs (.park node resumeAt (history ++ more)) = true := rfl
  have hhistory : columnOr (.park node resumeAt (history ++ more)) "history" r.history
      (historyOf r.history) = .ok (Execution.historyJson (history ++ more)) := by
    change Except.ok (keptData r.history _) = _
    rw [keptData_historyJson hr]
  have hcurrent : columnOr (.park node resumeAt (history ++ more)) "current_node_id"
      r.currentNodeId (textOf r.currentNodeId) = .ok (some node) :=
    Column.given?_str hnode
  have hstatus : columnOr (.park node resumeAt (history ++ more)) "status" (some r.status)
      (textOf (some r.status)) = .ok (some r.status) := rfl
  have htime : columnOr (.park node resumeAt (history ++ more)) "next_run_at" (some r.nextRunAt)
      timeOf = (resumeAt.toUtc.mapError .overflow).map fun m => some m.wall := rfl
  rw [patch_eq_ok_iff]
  constructor
  · rintro ⟨time, h, current, status, ht, hh, hn, hs, hw, rfl⟩
    rw [htime, map_eq_ok_iff] at ht
    obtain ⟨m, hm, hwall⟩ := ht
    rw [mapError_eq_ok_iff] at hm
    rw [hhistory] at hh
    rw [hcurrent] at hn
    rw [hstatus] at hs
    cases hh
    cases hn
    cases hs
    cases hwall
    exact ⟨hw hdiffers, ⟨m, hm⟩, by rw [toUtc_wall hm]; rfl⟩
  · rintro ⟨hw, ⟨m, hm⟩, rfl⟩
    refine ⟨resumeAt.instant, _, _, _, ?_, hhistory, hcurrent, hstatus, fun _ => hw, rfl⟩
    rw [htime, map_eq_ok_iff]
    exact ⟨m, mapError_eq_ok_iff.mpr hm, by rw [toUtc_wall hm]⟩

end

end ExecutionRow

end Nurture
