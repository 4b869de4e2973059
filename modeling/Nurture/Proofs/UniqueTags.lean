import Nurture.Proofs.Driving
import Nurture.Proofs.LeadNumbers

/-!
  Distinct tags

  The tags of a lead are distinct in every run that starts without leads, whatever is called
  and whatever comes in the way, as long as the tags given by updates are distinct
  (`tags_stay_distinct`). A tag that is added is compared with those there are; an update that
  gives tags is not, and stores what it is given (`Twice.tagged_twice`).
-/

namespace Nurture

open Nurture.Action Nurture.Action.Takes

variable {σ : Type} {s : Surroundings σ} {w w' : World σ} {db : Database} {r r' : LeadRow}

/-! ## Distinct items -/

namespace Json

/-- No item is the same as one before it. -/
def Distinct (items : List Json) : Prop := items.Pairwise fun a b => b.same a = false

instance (items : List Json) : Decidable (Distinct items) :=
  inferInstanceAs (Decidable (items.Pairwise _))

theorem same_str (t u : String) : (str t).same (str u) = (t == u) := by
  simp [same, sameScalar]

theorem eq_str_of_same {j : Json} {t : String} (h : j.same (str t) = true) : j = str t := by
  cases j <;> simp [same, sameScalar, sameNumber, counted] at h
  rw [h]

theorem distinct_texts_iff {texts : List String} : Distinct (texts.map str) ↔ texts.Nodup := by
  rw [Distinct, List.pairwise_map]
  refine List.Pairwise.iff fun t u => ?_
  rw [same_str, beq_eq_false_iff_ne, ne_comm]

theorem eq_texts_of_sameItems {items : List Json} {texts : List String}
    (h : sameItems items (texts.map str) = true) : items = texts.map str := by
  induction items generalizing texts with
  | nil => cases texts with
    | nil => rfl
    | cons t texts => simp [sameItems] at h
  | cons j items ih => cases texts with
    | nil => simp [sameItems] at h
    | cons t texts =>
      simp only [List.map_cons, sameItems, Bool.and_eq_true] at h
      rw [eq_str_of_same h.1, ih h.2, List.map_cons]

end Json

/-! ## What a call makes of the tags -/

/-- The tags of every lead are distinct. -/
def Database.TagsDistinct (db : Database) : Prop := ∀ row ∈ db.leads, Json.Distinct row.tags

/-- If the tags of every lead were distinct, they still are. -/
def World.KeepsTags (w w' : World σ) : Prop := w.database.TagsDistinct → w'.database.TagsDistinct

instance : Tolerant (World.KeepsTags (σ := σ)) where
  of_still h _ _ hw := h ▸ hw

instance : IsTrans (World σ) World.KeepsTags where
  trans _ _ _ h h' hw := h' (h hw)

theorem World.SameLeads.keepsTags (h : w.SameLeads w') : w.KeepsTags w' :=
  fun hw row hrow => hw row (h.leads_eq ▸ hrow)

namespace LeadRow

/-- The tags that an update gives, if any, are distinct. -/
def GivesDistinct (fields : Json.Fields) : Prop :=
  ∀ j items, fields.get? "tags" = some j → j.members? = some items → Json.Distinct items

theorem newTags_distinct {fields : Json.Fields} {tags : List Json} (hr : Json.Distinct r.tags)
    (hfields : GivesDistinct fields) (h : r.newTags fields = .ok tags) : Json.Distinct tags := by
  rcases newTags_eq_ok_iff.mp h with ⟨-, rfl⟩ | ⟨j, hget, hmembers⟩
  · exact hr
  · exact hfields j tags hget hmembers

theorem givesDistinct_of_stage (stage : Json) : GivesDistinct [("pipeline_stage", stage)] :=
  fun _ _ h => by simp [Json.Fields.get?_cons] at h

end LeadRow

theorem Store.Edited.tagsDistinct {edits : LeadRow → LeadRow → Prop} {db' : Database}
    {issued issued' : Issued} (h : Store.Edited edits db issued db' issued') (hdb : db.TagsDistinct)
    (hedits : ∀ r r', Json.Distinct r.tags → edits r r' → Json.Distinct r'.tags) :
    db'.TagsDistinct := by
  cases h with
  | same => exact hdb
  | put hr hedit hid =>
    intro row hrow
    rcases mem_putRow_iff.mp hrow with rfl | ⟨hrow, -⟩
    · exact hedits _ _ (hdb _ hr) hedit
    · exact hdb row hrow

theorem Store.Revised.tagsDistinct {fields : Json.Fields} {now : Calendar.Stamp}
    (h : Store.Revised fields now r r') (hfields : LeadRow.GivesDistinct fields)
    (hr : Json.Distinct r.tags) : Json.Distinct r'.tags := by
  obtain ⟨tags, htags, hrow⟩ := h
  obtain ⟨name, phone, status, stage, source, -, -, -, -, -, rfl⟩ := LeadRow.eq_of_update hrow
  dsimp only
  unfold LeadRow.keptTags
  split
  · exact hr
  · exact LeadRow.newTags_distinct hr hfields htags

theorem Store.Tagged.tagsDistinct {tag : Json} (h : Store.Tagged tag r r')
    (hr : Json.Distinct r.tags) : Json.Distinct r'.tags := by
  obtain ⟨hnew, rfl⟩ := h
  refine List.pairwise_append.mpr ⟨hr, List.pairwise_singleton _ _, fun a ha b hb => ?_⟩
  obtain rfl := List.mem_singleton.mp hb
  exact Bool.eq_false_iff.mpr (List.any_eq_false.mp hnew a ha)

/-- Updates give distinct tags, if any. -/
def Upkeep.GivesDistinct : Upkeep → Prop
  | updateLead _ fields => LeadRow.GivesDistinct fields
  | _ => True

/-- Calls whose updates give distinct tags keep tags distinct. -/
theorem Upkeep.keepsTags {c : Upkeep} (hc : c.GivesDistinct) : Takes World.KeepsTags s c.act := by
  cases c with
  | saveFunnel draft => exact fun w => (map' (Store.saveFunnel_sameLeads draft) w).keepsTags
  | deleteFunnel id => exact fun w => (map' (Store.deleteFunnel_sameLeads id) w).keepsTags
  | saveTemplate draft => exact fun w => (map' (Store.saveTemplate_sameLeads draft) w).keepsTags
  | subscribe form =>
    refine map' fun w hw => ?_
    rcases Store.subscribe_leaves form s w with hdb |
      ⟨sub, -, ⟨id, row, hrow, hdb⟩ | ⟨held, hheld, hdb⟩⟩
    · rw [hdb]
      exact hw
    · -- a new lead has no tags
      obtain ⟨-, -, -, -, rfl⟩ := LeadRow.ofSubscription_eq_ok_iff.mp hrow
      rw [hdb]
      exact List.forall_mem_append.mpr ⟨hw, by simp [Json.Distinct]⟩
    · rw [hdb]
      intro row hrow
      rcases mem_putRow_iff.mp hrow with rfl | ⟨hrow, -⟩
      · exact hw held hheld
      · exact hw row hrow
  | updateLead id fields =>
    exact map' fun w hw => (Store.updateLead_cases id fields w).tagsDistinct hw
      fun r r' hr hrevised => hrevised.tagsDistinct hc hr
  | updateStage id stage =>
    exact map' fun w hw => (Store.updateStage_cases id stage w).tagsDistinct hw
      fun r r' hr hrevised => hrevised.tagsDistinct (LeadRow.givesDistinct_of_stage stage) hr
  | addTag id tag =>
    exact map' fun w hw => (Store.addTag_cases id tag w).tagsDistinct hw
      fun r r' hr htagged => htagged.tagsDistinct hr
  | deleteLead id =>
    refine map' fun w hw => ?_
    rcases (Store.deleteLead_cases id s w).1 with hdb | hdb
    · rw [hdb]
      exact hw
    · rw [hdb]
      exact fun row hrow => hw row (List.mem_of_mem_filter hrow)

/-! ## Runs -/

/-- One thing that happens in a run: a call by itself, or what the engine is asked to do. -/
inductive Turn where
  | call (c : Upkeep)
  | operation (op : Operation)

def Turn.act : Turn → Action σ Unit
  | call c => c.act
  | operation op => op.act

/-- An update gives distinct tags, if any. -/
def Turn.GivesDistinct : Turn → Prop
  | call c => c.GivesDistinct
  | operation _ => True

/-- The world after turns, each in surroundings of its own; those that fail count too. -/
def World.afterTurns (w : World σ) (turns : List (Surroundings σ × Turn)) : World σ :=
  turns.foldl (fun w turn => (turn.2.act.run turn.1 w).2) w

theorem coversCalls_keepsTags :
    CoversCalls Upkeep.GivesDistinct (fun _ => True) World.KeepsTags s where
  upkeep _ hc := Upkeep.keepsTags hc
  start trigger lead context w :=
    (coversDeeds_aside.triggerFunnels trigger lead context w).sameLeads.keepsTags
  clock := trivial
  pass now _ w := (coversDeeds_aside.processExecutions now w).sameLeads.keepsTags
  stock _ := id

theorem Api.Command.givesDistinct (c : Api.Command) : c.Gives Upkeep.GivesDistinct := by
  cases c <;> first | trivial | exact ⟨fun _ _ => trivial, fun _ _ => trivial⟩

/-- No operation updates a lead. -/
theorem Operation.givesDistinct (op : Operation) : op.Gives Upkeep.GivesDistinct := by
  cases op with
  | createStockFunnel => exact ⟨fun _ _ => trivial, fun _ _ => trivial⟩
  | request env worker r => exact fun _ _ _ _ c _ => c.givesDistinct
  | _ => trivial

theorem Turn.keepsTags {turn : Turn} (h : turn.GivesDistinct) :
    Takes World.KeepsTags s turn.act := by
  cases turn with
  | call c => exact Upkeep.keepsTags h
  | operation op =>
    exact Operation.takes_of_gives coversCalls_keepsTags op.givesDistinct fun _ _ => trivial

theorem World.afterTurns_keepsTags {turns : List (Surroundings σ × Turn)}
    (h : ∀ turn ∈ turns, turn.2.GivesDistinct) (w : World σ) :
    w.KeepsTags (w.afterTurns turns) := by
  induction turns generalizing w with
  | nil => exact fun hw => hw
  | cons turn turns ih =>
    have hfirst := Turn.keepsTags (s := turn.1) (h turn List.mem_cons_self) w
    exact fun hw => ih (fun t ht => h t (List.mem_cons_of_mem turn ht)) _ (hfirst hw)

/-! ## What is listed, and what an update stores -/

theorem LeadRow.nodup_of_load {l : Lead} (h : r.load = .ok l) (hr : Json.Distinct r.tags) :
    l.tags.Nodup := by
  obtain ⟨email, tags, -, htags, rfl⟩ := LeadRow.load_eq_ok_iff.mp h
  have hrow : r.tags = tags.map .str :=
    List.forall₂_eq_eq_eq ▸ (List.forall₂_map_right_iff.mpr htags)
  exact Json.distinct_texts_iff.mp (hrow ▸ hr)

theorem Store.Revised.tags_eq {fields : Json.Fields} {now : Calendar.Stamp} {texts : List String}
    (h : Store.Revised fields now r r') (hfields : fields.get? "tags" = some (.ofTexts texts)) :
    r'.tags = texts.map .str := by
  obtain ⟨tags, htags, hrow⟩ := h
  obtain ⟨name, phone, status, stage, source, -, -, -, -, -, rfl⟩ := LeadRow.eq_of_update hrow
  obtain rfl : texts.map Json.str = tags := by
    rcases LeadRow.newTags_eq_ok_iff.mp htags with ⟨hnone, -⟩ | ⟨j, hget, hmembers⟩
    · cases hfields.symm.trans hnone
    · obtain rfl := Option.some.inj (hfields.symm.trans hget)
      exact Option.some.inj hmembers
  dsimp only
  unfold LeadRow.keptTags
  split
  · rename_i hsame
    exact Json.eq_texts_of_sameItems hsame
  · rfl

/-- An update that is answered with the lead has stored what it was given. -/
theorem Store.updateLead_stores {id : String} {fields : Json.Fields} {texts : List String}
    {l : Lead} (hfields : fields.get? "tags" = some (.ofTexts texts))
    (h : (updateLead id fields).run s w = (.ok (.own (some l)), w')) :
    ∃ row ∈ w'.database.leads, row.id = id ∧ row.tags = texts.map .str := by
  rw [updateLead_eq] at h
  obtain ⟨o, h⟩ := run_guarded_eq_own h
  rcases run_revise id fields s { w with outside := o } with
    ⟨answer, hnone, hrun⟩ | ⟨r, hr, tags, r', htags, hrow, hheld, hid, hrun⟩
  · rw [h] at hrun
    exact absurd (congrArg Prod.fst hrun).symm (hnone l)
  · rw [h] at hrun
    obtain ⟨-, rfl⟩ := Prod.mk.inj hrun
    exact ⟨r', mem_putRow, hid.trans hheld, Revised.tags_eq ⟨tags, htags, hrow⟩ hfields⟩

/-- Starting without leads, the tags of every lead are distinct after any turns whose updates give
distinct tags, and each lead is listed without duplicates. An update that gives texts, after any
turns, leaves distinct tags exactly if there are no duplicates among them. -/
theorem tags_stay_distinct (hempty : w.database.leads = []) (turns : List (Surroundings σ × Turn)) :
    ((∀ turn ∈ turns, turn.2.GivesDistinct) →
      ∀ row ∈ (w.afterTurns turns).database.leads,
        Json.Distinct row.tags ∧ ∀ l, row.load = .ok l → l.tags.Nodup) ∧
    ∀ (s : Surroundings σ) (id : String) (fields : Json.Fields) (texts : List String) (l : Lead)
      (w' : World σ), fields.get? "tags" = some (.ofTexts texts) →
      (Store.updateLead id fields).run s (w.afterTurns turns) = (.ok (.own (some l)), w') →
      ∃ row ∈ w'.database.leads, row.id = id ∧ (Json.Distinct row.tags ↔ texts.Nodup) := by
  refine ⟨fun h row hrow => ?_, fun s id fields texts l w' hfields hrun => ?_⟩
  · have hstart : w.database.TagsDistinct := by simp [Database.TagsDistinct, hempty]
    have hrow := World.afterTurns_keepsTags h w hstart row hrow
    exact ⟨hrow, fun l hload => LeadRow.nodup_of_load hload hrow⟩
  · obtain ⟨row, hrow, hid, htags⟩ := Store.updateLead_stores hfields hrun
    exact ⟨row, hrow, hid, htags ▸ Json.distinct_texts_iff⟩

/-! ### Tags that are given twice -/

namespace Twice

def surroundings : Surroundings Unit := .calm (.ahead 0 0) (.usual .utc 2)

def signUp : Turn := .call (.subscribe ⟨.str "ada@example.com", .str "site", .null, .null⟩)

/-- A lead that is given two tags and then each of them again. -/
def turns : List (Surroundings Unit × Turn) :=
  [signUp, .call (.updateLead "lead-1" [("tags", .ofTexts ["vip", "press"])]),
   .call (.addTag "lead-1" (.str "vip")), .operation (.tagLead "lead-1" (.str "press")),
   .operation (.tagLead "lead-1" (.str "new")),
   .call (.updateStage "lead-1" (.str "hot"))].map fun turn => (surroundings, turn)

theorem turns_give_distinct : ∀ turn ∈ turns, turn.2.GivesDistinct := by
  have hgiven : LeadRow.GivesDistinct [("tags", .ofTexts ["vip", "press"])] := by
    intro j items hj hitems
    obtain rfl := Option.some.inj hj
    obtain rfl := Option.some.inj hitems
    exact Json.distinct_texts_iff.mpr (by decide)
  simpa [turns, Turn.GivesDistinct, Upkeep.GivesDistinct, signUp] using hgiven

/-- The lead has each tag once. -/
theorem tagged_once :
    (World.fresh ()).database.leads = [] ∧ (∀ turn ∈ turns, turn.2.GivesDistinct) ∧
    (∀ row ∈ ((World.fresh ()).afterTurns turns).database.leads,
      Json.Distinct row.tags ∧ ∀ l, row.load = .ok l → l.tags.Nodup) ∧
    ((World.fresh ()).afterTurns turns).database.leads.map (·.load.toOption.map (·.tags)) =
      [some ["vip", "press", "new"]] :=
  ⟨rfl, turns_give_distinct, (tags_stay_distinct rfl turns).1 turns_give_distinct,
    by decide +kernel⟩

/-- An update that gives a tag twice stores it twice. -/
theorem tagged_twice :
    ∃ row ∈ ((World.fresh ()).afterTurns [(surroundings, signUp), (surroundings,
        .call (.updateLead "lead-1" [("tags", .ofTexts ["vip", "vip"])]))]).database.leads,
      ¬ Json.Distinct row.tags := by
  decide +kernel

end Twice

end Nurture
