import Nurture.Proofs.ExecutionTable
import Nurture.Store.Leads

/-!
  Rows of leads

  What it takes to read a row of a lead, and what the operations of the directory
  make of one.
-/

namespace Nurture

open Validation Validation.Checked

variable {r r' : LeadRow} {l : Lead} {now : Calendar.Stamp}

theorem Lead.checkEmail_eq_good_iff {j : Json} {email : String} :
    Lead.checkEmail j = good email ↔ ∃ s, j = .str s ∧ Text.isWhole s = true ∧ 1 ≤ s.length ∧
      Lead.normalEmail s ≠ "" ∧ email = Lead.normalEmail s := by
  unfold Lead.checkEmail
  rw [andThen_eq_good_iff]
  constructor
  · rintro ⟨s, hs, h⟩
    obtain ⟨rfl, hwhole, hlen⟩ := textOf_eq_good_iff.mp hs
    split at h
    · cases h
    · rename_i hne
      exact ⟨s, rfl, hwhole, hlen, hne, (good.inj h).symm⟩
  · rintro ⟨s, rfl, hwhole, hlen, hne, rfl⟩
    exact ⟨s, textOf_eq_good_iff.mpr ⟨rfl, hwhole, hlen⟩, if_neg hne⟩

/-- What the check of a lead comes to: every field passes its own. -/
theorem Lead.checkFields_eq_good_iff {fs : Json.Fields} {draft : Draft Lead} :
    Lead.checkFields fs = good draft ↔
      ∃ id email name phone status tags stage source createdAt,
        Draft.checkId fs = good id ∧ required fs "email" checkEmail = good email ∧
        defaulted fs "name" "" text = good name ∧ defaulted fs "phone" "" text = good phone ∧
        defaulted fs "status" active text = good status ∧
        defaulted fs "tags" [] (listOf text) = good tags ∧
        defaulted fs "pipeline_stage" firstStage text = good stage ∧
        optional fs "source" text = good source ∧ optional fs "created_at" time = good createdAt ∧
        draft = ⟨id, fun id =>
          ⟨id, email, name, phone, status, tags, stage, source, createdAt⟩⟩ := by
  unfold Lead.checkFields
  constructor
  · intro h
    obtain ⟨g₈, createdAt, h₈, hcreated, rfl⟩ := applied_eq_good_iff.mp h
    obtain ⟨g₇, source, h₇, hsource, rfl⟩ := applied_eq_good_iff.mp h₈
    obtain ⟨g₆, stage, h₆, hstage, rfl⟩ := applied_eq_good_iff.mp h₇
    obtain ⟨g₅, tags, h₅, htags, rfl⟩ := applied_eq_good_iff.mp h₆
    obtain ⟨g₄, status, h₄, hstatus, rfl⟩ := applied_eq_good_iff.mp h₅
    obtain ⟨g₃, phone, h₃, hphone, rfl⟩ := applied_eq_good_iff.mp h₄
    obtain ⟨g₂, name, h₂, hname, rfl⟩ := applied_eq_good_iff.mp h₃
    obtain ⟨g₁, email, h₁, hemail, rfl⟩ := applied_eq_good_iff.mp h₂
    obtain ⟨id, hid, rfl⟩ := mapped_eq_good_iff.mp h₁
    exact ⟨id, email, name, phone, status, tags, stage, source, createdAt, hid, hemail, hname,
      hphone, hstatus, htags, hstage, hsource, hcreated, rfl⟩
  · rintro ⟨id, email, name, phone, status, tags, stage, source, createdAt, hid, hemail, hname,
      hphone, hstatus, htags, hstage, hsource, hcreated, rfl⟩
    rw [hid, hemail, hname, hphone, hstatus, htags, hstage, hsource, hcreated]
    rfl

theorem SubscriptionForm.check_eq_good_iff {f : SubscriptionForm} {sub : Subscription} :
    f.check = good sub ↔ Lead.checkEmail f.email = good sub.email ∧
      text (orEmptyText f.name) = good sub.name ∧ text (orEmptyText f.phone) = good sub.phone ∧
      orNull text f.source = good sub.source := by
  unfold SubscriptionForm.check
  constructor
  · intro h
    obtain ⟨g₃, source, h₃, hsource, rfl⟩ := applied_eq_good_iff.mp h
    obtain ⟨g₂, phone, h₂, hphone, rfl⟩ := applied_eq_good_iff.mp h₃
    obtain ⟨g₁, name, h₁, hname, rfl⟩ := applied_eq_good_iff.mp h₂
    obtain ⟨email, hemail, rfl⟩ := mapped_eq_good_iff.mp h₁
    exact ⟨within_eq_good_iff.mp hemail, within_eq_good_iff.mp hname, within_eq_good_iff.mp hphone,
      within_eq_good_iff.mp hsource⟩
  · rintro ⟨hemail, hname, hphone, hsource⟩
    rw [hemail, hname, hphone, hsource]
    rfl

theorem listOf_text_eq_good_iff {items : List Json} {texts : List String} :
    listOf text (.arr items) = good texts ↔ List.Forall₂ (fun j t => j = .str t) items texts := by
  rw [listOf_eq_good_iff]
  simp only [Json.arr.injEq, exists_eq_left', text_eq_good_iff]

namespace LeadRow

/-- A row can be read if its email address passes the check again and its tags are texts; all
else is taken as it is. -/
theorem load_eq_ok_iff : r.load = .ok l ↔ ∃ email tags,
    Lead.checkEmail (.str r.email) = good email ∧
    List.Forall₂ (fun j t => j = .str t) r.tags tags ∧
    l = ⟨r.id, email, r.name, r.phone, r.status, tags, r.stage, r.source,
      some (.floating r.createdAt)⟩ := by
  unfold load
  simp only [map_eq_ok_iff, mapError_eq_ok_iff, toExcept_eq_ok_iff]
  constructor
  · rintro ⟨draft, hdraft, rfl⟩
    obtain ⟨id, email, name, phone, status, tags, stage, source, createdAt, hid, hemail, hname,
      hphone, hstatus, htags, hstage, hsource, -, rfl⟩ := Lead.checkFields_eq_good_iff.mp hdraft
    obtain rfl : some r.id = id := good.inj hid
    obtain rfl : r.name = name := good.inj hname
    obtain rfl : r.phone = phone := good.inj hphone
    obtain rfl : r.status = status := good.inj hstatus
    obtain rfl : r.stage = stage := good.inj hstage
    obtain rfl : r.source = source :=
      good.inj ((orNull_text_ofOption _).symm.trans (within_eq_good_iff.mp hsource))
    exact ⟨email, tags, within_eq_good_iff.mp hemail,
      listOf_text_eq_good_iff.mp (within_eq_good_iff.mp htags), rfl⟩
  · rintro ⟨email, tags, hemail, htags, rfl⟩
    refine ⟨_, Lead.checkFields_eq_good_iff.mpr ⟨some r.id, email, r.name, r.phone, r.status, tags,
      r.stage, r.source, none, rfl, within_eq_good_iff.mpr hemail, rfl, rfl, rfl,
      within_eq_good_iff.mpr (listOf_text_eq_good_iff.mpr htags), rfl,
      within_eq_good_iff.mpr (orNull_text_ofOption _), rfl, rfl⟩, rfl⟩

/-- A row that can be read back as it is: its email address is in normal form and can be kept, and
its tags are texts. -/
structure Sound (r : LeadRow) : Prop where
  normal : Lead.normalEmail r.email = r.email
  whole : Text.isWhole r.email = true
  ne_empty : r.email ≠ ""
  texts : ∀ j ∈ r.tags, ∃ t, j = .str t

theorem Sound.load (h : r.Sound) : ∃ tags,
    r.load = .ok ⟨r.id, r.email, r.name, r.phone, r.status, tags, r.stage, r.source,
      some (.floating r.createdAt)⟩ := by
  obtain ⟨tags, htags⟩ := exists_forall₂ h.texts
  have hlen : 1 ≤ r.email.length := by
    rw [Nat.one_le_iff_ne_zero, ne_eq, String.length_eq_zero_iff]
    exact h.ne_empty
  exact ⟨tags, load_eq_ok_iff.mpr ⟨r.email, tags, Lead.checkEmail_eq_good_iff.mpr
    ⟨r.email, rfl, h.whole, hlen, h.normal.symm ▸ h.ne_empty, h.normal.symm⟩, htags, rfl⟩⟩

theorem id_of_load (h : r.load = .ok l) : l.id = r.id := by
  obtain ⟨email, tags, -, -, rfl⟩ := load_eq_ok_iff.mp h
  rfl

theorem ofSubscription_eq_ok_iff {sub : Subscription} {id : String} :
    ofSubscription sub id now = .ok r ↔
      Text.isWhole sub.name = true ∧ Text.isWhole sub.phone = true ∧
      (∀ t ∈ sub.source, Text.isWhole t = true) ∧ Calendar.inRange now.instant = true ∧
      r = ⟨id, sub.email, sub.name, sub.phone, Lead.active, [], Lead.firstStage, sub.source,
        now.instant / Calendar.second * Calendar.second⟩ := by
  unfold ofSubscription
  constructor
  · intro h
    obtain ⟨_, hname, h⟩ := bind_eq_ok_iff.mp h
    obtain ⟨_, hphone, h⟩ := bind_eq_ok_iff.mp h
    obtain ⟨_, hsource, h⟩ := bind_eq_ok_iff.mp h
    obtain ⟨created, hcreated, h⟩ := bind_eq_ok_iff.mp h
    obtain ⟨hclock, rfl⟩ := ExecutionRow.writingTime_eq_ok_iff.mp hcreated
    cases h
    exact ⟨(Column.whole_eq_ok_iff.mp hname).1, (Column.whole_eq_ok_iff.mp hphone).1,
      (Column.optional_eq_ok_iff.mp hsource).1, hclock, rfl⟩
  · rintro ⟨hname, hphone, hsource, hclock, rfl⟩
    refine bind_eq_ok_iff.mpr ⟨_, Column.whole_eq_ok hname, bind_eq_ok_iff.mpr
      ⟨_, Column.whole_eq_ok hphone, bind_eq_ok_iff.mpr
        ⟨_, Column.optional_eq_ok_iff.mpr ⟨hsource, rfl⟩, bind_eq_ok_iff.mpr
          ⟨_, ExecutionRow.writingTime_eq_ok_iff.mpr ⟨hclock, rfl⟩, rfl⟩⟩⟩⟩

/-- The row with the name and phone of a subscription, as far as they are given. -/
def refreshedBy (r : LeadRow) (sub : Subscription) : LeadRow :=
  { r with
    name := if sub.name = "" then r.name else sub.name
    phone := if sub.phone = "" then r.phone else sub.phone }

@[simp] theorem refreshedBy_id (r : LeadRow) (sub : Subscription) : (r.refreshedBy sub).id = r.id :=
  rfl

@[simp] theorem refreshedBy_email (r : LeadRow) (sub : Subscription) :
    (r.refreshedBy sub).email = r.email := rfl

theorem refreshed_eq (r : LeadRow) (sub : Subscription) (now : Calendar.Stamp) :
    r.refreshed sub now = (Column.whole (r.refreshedBy sub).name >>= fun _ =>
      Column.whole (r.refreshedBy sub).phone >>= fun _ =>
      if ((r.refreshedBy sub).name != r.name || (r.refreshedBy sub).phone != r.phone) = true then
        writingTime now >>= fun _ => pure (r.refreshedBy sub)
      else pure (r.refreshedBy sub)) := rfl

theorem refreshed_eq_ok_iff {sub : Subscription} :
    r.refreshed sub now = .ok r' ↔
      Text.isWhole (r.refreshedBy sub).name = true ∧ Text.isWhole (r.refreshedBy sub).phone = true ∧
      ((r.refreshedBy sub).name ≠ r.name ∨ (r.refreshedBy sub).phone ≠ r.phone →
        Calendar.inRange now.instant = true) ∧ r' = r.refreshedBy sub := by
  have hwrite : (r.refreshedBy sub).name ≠ r.name ∨ (r.refreshedBy sub).phone ≠ r.phone ↔
      ((r.refreshedBy sub).name != r.name || (r.refreshedBy sub).phone != r.phone) = true := by simp
  rw [hwrite, refreshed_eq]
  constructor
  · intro h
    obtain ⟨_, hname, h⟩ := bind_eq_ok_iff.mp h
    obtain ⟨_, hphone, h⟩ := bind_eq_ok_iff.mp h
    refine ⟨(Column.whole_eq_ok_iff.mp hname).1, (Column.whole_eq_ok_iff.mp hphone).1, ?_⟩
    split at h
    · obtain ⟨_, hcreated, h⟩ := bind_eq_ok_iff.mp h
      exact ⟨fun _ => (ExecutionRow.writingTime_eq_ok_iff.mp hcreated).1, (Except.ok.inj h).symm⟩
    · rename_i hkeeps
      exact ⟨fun hwrites => absurd hwrites hkeeps, (Except.ok.inj h).symm⟩
  · rintro ⟨hname, hphone, hclock, rfl⟩
    refine bind_eq_ok_iff.mpr ⟨_, Column.whole_eq_ok hname, bind_eq_ok_iff.mpr
      ⟨_, Column.whole_eq_ok hphone, ?_⟩⟩
    split
    · rename_i hwrites
      exact bind_eq_ok_iff.mpr
        ⟨_, ExecutionRow.writingTime_eq_ok_iff.mpr ⟨hclock hwrites, rfl⟩, rfl⟩
    · rfl

theorem given_eq_ok_iff {t : Option String} {text : String} :
    Column.given t = .ok text ↔ t = some text := by
  cases t <;> simp [Column.given]

/-- An update that succeeds has a value for every column, and changes no other. -/
theorem eq_of_update {fields : Json.Fields} {tags : List Json}
    (h : r.update fields tags now = .ok r') : ∃ name phone status stage source,
      textColumn fields "name" (some r.name) = .ok (some name) ∧
      textColumn fields "phone" (some r.phone) = .ok (some phone) ∧
      textColumn fields "status" (some r.status) = .ok (some status) ∧
      textColumn fields "pipeline_stage" (some r.stage) = .ok (some stage) ∧
      textColumn fields "source" r.source = .ok source ∧
      r' = { r with
        name := name, phone := phone, status := status, tags := r.keptTags tags, stage := stage,
        source := source } := by
  have hreturn : ∀ {name phone status stage : Option String} {source : Option String},
      (do return { r with
            name := ← Column.given name
            phone := ← Column.given phone
            status := ← Column.given status
            tags := r.keptTags tags
            stage := ← Column.given stage
            source := source } : Except Failure LeadRow) = .ok r' →
      ∃ n p t g, name = some n ∧ phone = some p ∧ status = some t ∧ stage = some g ∧
        r' = { r with
          name := n, phone := p, status := t, tags := r.keptTags tags, stage := g,
          source := source } := by
    intro name phone status stage source h
    obtain ⟨n, hn, h⟩ := bind_eq_ok_iff.mp h
    obtain ⟨p, hp, h⟩ := bind_eq_ok_iff.mp h
    obtain ⟨t, ht, h⟩ := bind_eq_ok_iff.mp h
    obtain ⟨g, hg, h⟩ := bind_eq_ok_iff.mp h
    rw [given_eq_ok_iff] at hn hp ht hg
    exact ⟨n, p, t, g, hn, hp, ht, hg, (Except.ok.inj h).symm⟩
  unfold update at h
  obtain ⟨name, hname, h⟩ := bind_eq_ok_iff.mp h
  obtain ⟨phone, hphone, h⟩ := bind_eq_ok_iff.mp h
  obtain ⟨status, hstatus, h⟩ := bind_eq_ok_iff.mp h
  obtain ⟨stage, hstage, h⟩ := bind_eq_ok_iff.mp h
  obtain ⟨source, hsource, h⟩ := bind_eq_ok_iff.mp h
  have hrow : ∃ n p t g, name = some n ∧ phone = some p ∧ status = some t ∧ stage = some g ∧
      r' = { r with
        name := n, phone := p, status := t, tags := r.keptTags tags, stage := g,
        source := source } := by
    dsimp only at h
    split at h
    · obtain ⟨_, -, h⟩ := bind_eq_ok_iff.mp h
      exact hreturn h
    · exact hreturn h
  obtain ⟨n, p, t, g, rfl, rfl, rfl, rfl, rfl⟩ := hrow
  exact ⟨n, p, t, g, source, hname, hphone, hstatus, hstage, hsource, rfl⟩

theorem newTags_eq_ok_iff {fields : Json.Fields} {tags : List Json} :
    r.newTags fields = .ok tags ↔ fields.get? "tags" = none ∧ r.tags = tags ∨
      ∃ j, fields.get? "tags" = some j ∧ j.members? = some tags := by
  unfold newTags
  cases fields.get? "tags" with
  | none => simp
  | some j => cases hmembers : j.members? <;> simp [hmembers]

theorem newTags_texts {fields : Json.Fields} {tags : List Json}
    (hr : ∀ j ∈ r.tags, ∃ t, j = .str t)
    (hfields : ∀ j, fields.get? "tags" = some j → ∃ ts, j = .ofTexts ts)
    (h : r.newTags fields = .ok tags) : ∀ j ∈ tags, ∃ t, j = .str t := by
  rcases newTags_eq_ok_iff.mp h with ⟨-, rfl⟩ | ⟨j, hget, hmembers⟩
  · exact hr
  · obtain ⟨ts, rfl⟩ := hfields j hget
    obtain rfl : ts.map Json.str = tags := Option.some.inj hmembers
    intro j hj
    obtain ⟨t, -, rfl⟩ := List.mem_map.mp hj
    exact ⟨t, rfl⟩

theorem keptTags_texts {tags : List Json} (hr : ∀ j ∈ r.tags, ∃ t, j = .str t)
    (htags : ∀ j ∈ tags, ∃ t, j = .str t) : ∀ j ∈ r.keptTags tags, ∃ t, j = .str t := by
  unfold keptTags
  split
  · exact hr
  · exact htags

end LeadRow

end Nurture
