import Nurture.Proofs.LeadRows

/-!
  The table of leads

  What each call of the directory makes of the table of leads, whatever comes in its way: nothing,
  or one row is added at the end (`Enrolled`), or put in the place of the one with its
  identifier (`Edited`). The invariants of runs of the directory look at nothing
  else.
-/

namespace Nurture

open Validation Validation.Checked Nurture.Action

variable {σ : Type} {s : Surroundings σ} {w : World σ} {db : Database} {r r' : LeadRow}

namespace Issued

/-- The identifier for the next lead. -/
def nextLead (i : Issued) : String := i.naming.name .lead (i.leads + 1)

/-- The identifier was given out to a lead. -/
def HasLead (i : Issued) (id : String) : Prop := ∃ n ≤ i.leads, id = i.naming.name .lead n

/-- Leads may have been given identifiers since. -/
structure Grows (i i' : Issued) : Prop where
  naming_eq : i'.naming = i.naming
  le : i.leads ≤ i'.leads

theorem Grows.refl (i : Issued) : i.Grows i := ⟨rfl, Nat.le_refl _⟩

theorem HasLead.mono {i i' : Issued} {id : String} (h : i.HasLead id) (hi : i.Grows i') :
    i'.HasLead id := by
  obtain ⟨n, hn, hid⟩ := h
  exact ⟨n, Nat.le_trans hn hi.le, hi.naming_eq ▸ hid⟩

theorem HasLead.ne_nextLead {i : Issued} {id : String} (h : i.HasLead id) : id ≠ i.nextLead := by
  obtain ⟨n, hn, rfl⟩ := h
  intro heq
  have := i.naming.distinct _ _ _ heq
  omega

theorem Grows.hasLead_nextLead {i i' : Issued} (h : i.Grows i') (hlt : i.leads < i'.leads) :
    i'.HasLead i.nextLead :=
  ⟨i.leads + 1, hlt, by rw [nextLead, h.naming_eq]⟩

end Issued

/-- The tables with a lead put in the place of the one with its identifier. -/
def Database.putLead (db : Database) (row : LeadRow) : Database :=
  { db with leads := putRow (·.id) row db.leads }

/-- The tables with a lead at the end. -/
def Database.addLead (db : Database) (row : LeadRow) : Database :=
  { db with leads := db.leads ++ [row] }

namespace Store

theorem run_leadRow? (id : String) :
    (leadRow? id).run s w
      = ((Column.whole id).map fun _ => w.database.leads.find? fun r => r.id == id, w) :=
  run_lookup (fun db id => db.leads.find? fun r : LeadRow => r.id == id) id s w

theorem run_leadRowByEmail? (email : String) :
    (leadRowByEmail? email).run s w
      = ((Column.whole email).map fun _ => w.database.leads.find? fun r => r.email == email, w) :=
  run_lookup (fun db email => db.leads.find? fun r : LeadRow => r.email == email) email s w

/-! ## Subscribing -/

/-- A subscription of an address that is new. -/
def addLead (sub : Subscription) (now : Calendar.Stamp) : Action σ Lead := do
  let id ← Action.issue .lead (·.leads) fun n => { n with leads := n.leads + 1 }
  Action.note [.subscribed sub.email sub.source]
  let row ← Action.ofExcept (LeadRow.ofSubscription sub id now)
  let db ← Action.database
  if db.leads.any fun r => r.id == row.id || r.email == row.email then Action.fail .constraint
  Action.modifyDatabase fun db => { db with leads := db.leads ++ [row] }
  Action.ofExcept row.load

/-- A subscription of the address of a lead. -/
def refreshLead (sub : Subscription) (row : LeadRow) (now : Calendar.Stamp) : Action σ Lead := do
  Action.note [.resubscribed sub.email]
  let row ← Action.ofExcept (row.refreshed sub now)
  putLead row
  Action.ofExcept row.load

/-- What subscribing comes to, apart from what may come in its way. -/
def enrol (form : SubscriptionForm) : Action σ Lead := do
  let sub ← ofExcept ((form.check.toExcept "Lead").mapError .invalid)
  let held ← leadRowByEmail? sub.email
  let now ← databaseClock
  match held with
  | none => addLead sub now
  | some row => refreshLead sub row now

theorem subscribe_eq (form : SubscriptionForm) :
    (subscribe form : Action σ (Reply Lead)) = guarded .subscribe (enrol form) := rfl

end Store

/-- The row that a subscription writes: that of the lead with the address, refreshed, or one with
the identifier. -/
def Database.enrolment (db : Database) (form : SubscriptionForm) (id : String)
    (now : Calendar.Stamp) : Except Failure LeadRow := do
  let sub ← (form.check.toExcept "Lead").mapError .invalid
  let _ ← Column.whole sub.email
  match db.leads.find? fun r => r.email == sub.email with
  | none => LeadRow.ofSubscription sub id now
  | some r => r.refreshed sub now

/-- What subscribing comes to when nothing comes in its way. -/
inductive Enrols (now : Calendar.Stamp) (form : SubscriptionForm) (db : Database)
    (issued : Issued) : Except Failure Lead → Database → Issued → Prop
  /-- There is no row to be written. -/
  | refused {e : Failure} {issued' : Issued} (hgrows : issued.Grows issued')
      (h : db.enrolment form issued.nextLead now = .error e) :
      Enrols now form db issued (.error e) db issued'
  /-- The row is written, and read back. -/
  | kept {row : LeadRow} {issued' : Issued} (hgrows : issued.Grows issued')
      (h : db.enrolment form issued.nextLead now = .ok row)
      (hid : row.id = issued.nextLead → issued.leads < issued'.leads) :
      Enrols now form db issued row.load (db.putLead row) issued'

/-- What a call to subscribe comes to. -/
inductive Enrolled (now : Calendar.Stamp) (form : SubscriptionForm) (db : Database)
    (issued : Issued) : Except Failure (Reply Lead) → Database → Issued → Prop
  | broke (reason : String) : Enrolled now form db issued (.error (.broken reason)) db issued
  /-- The outside answered. -/
  | answered (j : Json) : Enrolled now form db issued (.ok (.foreign j)) db issued
  | made {answer : Except Failure Lead} {db' : Database} {issued' : Issued}
      (h : Enrols now form db issued answer db' issued') :
      Enrolled now form db issued (answer.map .own) db' issued'

namespace Store

theorem putLead_of_new (h : ∀ r' ∈ db.leads, r'.id ≠ r.id) : db.putLead r = db.addLead r := by
  rw [Database.putLead, putRow_of_new h]
  rfl

theorem run_addLead {sub : Subscription} {now : Calendar.Stamp}
    (hrow : LeadRow.ofSubscription sub w.issued.nextLead now = .ok r)
    (hemail : ∀ r' ∈ w.database.leads, r'.email ≠ r.email)
    (hnew : ∀ r' ∈ w.database.leads, r'.id ≠ r.id) :
    ∃ w', (addLead sub now).run s w = (r.load, w') ∧ w'.database = w.database.addLead r ∧
      w'.issued = { w.issued with leads := w.issued.leads + 1 } := by
  have hany : (w.database.leads.any fun x => x.id == r.id || x.email == r.email) = false :=
    List.any_eq_false.mpr fun x hx => by simp [hnew x hx, hemail x hx]
  unfold addLead
  rw [run_bind_ok (run_issue _ _ _ s w), run_bind_ok (run_note _ s _), ← Issued.nextLead, hrow,
    run_bind_ok (run_ofExcept _ s _), run_bind_ok (run_database s _)]
  simp only [hany, Bool.false_eq_true, if_false]
  rw [run_bind_ok (run_modifyDatabase _ s _), run_ofExcept]
  exact ⟨_, rfl, rfl, rfl⟩

theorem run_addLead_error {sub : Subscription} {now : Calendar.Stamp} {e : Failure}
    (hrow : LeadRow.ofSubscription sub w.issued.nextLead now = .error e) :
    ∃ w', (addLead sub now).run s w = (.error e, w') ∧ w'.database = w.database ∧
      w'.issued = { w.issued with leads := w.issued.leads + 1 } := by
  unfold addLead
  rw [run_bind_ok (run_issue _ _ _ s w), run_bind_ok (run_note _ s _), ← Issued.nextLead, hrow]
  exact ⟨_, rfl, rfl, rfl⟩

theorem run_refreshLead (sub : Subscription) (r : LeadRow) (now : Calendar.Stamp) :
    ∃ w', (refreshLead sub r now).run s w = ((r.refreshed sub now).bind LeadRow.load, w') ∧
      w'.issued = w.issued ∧
      w'.database = match r.refreshed sub now with
        | .ok row => w.database.putLead row
        | .error _ => w.database := by
  unfold refreshLead
  rw [run_bind_ok (run_note _ s w), run_bind, run_ofExcept]
  cases r.refreshed sub now with
  | error e => exact ⟨_, rfl, rfl, rfl⟩
  | ok row =>
    dsimp only
    rw [putLead, run_bind_ok (run_modifyDatabase _ s _), run_ofExcept]
    exact ⟨_, rfl, rfl, rfl⟩

theorem addLead_leaves (sub : Subscription) (now : Calendar.Stamp) (s : Surroundings σ)
    (w : World σ) :
    ((addLead sub now).run s w).2.database = w.database ∨
      ∃ id r, LeadRow.ofSubscription sub id now = .ok r ∧
        ((addLead sub now).run s w).2.database = w.database.addLead r := by
  unfold addLead
  rw [run_bind_ok (run_issue _ _ _ s w), run_bind_ok (run_note _ s _), run_bind, run_ofExcept,
    ← Issued.nextLead]
  cases hrow : LeadRow.ofSubscription sub w.issued.nextLead now with
  | error e => exact .inl rfl
  | ok r =>
    dsimp only
    rw [run_bind_ok (run_database s _)]
    dsimp only
    split
    · exact .inl rfl
    · rw [run_bind_ok (run_modifyDatabase _ s _), run_ofExcept]
      exact .inr ⟨_, r, hrow, rfl⟩

/-- The subscription of a form, or what was found against it. -/
def checked (form : SubscriptionForm) : Except Failure Subscription :=
  (form.check.toExcept "Lead").mapError .invalid

theorem run_enrol {form : SubscriptionForm} {sub : Subscription} (hcheck : checked form = .ok sub) :
    (enrol form).run s w = match Column.whole sub.email with
      | .error e => (.error e, w)
      | .ok _ => (match w.database.leads.find? fun r : LeadRow => r.email == sub.email with
        | none => addLead sub s.databaseClock
        | some row => refreshLead sub row s.databaseClock).run s w := by
  have hrun : (ofExcept (checked form) : Action σ Subscription).run s w = (.ok sub, w) := by
    rw [hcheck, run_ofExcept]
  unfold enrol
  rw [← checked, run_bind_ok hrun, run_bind, run_leadRowByEmail?]
  cases Column.whole sub.email with
  | error e => rfl
  | ok email => exact run_bind_ok (run_databaseClock s w)

section
variable {form : SubscriptionForm} {sub : Subscription} {now : Calendar.Stamp}

/-- A new address gets a row with the next identifier, or is refused. -/
theorem addLead_enrols (henrolment : w.database.enrolment form w.issued.nextLead now =
      LeadRow.ofSubscription sub w.issued.nextLead now)
    (hemail : ∀ r ∈ w.database.leads, r.email ≠ sub.email)
    (hnew : ∀ r ∈ w.database.leads, r.id ≠ w.issued.nextLead) :
    Enrols now form w.database w.issued ((addLead sub now).run s w).1
      ((addLead sub now).run s w).2.database ((addLead sub now).run s w).2.issued := by
  cases hrow : LeadRow.ofSubscription sub w.issued.nextLead now with
  | error e =>
    obtain ⟨w', hrun, hdb, hissued⟩ := run_addLead_error (s := s) (w := w) hrow
    rw [hrun, hdb, hissued]
    exact .refused ⟨rfl, Nat.le_succ _⟩ (henrolment.trans hrow)
  | ok row =>
    obtain ⟨-, -, -, -, rfl⟩ := LeadRow.ofSubscription_eq_ok_iff.mp hrow
    obtain ⟨w', hrun, hdb, hissued⟩ := run_addLead (s := s) hrow hemail hnew
    rw [hrun, hdb, ← putLead_of_new hnew, hissued]
    exact .kept ⟨rfl, Nat.le_succ _⟩ (henrolment.trans hrow) fun _ => Nat.lt_succ_self _

/-- The row of a known address is refreshed under the identifier that it has, or stays. -/
theorem refreshLead_enrols {held : LeadRow}
    (henrolment : w.database.enrolment form w.issued.nextLead now = held.refreshed sub now)
    (hid : held.id ≠ w.issued.nextLead) :
    Enrols now form w.database w.issued ((refreshLead sub held now).run s w).1
      ((refreshLead sub held now).run s w).2.database
      ((refreshLead sub held now).run s w).2.issued := by
  obtain ⟨w', hrun, hissued, hdb⟩ := run_refreshLead (s := s) (w := w) sub held now
  rw [hrun, hdb, hissued]
  cases hrow : held.refreshed sub now with
  | error e => exact .refused (.refl _) (henrolment.trans hrow)
  | ok row =>
    obtain ⟨-, -, -, rfl⟩ := LeadRow.refreshed_eq_ok_iff.mp hrow
    exact .kept (.refl _) (henrolment.trans hrow) fun hrefreshed => absurd hrefreshed hid

end

theorem enrol_cases (form : SubscriptionForm)
    (hnew : ∀ r ∈ w.database.leads, r.id ≠ w.issued.nextLead) :
    Enrols s.databaseClock form w.database w.issued ((enrol form).run s w).1
      ((enrol form).run s w).2.database ((enrol form).run s w).2.issued := by
  have henrolment : w.database.enrolment form w.issued.nextLead s.databaseClock =
      (checked form >>= fun sub => Column.whole sub.email >>= fun _ =>
        match w.database.leads.find? fun r => r.email == sub.email with
        | none => LeadRow.ofSubscription sub w.issued.nextLead s.databaseClock
        | some r => r.refreshed sub s.databaseClock) := rfl
  cases hcheck : checked form with
  | error e =>
    have hrun : (enrol form).run s w = (.error e, w) := by
      unfold enrol
      rw [← checked, hcheck]
      rfl
    rw [hrun]
    exact .refused (.refl _) (by rw [henrolment, hcheck]; rfl)
  | ok sub =>
    rw [run_enrol hcheck]
    rw [hcheck] at henrolment
    change _ = (Column.whole sub.email >>= _) at henrolment
    cases hwhole : Column.whole sub.email with
    | error e => exact .refused (.refl _) (by rw [henrolment, hwhole]; rfl)
    | ok email =>
      rw [hwhole] at henrolment
      cases hfind : w.database.leads.find? fun r => r.email == sub.email with
      | none =>
        have hemail := List.find?_eq_none.mp hfind
        exact addLead_enrols (henrolment.trans (by simp only [hfind]; rfl))
          (fun r hr => by simpa using hemail r hr) hnew
      | some held =>
        exact refreshLead_enrols (henrolment.trans (by simp only [hfind]; rfl))
          (hnew held (List.mem_of_find?_eq_some hfind))

theorem subscribe_cases (form : SubscriptionForm)
    (hnew : ∀ r ∈ w.database.leads, r.id ≠ w.issued.nextLead) :
    Enrolled s.databaseClock form w.database w.issued ((subscribe form).run s w).1
      ((subscribe form).run s w).2.database ((subscribe form).run s w).2.issued := by
  rw [subscribe_eq]
  exact guarded_leaves .broke .answered fun o =>
    .made (enrol_cases (w := { w with outside := o }) form hnew)

theorem subscribe_of_none (form : SubscriptionForm)
    (hnew : ∀ r ∈ w.database.leads, r.id ≠ w.issued.nextLead)
    (hs : (s.interrupt .subscribe w.outside).1 = none) :
    ∃ answer, ((subscribe form).run s w).1 = answer.map .own ∧
      Enrols s.databaseClock form w.database w.issued answer ((subscribe form).run s w).2.database
        ((subscribe form).run s w).2.issued := by
  rw [subscribe_eq, guarded, relayed_of_none hs, run_map]
  exact ⟨_, rfl, enrol_cases (w := { w with outside := (s.interrupt .subscribe w.outside).2 })
    form hnew⟩

/-- Whatever identifiers are in use, a call to subscribe leaves the tables as they are, adds a row,
or refreshes one. -/
theorem subscribe_leaves (form : SubscriptionForm) (s : Surroundings σ) (w : World σ) :
    ((subscribe form).run s w).2.database = w.database ∨ ∃ sub, form.check = good sub ∧
      ((∃ id r, LeadRow.ofSubscription sub id s.databaseClock = .ok r ∧
          ((subscribe form).run s w).2.database = w.database.addLead r) ∨
        ∃ held ∈ w.database.leads, ((subscribe form).run s w).2.database
          = w.database.putLead (held.refreshedBy sub)) := by
  rw [subscribe_eq]
  refine guarded_leaves (Q := fun _ db _ => db = w.database ∨ ∃ sub, form.check = good sub ∧
    ((∃ id r, LeadRow.ofSubscription sub id s.databaseClock = .ok r ∧ db = w.database.addLead r) ∨
      ∃ held ∈ w.database.leads, db = w.database.putLead (held.refreshedBy sub)))
    (fun _ => .inl rfl) (fun _ => .inl rfl) fun o => ?_
  cases hcheck : checked form with
  | error e =>
    left
    unfold enrol
    rw [← checked, hcheck]
    rfl
  | ok sub =>
    have hgood : form.check = good sub := toExcept_eq_ok_iff.mp (mapError_eq_ok_iff.mp hcheck)
    rw [run_enrol hcheck]
    cases Column.whole sub.email with
    | error e => exact .inl rfl
    | ok _ =>
      dsimp only
      cases hfind : w.database.leads.find? fun r => r.email == sub.email with
      | none =>
        rcases addLead_leaves sub s.databaseClock s { w with outside := o } with
          h | ⟨id, r, hrow, h⟩
        · exact .inl h
        · exact .inr ⟨sub, hgood, .inl ⟨id, r, hrow, h⟩⟩
      | some held =>
        obtain ⟨w', hrun, -, hdb⟩ :=
          run_refreshLead (s := s) (w := { w with outside := o }) sub held s.databaseClock
        dsimp only
        rw [hrun, hdb]
        cases hrow : held.refreshed sub s.databaseClock with
        | error e => exact .inl rfl
        | ok r =>
          obtain ⟨-, -, -, rfl⟩ := LeadRow.refreshed_eq_ok_iff.mp hrow
          exact .inr ⟨sub, hgood, .inr ⟨held, List.mem_of_find?_eq_some hfind, rfl⟩⟩

/-! ## Changing a row -/

/-- What updating comes to, apart from what may come in its way. -/
def revise (id : String) (fields : Json.Fields) : Action σ (Option Lead) := do
  let unknown := LeadRow.unknownKeys fields
  if unknown ≠ [] then Action.fail (.lockedFields "lead" unknown)
  match ← leadRow? id with
  | none => return none
  | some row =>
    let now ← Action.databaseClock
    let tags ← Action.ofExcept (row.newTags fields)
    let row ← Action.ofExcept (row.update fields tags now)
    putLead row
    some <$> Action.ofExcept (row.updatedLead fields tags)

theorem updateLead_eq (id : String) (fields : Json.Fields) :
    (updateLead id fields : Action σ (Reply (Option Lead)))
      = guarded .updateLead (revise id fields) :=
  rfl

/-- What tagging comes to, apart from what may come in its way. -/
def tagLead (id : String) (tag : Json) : Action σ Bool := do
  match ← leadRow? id with
  | none =>
    Action.note [.noLeadToTag id]
    return false
  | some row =>
    if row.tags.any tag.same then return false
    else
      let now ← Action.databaseClock
      let _ ← Action.ofExcept (writingTime now)
      putLead { row with tags := row.tags ++ [tag] }
      Action.note [.tagAdded tag id]
      return true

theorem addTag_eq (id : String) (tag : Json) :
    (addTag id tag : Action σ (Reply Bool)) = guarded .addTag (tagLead id tag) := rfl

/-- The table stays, or a row is put in the place of one with its identifier. -/
inductive Edited (edits : LeadRow → LeadRow → Prop) (db : Database) (issued : Issued) :
    Database → Issued → Prop
  | same : Edited edits db issued db issued
  | put {r r' : LeadRow} (hr : r ∈ db.leads) (hedit : edits r r') (hid : r'.id = r.id) :
      Edited edits db issued (db.putLead r') issued

/-- What an update makes of a row. -/
def Revised (fields : Json.Fields) (now : Calendar.Stamp) (r r' : LeadRow) : Prop :=
  ∃ tags, r.newTags fields = .ok tags ∧ r.update fields tags now = .ok r'

/-- What an update makes of a row if the values that were given pass the check of a lead. -/
def Accepted (fields : Json.Fields) (now : Calendar.Stamp) (r r' : LeadRow) : Prop :=
  ∃ tags l, r.newTags fields = .ok tags ∧ r.update fields tags now = .ok r' ∧
    r'.updatedLead fields tags = .ok l

/-- What tagging makes of a row that lacks the tag. -/
def Tagged (tag : Json) (r r' : LeadRow) : Prop :=
  r.tags.any tag.same = false ∧ r' = { r with tags := r.tags ++ [tag] }

/-- An update changes nothing and answers with no lead, or a row takes its values before they are
checked. -/
theorem run_revise (id : String) (fields : Json.Fields) (s : Surroundings σ) (w : World σ) :
    (∃ answer, (∀ l, answer ≠ .ok (some l)) ∧ (revise id fields).run s w = (answer, w)) ∨
      ∃ r ∈ w.database.leads, ∃ tags r', r.newTags fields = .ok tags ∧
        r.update fields tags s.databaseClock = .ok r' ∧ r.id = id ∧ r'.id = r.id ∧
        (revise id fields).run s w = ((r'.updatedLead fields tags).map some,
          { w with database := w.database.putLead r' }) := by
  unfold revise
  dsimp only
  split
  · exact .inl ⟨_, by simp, rfl⟩
  · rw [run_bind, run_leadRow?]
    cases Column.whole id with
    | error e => exact .inl ⟨_, by simp, rfl⟩
    | ok _ =>
      simp only [Except.map]
      cases hfind : w.database.leads.find? fun r => r.id == id with
      | none => exact .inl ⟨_, by simp, rfl⟩
      | some r =>
        dsimp only
        rw [run_bind_ok (run_databaseClock s w), run_bind, run_ofExcept]
        cases htags : r.newTags fields with
        | error e => exact .inl ⟨_, by simp, rfl⟩
        | ok tags =>
          dsimp only
          rw [run_bind, run_ofExcept]
          cases hrow : r.update fields tags s.databaseClock with
          | error e => exact .inl ⟨_, by simp, rfl⟩
          | ok r' =>
            dsimp only
            rw [putLead, run_bind_ok (run_modifyDatabase _ s w), run_map, run_ofExcept]
            obtain ⟨name, phone, status, stage, source, -, -, -, -, -, rfl⟩ :=
              LeadRow.eq_of_update hrow
            exact .inr ⟨r, List.mem_of_find?_eq_some hfind, tags, _, htags, hrow,
              by simpa using List.find?_some hfind, rfl, rfl⟩

theorem revise_cases (id : String) (fields : Json.Fields) (w : World σ) :
    Edited (Revised fields s.databaseClock) w.database w.issued
      ((revise id fields).run s w).2.database ((revise id fields).run s w).2.issued := by
  rcases run_revise id fields s w with
    ⟨answer, -, hrun⟩ | ⟨r, hr, tags, r', htags, hrow, -, hid, hrun⟩
  · rw [hrun]
    exact .same
  · rw [hrun]
    exact .put hr ⟨tags, htags, hrow⟩ hid

theorem revise_returned {id : String} {fields : Json.Fields} {l : Option Lead}
    (h : ((revise id fields).run s w).1 = .ok l) :
    Edited (Accepted fields s.databaseClock) w.database w.issued
      ((revise id fields).run s w).2.database ((revise id fields).run s w).2.issued := by
  rcases run_revise id fields s w with
    ⟨answer, -, hrun⟩ | ⟨r, hr, tags, r', htags, hrow, -, hid, hrun⟩
  · rw [hrun]
    exact .same
  · rw [hrun] at h ⊢
    obtain ⟨lead, hlead, -⟩ := map_eq_ok_iff.mp h
    exact .put hr ⟨tags, lead, htags, hrow, hlead⟩ hid

/-- An update takes effect on a row as a whole or not at all. -/
theorem updateLead_cases (id : String) (fields : Json.Fields) (w : World σ) :
    Edited (Revised fields s.databaseClock) w.database w.issued
      ((updateLead id fields).run s w).2.database ((updateLead id fields).run s w).2.issued := by
  rw [updateLead_eq]
  exact guarded_leaves (Q := fun _ db issued => Edited _ w.database w.issued db issued)
    (fun _ => .same) (fun _ => .same) fun o => revise_cases id fields { w with outside := o }

theorem updateLead_returned {id : String} {fields : Json.Fields} {reply : Reply (Option Lead)}
    (h : ((updateLead id fields).run s w).1 = .ok reply) :
    Edited (Accepted fields s.databaseClock) w.database w.issued
      ((updateLead id fields).run s w).2.database ((updateLead id fields).run s w).2.issued := by
  rw [updateLead_eq] at h ⊢
  revert h
  refine guarded_leaves
    (Q := fun answer db issued =>
      answer = .ok reply → Edited (Accepted fields s.databaseClock) w.database w.issued db issued)
    (fun _ _ => .same) (fun _ _ => .same) fun o h => ?_
  obtain ⟨l, hl, -⟩ := map_eq_ok_iff.mp h
  exact revise_returned (w := { w with outside := o }) hl

theorem updateStage_cases (id : String) (stage : Json) (w : World σ) :
    Edited (Revised [("pipeline_stage", stage)] s.databaseClock) w.database w.issued
      ((updateStage id stage).run s w).2.database ((updateStage id stage).run s w).2.issued := by
  unfold updateStage
  refine guarded_leaves (Q := fun _ db issued => Edited _ w.database w.issued db issued)
    (fun _ => .same) (fun _ => .same) fun o => ?_
  rw [snd_run_bind_pure]
  exact updateLead_cases id [("pipeline_stage", stage)] { w with outside := o }

theorem updateStage_returned {id : String} {stage : Json} {reply : Reply Bool}
    (h : ((updateStage id stage).run s w).1 = .ok reply) :
    Edited (Accepted [("pipeline_stage", stage)] s.databaseClock) w.database w.issued
      ((updateStage id stage).run s w).2.database ((updateStage id stage).run s w).2.issued := by
  revert h
  unfold updateStage
  refine guarded_leaves
    (Q := fun answer db issued => answer = .ok reply →
      Edited (Accepted [("pipeline_stage", stage)] s.databaseClock) w.database w.issued db issued)
    (fun _ _ => .same) (fun _ _ => .same) fun o h => ?_
  obtain ⟨b, hb, -⟩ := map_eq_ok_iff.mp h
  rw [run_bind] at hb
  rcases hrun : (updateLead id [("pipeline_stage", stage)]).run s { w with outside := o } with
    ⟨e | lead, w'⟩
  · rw [hrun] at hb
    cases hb
  · rw [snd_run_bind_pure]
    exact updateLead_returned (w := { w with outside := o }) (congrArg Prod.fst hrun)

theorem tagLead_cases (id : String) (tag : Json) (w : World σ) :
    Edited (Tagged tag) w.database w.issued ((tagLead id tag).run s w).2.database
      ((tagLead id tag).run s w).2.issued := by
  unfold tagLead
  rw [run_bind, run_leadRow?]
  cases Column.whole id with
  | error e => exact .same
  | ok _ =>
    simp only [Except.map]
    cases hfind : w.database.leads.find? fun r => r.id == id with
    | none => exact .same
    | some r =>
      dsimp only
      split
      · exact .same
      · rename_i hnew
        rw [run_bind_ok (run_databaseClock s w), run_bind, run_ofExcept]
        cases writingTime s.databaseClock with
        | error e => exact .same
        | ok t =>
          exact .put (List.mem_of_find?_eq_some hfind) ⟨Bool.eq_false_iff.mpr hnew, rfl⟩ rfl

theorem addTag_cases (id : String) (tag : Json) (w : World σ) :
    Edited (Tagged tag) w.database w.issued ((addTag id tag).run s w).2.database
      ((addTag id tag).run s w).2.issued := by
  rw [addTag_eq]
  exact guarded_leaves (Q := fun _ db issued => Edited _ w.database w.issued db issued)
    (fun _ => .same) (fun _ => .same) fun o => tagLead_cases id tag { w with outside := o }

/-! ## Removing a row -/

/-- The tables without the lead of an identifier. -/
def dropLead (db : Database) (id : String) : Database :=
  { db with leads := db.leads.filter fun r => r.id != id }

theorem deleteLead_cases (id : String) (s : Surroundings σ) (w : World σ) :
    (((deleteLead id).run s w).2.database = w.database ∨
      ((deleteLead id).run s w).2.database = dropLead w.database id) ∧
      ((deleteLead id).run s w).2.issued = w.issued := by
  refine guarded_leaves (Q := fun _ db issued =>
    (db = w.database ∨ db = dropLead w.database id) ∧ issued = w.issued)
    (fun _ => ⟨.inl rfl, rfl⟩) (fun _ => ⟨.inl rfl, rfl⟩) fun o => ?_
  rw [run_bind, run_leadRow?]
  cases Column.whole id with
  | error e => exact ⟨.inl rfl, rfl⟩
  | ok _ =>
    simp only [Except.map]
    cases w.database.leads.find? fun r => r.id == id with
    | none => exact ⟨.inl rfl, rfl⟩
    | some r => exact ⟨.inr rfl, rfl⟩

end Store

end Nurture
