import Mathlib.Data.List.Induction
import Nurture.Proofs.LeadTable
import Nurture.Proofs.LowerCase
import Nurture.Proofs.PassReport

/-!
  The directory as a fold over subscriptions

  A run of the directory is accompanied by a log of the subscriptions that were
  answered. The table holds one row for each address of the log, with the
  identifier that was given first and the last name and phone that were given
  (`Directory`); a call that is not answered leaves no trace in either
  (`DirectoryCall.performAll_directory`).
-/

namespace Nurture

open Validation Validation.Checked

variable {σ : Type} {s : Surroundings σ} {w : World σ} {db db' : Database} {r r' : LeadRow}

/-! ## Subscriptions and their log -/

/-- What a caller subscribes with. -/
structure Signup where
  email : String
  source : Option String
  name : Option String
  phone : Option String

namespace Signup

def form (u : Signup) : SubscriptionForm :=
  ⟨.str u.email, .ofOption u.source, .ofOption u.name, .ofOption u.phone⟩

def subscription (u : Signup) : Subscription :=
  ⟨Lead.normalEmail u.email, u.source, u.name.getD "", u.phone.getD ""⟩

@[simp] theorem subscription_email (u : Signup) :
    u.subscription.email = Lead.normalEmail u.email := rfl

end Signup

/-- A subscription that was answered: the address in normal form, the name and phone that were
given, if any, and the identifier of the lead. -/
structure Enlisted where
  email : String
  name : String
  phone : String
  id : String

def Signup.enlisted (u : Signup) (id : String) : Enlisted :=
  ⟨Lead.normalEmail u.email, u.name.getD "", u.phone.getD "", id⟩

/-- The identifier that was given to an address first. -/
def firstId (log : List Enlisted) (email : String) : Option String :=
  (log.find? fun e => e.email == email).map (·.id)

/-- The last text that was given for an address and is not empty, or else the empty one. -/
def lastGiven (text : Enlisted → String) (log : List Enlisted) (email : String) : String :=
  (((log.filter fun e => e.email == email).map text).filter (· ≠ "")).getLastD ""

/-- The addresses that were subscribed. -/
def addresses (log : List Enlisted) : List String := log.map (·.email)

theorem firstId_concat (log : List Enlisted) (e : Enlisted) (email : String) :
    firstId (log ++ [e]) email
      = (firstId log email).or (if e.email = email then some e.id else none) := by
  unfold firstId
  rw [List.find?_append, List.find?_singleton]
  cases log.find? fun e => e.email == email <;> by_cases h : e.email = email <;> simp [h]

theorem lastGiven_concat_of_eq (text : Enlisted → String) (log : List Enlisted) (e : Enlisted) :
    lastGiven text (log ++ [e]) e.email =
      if text e = "" then lastGiven text log e.email else text e := by
  unfold lastGiven
  by_cases htext : text e = "" <;> simp [htext]

theorem lastGiven_concat_of_ne {text : Enlisted → String} {log : List Enlisted} {e : Enlisted}
    {email : String} (h : e.email ≠ email) :
    lastGiven text (log ++ [e]) email = lastGiven text log email := by
  unfold lastGiven
  simp [h]

theorem firstId_eq_none {log : List Enlisted} {email : String} (h : email ∉ addresses log) :
    firstId log email = none := by
  have hnone : ∀ e ∈ log, e.email ≠ email := fun e he heq => h (List.mem_map.mpr ⟨e, he, heq⟩)
  rw [firstId, List.find?_eq_none.mpr (by simpa using hnone)]
  rfl

theorem lastGiven_eq_empty {text : Enlisted → String} {log : List Enlisted} {email : String}
    (h : email ∉ addresses log) : lastGiven text log email = "" := by
  have hnone : ∀ e ∈ log, e.email ≠ email := fun e he heq => h (List.mem_map.mpr ⟨e, he, heq⟩)
  have hfilter : (log.filter fun e => e.email == email) = [] :=
    List.filter_eq_nil_iff.mpr (by simpa using hnone)
  rw [lastGiven, hfilter]
  rfl

/-- Calls of the directory that add leads or change what funnels and tags are about. -/
inductive DirectoryCall where
  | subscribe (u : Signup)
  | addTag (id tag : String)
  | updateStage (id stage : String)
  | updateLead (id : String) (fields : Json.Fields)

/-- New values for the status, the tags, the stage and the source, each of the type of its
column. -/
def LeadRow.IsTyped (fields : Json.Fields) : Prop :=
  ∀ f ∈ fields, (f.1 = "status" ∨ f.1 = "pipeline_stage") ∧ (∃ t, f.2 = .str t) ∨
    f.1 = "tags" ∧ (∃ ts, f.2 = .ofTexts ts) ∨ f.1 = "source" ∧ ∃ t, f.2 = .ofOption t

namespace DirectoryCall

/-- An update gives typed values. -/
def IsTyped : DirectoryCall → Prop
  | updateLead _ fields => LeadRow.IsTyped fields
  | _ => True

/-- The world and the log after a call. -/
def perform (s : Surroundings σ) (w : World σ) (log : List Enlisted) :
    DirectoryCall → World σ × List Enlisted
  | subscribe u =>
    match (Store.subscribe u.form).run s w with
    | (.ok (.own l), w') => (w', log ++ [u.enlisted l.id])
    | (_, w') => (w', log)
  | addTag id tag => (((Store.addTag id (.str tag)).run s w).2, log)
  | updateStage id stage => (((Store.updateStage id (.str stage)).run s w).2, log)
  | updateLead id fields => (((Store.updateLead id fields).run s w).2, log)

/-- The world and the log after calls, each in its surroundings. -/
def performAll (w : World σ) (calls : List (Surroundings σ × DirectoryCall)) :
    World σ × List Enlisted :=
  calls.foldl (fun x c => c.2.perform c.1 x.1 x.2) (w, [])

end DirectoryCall

/-! ## What a subscription writes -/

namespace Signup

/-- Whether the address of the subscription is in order: a text that can be encoded and is not
blank. -/
def IsAddressed (u : Signup) : Prop :=
  Text.isWhole u.email = true ∧ Lead.normalEmail u.email ≠ ""

theorem check_eq_good_iff {u : Signup} {sub : Subscription} :
    u.form.check = good sub ↔ u.IsAddressed ∧ sub = u.subscription := by
  have htext : ∀ t : Option String, text (orEmptyText (.ofOption t)) = good (t.getD "") := by
    rintro (_ | t)
    · rfl
    · by_cases ht : t = ""
      · subst ht
        rfl
      · simp [orEmptyText, Json.ofOption, Json.isGiven, ht, text]
  rw [SubscriptionForm.check_eq_good_iff, Lead.checkEmail_eq_good_iff]
  simp only [form, htext, orNull_text_ofOption, Json.str.injEq, good.injEq]
  constructor
  · rintro ⟨⟨_, rfl, hwhole, -, hne, hemail⟩, hname, hphone, hsource⟩
    refine ⟨⟨hwhole, hne⟩, ?_⟩
    cases sub
    simp_all [subscription]
  · rintro ⟨⟨hwhole, hne⟩, rfl⟩
    refine ⟨⟨u.email, rfl, hwhole, Nat.one_le_iff_ne_zero.mpr fun hlen => hne ?_, hne, rfl⟩, rfl,
      rfl, rfl⟩
    rw [String.length_eq_zero_iff.mp hlen]
    rfl

end Signup

theorem Database.enrolment_eq_ok_iff {u : Signup} {id : String} {now : Calendar.Stamp} :
    db.enrolment u.form id now = .ok r ↔ u.IsAddressed ∧
      ((∀ held ∈ db.leads, held.email ≠ Lead.normalEmail u.email) ∧
          LeadRow.ofSubscription u.subscription id now = .ok r ∨
        ∃ held, (db.leads.find? fun r => r.email == Lead.normalEmail u.email) = some held ∧
          held.refreshed u.subscription now = .ok r) := by
  unfold enrolment
  simp only [bind_eq_ok_iff, mapError_eq_ok_iff, toExcept_eq_ok_iff, Signup.check_eq_good_iff,
    Column.whole_eq_ok_iff]
  constructor
  · rintro ⟨_, ⟨haddressed, rfl⟩, _, -, h⟩
    refine ⟨haddressed, ?_⟩
    cases hfind : db.leads.find? fun r => r.email == u.subscription.email with
    | none =>
      rw [hfind] at h
      exact .inl ⟨by simpa using hfind, h⟩
    | some held =>
      rw [hfind] at h
      exact .inr ⟨held, hfind, h⟩
  · rintro ⟨haddressed, h⟩
    refine ⟨_, ⟨haddressed, rfl⟩, _, ⟨Lead.isWhole_normalEmail haddressed.1, rfl⟩, ?_⟩
    rcases h with ⟨hnone, h⟩ | ⟨held, hfind, h⟩
    · have hfind : (db.leads.find? fun r => r.email == u.subscription.email) = none :=
        List.find?_eq_none.mpr (by simpa using hnone)
      rwa [hfind]
    · rwa [u.subscription_email, hfind]

theorem Column.whole_ne_constraint {t : String} : Column.whole t ≠ .error .constraint := by
  unfold Column.whole
  split <;> nofun

theorem Column.optional_ne_constraint {t : Option String} :
    Column.optional t ≠ .error .constraint := by
  cases t with
  | none => nofun
  | some t => exact bind_ne_error (f := fun t => pure (some t)) Column.whole_ne_constraint nofun

theorem writingTime_ne_constraint {now : Calendar.Stamp} :
    writingTime now ≠ .error .constraint := by
  unfold writingTime
  split <;> nofun

/-- No row that a subscription writes runs into a constraint of the table. -/
theorem Database.enrolment_ne_constraint {form : SubscriptionForm} {id : String}
    {now : Calendar.Stamp} : db.enrolment form id now ≠ .error .constraint := by
  have hchecked : (form.check.toExcept "Lead").mapError Failure.invalid ≠ .error .constraint := by
    cases form.check.toExcept "Lead" <;> nofun
  refine bind_ne_error hchecked fun sub => bind_ne_error Column.whole_ne_constraint fun _ => ?_
  split
  · refine bind_ne_error Column.whole_ne_constraint fun _ =>
      bind_ne_error Column.whole_ne_constraint fun _ => ?_
    exact bind_ne_error Column.optional_ne_constraint fun _ =>
      bind_ne_error writingTime_ne_constraint nofun
  · rw [LeadRow.refreshed_eq]
    refine bind_ne_error Column.whole_ne_constraint fun _ =>
      bind_ne_error Column.whole_ne_constraint fun _ => ?_
    split
    · exact bind_ne_error writingTime_ne_constraint nofun
    · nofun

/-! ## The directory along a run -/

/-- A row is what the log says of its address, and can be read back. -/
structure LeadRow.Records (log : List Enlisted) (issued : Issued) (r : LeadRow) : Prop where
  sound : r.Sound
  name_whole : Text.isWhole r.name = true
  phone_whole : Text.isWhole r.phone = true
  issued : issued.HasLead r.id
  firstId_eq : firstId log r.email = some r.id
  name_eq : r.name = lastGiven (·.name) log r.email
  phone_eq : r.phone = lastGiven (·.phone) log r.email

/-- The table holds one row for each address of the log. -/
structure Directory (log : List Enlisted) (db : Database) (issued : Issued) : Prop where
  ids : (db.leads.map (·.id)).Nodup
  emails : (db.leads.map (·.email)).Nodup
  known : ∀ email, email ∈ db.leads.map (·.email) ↔ email ∈ addresses log
  records : ∀ r ∈ db.leads, r.Records log issued

theorem LeadRow.Records.concat {log : List Enlisted} {issued : Issued} {e : Enlisted}
    (h : r.Records log issued) (hne : e.email ≠ r.email) : r.Records (log ++ [e]) issued :=
  { h with
    firstId_eq := by rw [firstId_concat, h.firstId_eq, Option.some_or]
    name_eq := by rw [lastGiven_concat_of_ne hne, ← h.name_eq]
    phone_eq := by rw [lastGiven_concat_of_ne hne, ← h.phone_eq] }

namespace Directory

variable {log : List Enlisted} {issued issued' : Issued} {u : Signup}

theorem mono (h : Directory log db issued) (hgrows : issued.Grows issued') :
    Directory log db issued' :=
  { h with
    records := fun r hr =>
      { h.records r hr with issued := (h.records r hr).issued.mono hgrows } }

theorem unissued (h : Directory log db issued) :
    ∀ r ∈ db.leads, r.id ≠ issued.nextLead :=
  fun r hr => (h.records r hr).issued.ne_nextLead

theorem edited {edits : LeadRow → LeadRow → Prop} (h : Directory log db issued)
    (hedited : Store.Edited edits db issued db' issued')
    (hedits : ∀ r r', edits r r' → r.Sound →
      r'.email = r.email ∧ r'.name = r.name ∧ r'.phone = r.phone ∧ r'.Sound) :
    Directory log db' issued' := by
  cases hedited with
  | same => exact h
  | @put r r' hr hedit hid =>
    have hrow := h.records r hr
    obtain ⟨hemail, hname, hphone, hsound⟩ := hedits r r' hedit hrow.sound
    have hids : (db.putLead r').leads.map (·.id) = db.leads.map (·.id) :=
      map_putRow h.ids hr hid hid
    have hemails : (db.putLead r').leads.map (·.email) = db.leads.map (·.email) :=
      map_putRow h.ids hr hid hemail
    refine ⟨hids ▸ h.ids, hemails ▸ h.emails, fun email => hemails ▸ h.known email, fun x hx => ?_⟩
    rcases mem_putRow_iff.mp hx with rfl | ⟨hx, -⟩
    · exact ⟨hsound, hname ▸ hrow.name_whole, hphone ▸ hrow.phone_whole, hid ▸ hrow.issued,
        by rw [hemail, hid]; exact hrow.firstId_eq, by rw [hemail, hname]; exact hrow.name_eq,
        by rw [hemail, hphone]; exact hrow.phone_eq⟩
    · exact h.records x hx

/-- A new address gets a row of its own. -/
theorem added (h : Directory log db issued) (hu : u.IsAddressed) {now : Calendar.Stamp}
    (hnew : ∀ held ∈ db.leads, held.email ≠ Lead.normalEmail u.email)
    (hrow : LeadRow.ofSubscription u.subscription issued.nextLead now = .ok r)
    (hgrows : issued.Grows issued') (hlt : issued.leads < issued'.leads) :
    Directory (log ++ [u.enlisted r.id]) (db.putLead r) issued' := by
  obtain ⟨hname, hphone, -, -, rfl⟩ := LeadRow.ofSubscription_eq_ok_iff.mp hrow
  have hunknown : Lead.normalEmail u.email ∉ addresses log := fun hmem => by
    obtain ⟨held, hheld, hemail⟩ := List.mem_map.mp ((h.known _).mpr hmem)
    exact hnew held hheld hemail
  rw [Store.putLead_of_new h.unissued]
  refine ⟨?_, ?_, fun email => ?_, fun x hx => ?_⟩
  · rw [Database.addLead, List.map_append, List.map_singleton, ← List.concat_eq_append]
    exact h.ids.concat fun hmem => by
      obtain ⟨x, hx, hid⟩ := List.mem_map.mp hmem
      exact h.unissued x hx hid
  · rw [Database.addLead, List.map_append, List.map_singleton, ← List.concat_eq_append]
    exact h.emails.concat fun hmem => hunknown ((h.known _).mp hmem)
  · simp [Database.addLead, addresses, Signup.enlisted, h.known email, eq_comm]
  · rcases List.mem_append.mp hx with hx | hx
    · exact ((h.mono hgrows).records x hx).concat (hnew x hx).symm
    · -- the new row
      obtain rfl := List.mem_singleton.mp hx
      have hfirst := firstId_concat log (u.enlisted issued.nextLead)
        (Lead.normalEmail u.email)
      have hlast := fun text => lastGiven_concat_of_eq text log
        (u.enlisted issued.nextLead)
      rw [firstId_eq_none hunknown] at hfirst
      refine ⟨⟨Lead.normalEmail_normalEmail _, Lead.isWhole_normalEmail hu.1, hu.2, nofun⟩, hname,
        hphone, hgrows.hasLead_nextLead hlt, hfirst.trans (by simp [Signup.enlisted]), ?_, ?_⟩
      · refine Eq.trans ?_ (hlast _).symm
        split
        · rename_i hempty
          exact hempty.trans (lastGiven_eq_empty hunknown).symm
        · rfl
      · refine Eq.trans ?_ (hlast _).symm
        split
        · rename_i hempty
          exact hempty.trans (lastGiven_eq_empty hunknown).symm
        · rfl

/-- A known address keeps its row, which takes over the name and phone that are given. -/
theorem refreshed (h : Directory log db issued) {held : LeadRow} {now : Calendar.Stamp}
    (hheld : held ∈ db.leads) (hemail : held.email = Lead.normalEmail u.email)
    (hrow : held.refreshed u.subscription now = .ok r) :
    Directory (log ++ [u.enlisted r.id]) (db.putLead r) issued := by
  obtain ⟨hname, hphone, -, rfl⟩ := LeadRow.refreshed_eq_ok_iff.mp hrow
  have hrecords := h.records held hheld
  have hids : (db.putLead (held.refreshedBy u.subscription)).leads.map (·.id) =
      db.leads.map (·.id) := map_putRow h.ids hheld rfl rfl
  have hemails : (db.putLead (held.refreshedBy u.subscription)).leads.map (·.email) =
      db.leads.map (·.email) := map_putRow h.ids hheld rfl rfl
  refine ⟨hids ▸ h.ids, hemails ▸ h.emails, fun email => ?_, fun x hx => ?_⟩
  · rw [hemails, h.known, addresses, addresses, List.map_append, List.mem_append]
    refine ⟨.inl, fun hmem => hmem.elim id fun hnow => ?_⟩
    obtain rfl : email = Lead.normalEmail u.email := by simpa [Signup.enlisted] using hnow
    exact (h.known _).mp (hemail ▸ List.mem_map_of_mem hheld)
  · rcases mem_putRow_iff.mp hx with rfl | ⟨hx, hid⟩
    · -- the row of the address
      have hlast := fun text => lastGiven_concat_of_eq text log (u.enlisted held.id)
      refine { hrecords with
        name_whole := hname, phone_whole := hphone, sound := { hrecords.sound with },
        firstId_eq := ?_, name_eq := ?_, phone_eq := ?_ }
      · rw [LeadRow.refreshedBy_email, LeadRow.refreshedBy_id, firstId_concat, hrecords.firstId_eq,
          Option.some_or]
      · refine Eq.trans ?_ ((congrArg _ hemail).trans (hlast _)).symm
        exact congrArg (ite _ · _) (hrecords.name_eq.trans (congrArg _ hemail))
      · refine Eq.trans ?_ ((congrArg _ hemail).trans (hlast _)).symm
        exact congrArg (ite _ · _) (hrecords.phone_eq.trans (congrArg _ hemail))
    · -- the rows of other addresses
      refine (h.records x hx).concat fun heq => ?_
      obtain rfl := List.inj_on_of_nodup_map h.emails hx hheld (heq.symm.trans hemail.symm)
      exact hid rfl

/-- A subscription that is made is in the directory, and one that is refused leaves the tables as
they are. -/
theorem enrols (h : Directory log db issued) {now : Calendar.Stamp} {answer : Except Failure Lead}
    (henrols : Enrols now u.form db issued answer db' issued') :
    (∃ row l, db.enrolment u.form issued.nextLead now = .ok row ∧ row.load = .ok l ∧
        answer = .ok l ∧ db' = db.putLead row ∧ Directory (log ++ [u.enlisted l.id]) db' issued') ∨
      ∃ e, db.enrolment u.form issued.nextLead now = .error e ∧ answer = .error e ∧
        db' = db ∧ Directory log db' issued' := by
  cases henrols with
  | refused hgrows herror => exact .inr ⟨_, herror, rfl, rfl, h.mono hgrows⟩
  | @kept row _ hgrows hrow hid =>
    have hkept : Directory (log ++ [u.enlisted row.id]) (db.putLead row) issued' := by
      obtain ⟨hu, ⟨hnew, hrow⟩ | ⟨held, hfind, hrow⟩⟩ := Database.enrolment_eq_ok_iff.mp hrow
      · refine h.added hu hnew hrow hgrows (hid ?_)
        obtain ⟨-, -, -, -, rfl⟩ := LeadRow.ofSubscription_eq_ok_iff.mp hrow
        rfl
      · exact (h.refreshed (List.mem_of_find?_eq_some hfind) (by simpa using List.find?_some hfind)
          hrow).mono hgrows
    obtain ⟨tags, hload⟩ := (hkept.records row mem_putRow).sound.load
    exact .inl ⟨row, _, hrow, hload, hload, rfl, hkept⟩

theorem enrolled (h : Directory log db issued) {now : Calendar.Stamp}
    {reply : Except Failure (Reply Lead)}
    (henrolled : Enrolled now u.form db issued reply db' issued') :
    (∃ row l, db.enrolment u.form issued.nextLead now = .ok row ∧ row.load = .ok l ∧
        reply = .ok (.own l) ∧ db' = db.putLead row ∧
        Directory (log ++ [u.enlisted l.id]) db' issued') ∨
      (∀ l, reply ≠ .ok (.own l)) ∧ reply ≠ .error .constraint ∧ db' = db ∧
        Directory log db' issued' := by
  cases henrolled with
  | broke => exact .inr ⟨nofun, nofun, rfl, h⟩
  | answered => exact .inr ⟨nofun, nofun, rfl, h⟩
  | made henrols =>
    obtain ⟨row, l, hrow, hload, rfl, hdirectory⟩ | ⟨e, herror, rfl, hdirectory⟩ := h.enrols henrols
    · exact .inl ⟨row, l, hrow, hload, rfl, hdirectory⟩
    · exact .inr ⟨nofun, fun hclash => Database.enrolment_ne_constraint
        (herror.trans (congrArg _ (Except.error.inj hclash))), hdirectory⟩

end Directory

/-! ### Updates -/

theorem Json.Fields.mem_of_get? {fields : Json.Fields} {key : String} {j : Json}
    (h : fields.get? key = some j) : (key, j) ∈ fields := by
  obtain ⟨⟨key', j'⟩, hfind, rfl⟩ := Option.map_eq_some_iff.mp h
  obtain rfl : key' = key := by simpa using List.find?_some hfind
  exact List.mem_of_find?_eq_some hfind

namespace LeadRow

variable {fields : Json.Fields} {now : Calendar.Stamp}

theorem tags_of_isTyped (hfields : IsTyped fields) {j : Json} (h : fields.get? "tags" = some j) :
    ∃ ts, j = .ofTexts ts := by
  rcases hfields _ (Json.Fields.mem_of_get? h) with ⟨hkey, -⟩ | ⟨-, hts⟩ | ⟨hkey, -⟩
  · simp at hkey
  · exact hts
  · simp at hkey

theorem textColumn_of_isTyped (hfields : IsTyped fields) {key : String}
    (hkey : key ≠ "status" ∧ key ≠ "pipeline_stage" ∧ key ≠ "tags" ∧ key ≠ "source")
    {held text : Option String} (h : textColumn fields key held = .ok text) : text = held := by
  have hget : fields.get? key = none := by
    cases hget : fields.get? key with
    | none => rfl
    | some j =>
      rcases hfields _ (Json.Fields.mem_of_get? hget) with ⟨h | h, -⟩ | ⟨h, -⟩ | ⟨h, -⟩
      · exact absurd h hkey.1
      · exact absurd h hkey.2.1
      · exact absurd h hkey.2.2.1
      · exact absurd h hkey.2.2.2
  rw [textColumn, hget] at h
  exact (Except.ok.inj h).symm

end LeadRow

theorem Store.Revised.of_isTyped {fields : Json.Fields} {now : Calendar.Stamp}
    (hfields : LeadRow.IsTyped fields) (h : Store.Revised fields now r r') (hr : r.Sound) :
    r'.email = r.email ∧ r'.name = r.name ∧ r'.phone = r.phone ∧ r'.Sound := by
  obtain ⟨tags, htags, hupdate⟩ := h
  obtain ⟨name, phone, status, stage, source, hname, hphone, -, -, -, rfl⟩ :=
    LeadRow.eq_of_update hupdate
  have hname := LeadRow.textColumn_of_isTyped hfields (by decide) hname
  have hphone := LeadRow.textColumn_of_isTyped hfields (by decide) hphone
  have htexts := LeadRow.newTags_texts hr.texts (fun _ => LeadRow.tags_of_isTyped hfields) htags
  exact ⟨rfl, Option.some.inj hname, Option.some.inj hphone,
    { hr with texts := LeadRow.keptTags_texts hr.texts htexts }⟩

/-! ### Runs -/

theorem DirectoryCall.perform_directory {log : List Enlisted} {c : DirectoryCall} (hc : c.IsTyped)
    (h : Directory log w.database w.issued) :
    Directory (c.perform s w log).2 (c.perform s w log).1.database
      (c.perform s w log).1.issued := by
  cases c with
  | subscribe u =>
    rw [perform]
    rcases hrun : (Store.subscribe u.form).run s w with ⟨reply, w'⟩
    have hcases := Store.subscribe_cases (s := s) u.form h.unissued
    rw [hrun] at hcases
    rcases h.enrolled hcases with ⟨row, l, -, -, rfl, -, hdirectory⟩ | ⟨hother, -, -, hdirectory⟩
    · exact hdirectory
    · rcases reply with e | ⟨l | j⟩
      · exact hdirectory
      · exact absurd rfl (hother l)
      · exact hdirectory
  | addTag id tag =>
    refine h.edited (Store.addTag_cases id (.str tag) w) ?_
    rintro r _ ⟨-, rfl⟩ hr
    refine ⟨rfl, rfl, rfl, { hr with texts := fun j hj => ?_ }⟩
    rcases List.mem_append.mp hj with hj | hj
    · exact hr.texts j hj
    · exact ⟨tag, List.mem_singleton.mp hj⟩
  | updateStage id stage =>
    refine h.edited (Store.updateStage_cases id (.str stage) w) fun r r' hrevised hr => ?_
    refine hrevised.of_isTyped ?_ hr
    simp [LeadRow.IsTyped]
  | updateLead id fields =>
    exact h.edited (Store.updateLead_cases id fields w) fun r r' hrevised hr =>
      hrevised.of_isTyped hc hr

/-- The directory follows the log along a run. -/
theorem DirectoryCall.performAll_directory {calls : List (Surroundings σ × DirectoryCall)}
    (hcalls : ∀ c ∈ calls, c.2.IsTyped) (hw : w.database.leads = []) :
    Directory (performAll w calls).2 (performAll w calls).1.database
      (performAll w calls).1.issued := by
  induction calls using List.reverseRecOn with
  | nil =>
    show Directory [] w.database w.issued
    constructor <;> simp [hw, addresses]
  | append_singleton calls c ih =>
    have hdirectory := ih fun c hc => hcalls c (List.mem_append_left _ hc)
    rw [performAll, List.foldl_concat]
    exact perform_directory (hcalls c (List.mem_append_right _ (List.mem_singleton_self c)))
      hdirectory

end Nurture
