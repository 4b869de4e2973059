import Mathlib.Data.List.Dedup
import Nurture.Proofs.Subscriptions

/-!
  What the directory answers

  After any run of the directory, what it lists and finds can be read off the log of the
  subscriptions that were answered (`Shows`), and so can what becomes of the next subscription
  (`Signup.Fares`). In surroundings in which nothing comes in the way the log is what was
  subscribed (`DirectoryCall.log_of_calls`). The three together are `directory_folds`.
-/

namespace Nurture

open Validation Validation.Checked Nurture.Action

variable {σ : Type} {s : Surroundings σ} {w : World σ} {db : Database} {r : LeadRow}
  {log : List Enlisted} {issued : Issued} {u : Signup}

/-! ## Leads that are listed and found -/

/-- The lead is what the log says of its address: it has the identifier that was given first, and
the last name and phone. -/
structure Lead.FollowsFrom (log : List Enlisted) (l : Lead) : Prop where
  firstId_eq : firstId log l.email = some l.id
  name_eq : l.name = lastGiven (·.name) log l.email
  phone_eq : l.phone = lastGiven (·.phone) log l.email

/-- The directory holds these leads: one for each address of the log, which any spelling of the
address finds. -/
structure Shows (log : List Enlisted) (w : World σ) (leads : List Lead) : Prop where
  one_each : (leads.map (·.email)).Perm (addresses log).dedup
  follows : ∀ l ∈ leads, l.FollowsFrom log
  listed : ∀ s : Surroundings σ, (s.interrupt .listLeads w.outside).1 = none →
    ((Store.listLeads none).run s w).1 = .ok (.own leads)
  found : ∀ l ∈ leads, ∀ (s : Surroundings σ) (email : String),
    (s.interrupt .leadByEmail w.outside).1 = none → Lead.normalEmail email = l.email →
    ((Store.leadByEmail email).run s w).1 = .ok (.own (some l))
  missing : ∀ (s : Surroundings σ) (email : String),
    (s.interrupt .leadByEmail w.outside).1 = none → Text.isWhole email = true →
    Lead.normalEmail email ∉ addresses log →
    ((Store.leadByEmail email).run s w).1 = .ok (.own none)

theorem LeadRow.Records.load_follows {l : Lead} (h : r.Records log issued)
    (hload : r.load = .ok l) :
    l.email = r.email ∧ l.FollowsFrom log := by
  obtain ⟨tags, hread⟩ := h.sound.load
  obtain rfl := Except.ok.inj (hread.symm.trans hload)
  exact ⟨rfl, h.firstId_eq, h.name_eq, h.phone_eq⟩

theorem Store.run_leadByEmail {email : String}
    (hs : (s.interrupt .leadByEmail w.outside).1 = none)
    (hwhole : Text.isWhole (Lead.normalEmail email) = true) :
    ((Store.leadByEmail email).run s w).1 =
      (match w.database.leads.find? fun r => r.email == Lead.normalEmail email with
        | some r => r.load.map fun l => .own (some l)
        | none => .ok (.own none)) := by
  have hrow := run_leadRowByEmail? (s := s)
    (w := { w with outside := (s.interrupt .leadByEmail w.outside).2 }) (Lead.normalEmail email)
  rw [Column.whole_eq_ok hwhole] at hrow
  rw [leadByEmail, guarded, relayed_of_none hs, run_map, run_bind_ok hrow]
  cases w.database.leads.find? fun r => r.email == Lead.normalEmail email with
  | none => rfl
  | some r =>
    dsimp only
    rw [loadLead?, run_map, run_ofExcept]
    cases r.load <;> rfl

/-- The directory of a log shows what the log says. -/
theorem Directory.shows (h : Directory log w.database w.issued) : ∃ leads, Shows log w leads := by
  have hrow : ∀ {r}, r ∈ w.database.leadRows → r.Records log w.issued := fun hr =>
    h.records _ (mem_inOrder.mp hr)
  obtain ⟨leads, hleads⟩ : ∃ leads,
      List.Forall₂ (fun r l => LeadRow.load r = .ok l) w.database.leadRows leads :=
    exists_forall₂ fun r hr => by
      obtain ⟨tags, hload⟩ := (hrow hr).sound.load
      exact ⟨_, hload⟩
  -- a lead that is listed is read from a row
  have hread : ∀ l ∈ leads, ∃ r ∈ w.database.leads, r.load = .ok l ∧ l.email = r.email ∧
      l.FollowsFrom log := by
    intro l hl
    obtain ⟨r, hr, hload⟩ := exists_mem_of_forall₂ hleads.flip hl
    exact ⟨r, mem_inOrder.mp hr, hload, (hrow hr).load_follows hload⟩
  have hemails : leads.map (·.email) = w.database.leadRows.map (·.email) := by
    refine (map_eq_map_of_forall₂ (R := fun r l => r ∈ w.database.leadRows ∧ r.load = .ok l) ?_
      fun r l h => ((hrow h.1).load_follows h.2).1.symm).symm
    exact (List.forall₂_and_left _ _).mpr ⟨fun r hr => hr, hleads⟩
  refine ⟨leads, ?_, fun l hl => ?_, fun s hs => ?_, fun l hl s email hs hemail => ?_,
    fun s email hs hwhole hnew => ?_⟩
  · rw [hemails]
    refine ((inOrder_perm _ _).map _).trans ?_
    rw [List.perm_ext_iff_of_nodup h.emails (List.nodup_dedup _)]
    exact fun email => (h.known email).trans List.mem_dedup.symm
  · obtain ⟨r, -, -, -, hfollows⟩ := hread l hl
    exact hfollows
  · rw [listLeads_none_eq]
    obtain ⟨o, hrun⟩ := run_listing_of_loads Database.leadRows LeadRow.load hs hleads
    rw [hrun]
  · obtain ⟨r, hr, hload, hrow, -⟩ := hread l hl
    have hkey : Lead.normalEmail email = r.email := hemail.trans hrow
    rw [Store.run_leadByEmail hs (hkey ▸ (h.records r hr).sound.whole), hkey, find?_key h.emails hr]
    simp only [hload, Except.map]
  · rw [Store.run_leadByEmail hs (Lead.isWhole_normalEmail hwhole), List.find?_eq_none.mpr]
    intro r hr hkey
    exact hnew ((h.known _).mp (eq_of_beq hkey ▸ List.mem_map_of_mem hr))

/-! ## The next subscription -/

namespace Signup

/-- What becomes of a subscription after those of a log. -/
structure Fares (u : Signup) (log : List Enlisted) (s : Surroundings σ) (w : World σ)
    (reply : Except Failure (Reply Lead)) (db' : Database) : Prop where
  /-- No two leads get the same address. -/
  no_clash : reply ≠ .error .constraint
  /-- A call that is not answered changes nothing. -/
  unanswered : (∀ l, reply ≠ .ok (.own l)) → db' = w.database
  /-- A blank address is not answered. -/
  blank : Lead.normalEmail u.email = "" → ∀ l, reply ≠ .ok (.own l)
  /-- If nothing comes in the way, a call that is not answered raises. -/
  raises : (s.interrupt .subscribe w.outside).1 = none →
    (∃ l, reply = .ok (.own l)) ∨ ∃ e, reply = .error e
  /-- If nothing comes in the way, a call is answered if its address is not blank and its texts can
  be encoded; the source matters for a new address only. -/
  answered_iff : (s.interrupt .subscribe w.outside).1 = none →
    Calendar.inRange s.databaseClock.instant = true →
    ((∃ l, reply = .ok (.own l)) ↔ u.IsAddressed ∧ Text.isWhole (u.name.getD "") = true ∧
      Text.isWhole (u.phone.getD "") = true ∧
      (Lead.normalEmail u.email ∉ addresses log → ∀ t ∈ u.source, Text.isWhole t = true))
  /-- A new address gets a row. -/
  added : ∀ l, reply = .ok (.own l) → Lead.normalEmail u.email ∉ addresses log →
    ∃ createdAt, db' = w.database.addLead
      ⟨l.id, Lead.normalEmail u.email, u.name.getD "", u.phone.getD "", Lead.active, [],
        Lead.firstStage, u.source, createdAt⟩
  /-- The row of a known address takes over the name and phone, if they are given, and keeps all
  else. -/
  refreshed : ∀ l, reply = .ok (.own l) → Lead.normalEmail u.email ∈ addresses log →
    db' = { w.database with
      leads := w.database.leads.map fun r =>
        if r.email = Lead.normalEmail u.email then r.refreshedBy u.subscription else r }

end Signup

/-- When there is a row for a subscription to write. -/
theorem Directory.exists_enrolment_iff (h : Directory log db issued) (id : String)
    {now : Calendar.Stamp} (hnow : Calendar.inRange now.instant = true) :
    (∃ row, db.enrolment u.form id now = .ok row) ↔
      u.IsAddressed ∧ Text.isWhole (u.name.getD "") = true ∧
        Text.isWhole (u.phone.getD "") = true ∧
        (Lead.normalEmail u.email ∉ addresses log → ∀ t ∈ u.source, Text.isWhole t = true) := by
  have hkept : ∀ {given held : String}, Text.isWhole held = true →
      (Text.isWhole (if given = "" then held else given) = true ↔ Text.isWhole given = true) := by
    intro given held hheld
    split
    · rename_i hempty
      exact iff_of_true hheld (hempty ▸ rfl)
    · exact Iff.rfl
  simp only [Database.enrolment_eq_ok_iff]
  by_cases hknown : Lead.normalEmail u.email ∈ addresses log
  · obtain ⟨held, hheld, hemail⟩ := List.mem_map.mp ((h.known _).mpr hknown)
    have hrow := h.records held hheld
    have hfind := find?_key h.emails hheld
    rw [hemail] at hfind
    constructor
    · rintro ⟨row, hu, ⟨hnew, -⟩ | ⟨held', hfind', hrefreshed⟩⟩
      · exact absurd hemail (hnew held hheld)
      · obtain rfl := Option.some.inj (hfind.symm.trans hfind')
        obtain ⟨hname, hphone, -, -⟩ := LeadRow.refreshed_eq_ok_iff.mp hrefreshed
        exact ⟨hu, (hkept hrow.name_whole).mp hname, (hkept hrow.phone_whole).mp hphone,
          fun hnew => absurd hknown hnew⟩
    · rintro ⟨hu, hname, hphone, -⟩
      exact ⟨_, hu, .inr ⟨held, hfind, LeadRow.refreshed_eq_ok_iff.mpr
        ⟨(hkept hrow.name_whole).mpr hname, (hkept hrow.phone_whole).mpr hphone, fun _ => hnow,
          rfl⟩⟩⟩
  · have hnew : ∀ held ∈ db.leads, held.email ≠ Lead.normalEmail u.email := fun held hheld hemail =>
      hknown ((h.known _).mp (hemail ▸ List.mem_map_of_mem hheld))
    constructor
    · rintro ⟨row, hu, ⟨-, hrow⟩ | ⟨held, hfind, -⟩⟩
      · obtain ⟨hname, hphone, hsource, -, -⟩ := LeadRow.ofSubscription_eq_ok_iff.mp hrow
        exact ⟨hu, hname, hphone, fun _ => hsource⟩
      · exact absurd (by simpa using List.find?_some hfind)
          (hnew held (List.mem_of_find?_eq_some hfind))
    · rintro ⟨hu, hname, hphone, hsource⟩
      exact ⟨_, hu, .inl ⟨hnew, LeadRow.ofSubscription_eq_ok_iff.mpr
        ⟨hname, hphone, hsource hknown, hnow, rfl⟩⟩⟩

theorem Directory.putLead_refreshed (h : Directory log db issued) {held : LeadRow}
    (hheld : held ∈ db.leads) (sub : Subscription) :
    db.putLead (held.refreshedBy sub) = { db with
      leads := db.leads.map fun r => if r.email = held.email then r.refreshedBy sub else r } := by
  have hput := putRow_of_mem hheld (LeadRow.refreshedBy_id held sub)
  rw [Database.putLead, hput]
  congr 1
  refine List.map_congr_left fun r hr => ?_
  by_cases hemail : r.email = held.email
  · obtain rfl := List.inj_on_of_nodup_map h.emails hr hheld hemail
    simp
  · have hid : r.id ≠ held.id := fun hid =>
      hemail (congrArg _ (List.inj_on_of_nodup_map h.ids hr hheld hid))
    simp [hemail, hid]

/-- The row that is written for a new address. -/
theorem Directory.enrolment_of_new (h : Directory log db issued) {id : String}
    {now : Calendar.Stamp} {row : LeadRow} (hrow : db.enrolment u.form id now = .ok row)
    (hnew : Lead.normalEmail u.email ∉ addresses log) :
    ∃ createdAt, row = ⟨id, Lead.normalEmail u.email, u.name.getD "", u.phone.getD "", Lead.active,
      [], Lead.firstStage, u.source, createdAt⟩ := by
  obtain ⟨-, ⟨-, hrow⟩ | ⟨held, hfind, -⟩⟩ := Database.enrolment_eq_ok_iff.mp hrow
  · obtain ⟨-, -, -, -, rfl⟩ := LeadRow.ofSubscription_eq_ok_iff.mp hrow
    exact ⟨_, rfl⟩
  · have hemail : held.email = Lead.normalEmail u.email := by simpa using List.find?_some hfind
    refine absurd ((h.known _).mp ?_) hnew
    exact hemail ▸ List.mem_map_of_mem (List.mem_of_find?_eq_some hfind)

/-- The table once the row for a known address is written. -/
theorem Directory.putLead_of_known (h : Directory log db issued) {id : String}
    {now : Calendar.Stamp} {row : LeadRow} (hrow : db.enrolment u.form id now = .ok row)
    (hknown : Lead.normalEmail u.email ∈ addresses log) :
    db.putLead row = { db with
      leads := db.leads.map fun r =>
        if r.email = Lead.normalEmail u.email then r.refreshedBy u.subscription else r } := by
  obtain ⟨-, ⟨hnew, -⟩ | ⟨held, hfind, hrow⟩⟩ := Database.enrolment_eq_ok_iff.mp hrow
  · obtain ⟨held, hheld, hemail⟩ := List.mem_map.mp ((h.known _).mpr hknown)
    exact absurd hemail (hnew held hheld)
  · obtain ⟨-, -, -, rfl⟩ := LeadRow.refreshed_eq_ok_iff.mp hrow
    have hemail : held.email = Lead.normalEmail u.email := by simpa using List.find?_some hfind
    rw [← hemail]
    exact h.putLead_refreshed (List.mem_of_find?_eq_some hfind) _

/-- What becomes of a subscription can be read off the log. -/
theorem Directory.fares (h : Directory log w.database w.issued) (u : Signup) (s : Surroundings σ) :
    u.Fares log s w ((Store.subscribe u.form).run s w).1
      ((Store.subscribe u.form).run s w).2.database := by
  have hcases := h.enrolled (Store.subscribe_cases (s := s) u.form h.unissued)
  -- the row behind an answer
  have hrow : ∀ l, ((Store.subscribe u.form).run s w).1 = .ok (.own l) → ∃ row,
      w.database.enrolment u.form w.issued.nextLead s.databaseClock = .ok row ∧
      row.load = .ok l ∧
      ((Store.subscribe u.form).run s w).2.database = w.database.putLead row := by
    intro l hl
    rcases hcases with ⟨row, l', hrow, hload, hreply, hdb, -⟩ | ⟨hother, -⟩
    · obtain rfl : l' = l := by
        rw [hreply] at hl
        cases hl
        rfl
      exact ⟨row, hrow, hload, hdb⟩
    · exact absurd hl (hother l)
  -- a call that nothing comes in the way of
  have hmade : (s.interrupt .subscribe w.outside).1 = none →
      (∃ row l,
        w.database.enrolment u.form w.issued.nextLead s.databaseClock = .ok row ∧
        ((Store.subscribe u.form).run s w).1 = .ok (.own l)) ∨
      ∃ e, w.database.enrolment u.form w.issued.nextLead s.databaseClock = .error e ∧
        ((Store.subscribe u.form).run s w).1 = .error e := by
    intro hs
    obtain ⟨answer, hreply, henrols⟩ := Store.subscribe_of_none u.form h.unissued hs
    rw [hreply]
    rcases h.enrols henrols with ⟨row, l, hrow, -, rfl, -⟩ | ⟨e, herror, rfl, -⟩
    · exact .inl ⟨row, l, hrow, rfl⟩
    · exact .inr ⟨e, herror, rfl⟩
  constructor
  case no_clash =>
    rcases hcases with ⟨row, l, -, -, hreply, -⟩ | ⟨-, hclash, -⟩
    · rw [hreply]
      nofun
    · exact hclash
  case unanswered =>
    intro hother
    rcases hcases with ⟨row, l, -, -, hreply, -⟩ | ⟨-, -, hdb, -⟩
    · exact absurd hreply (hother l)
    · exact hdb
  case blank =>
    intro hblank l hl
    obtain ⟨row, hrow, -⟩ := hrow l hl
    exact (Database.enrolment_eq_ok_iff.mp hrow).1.2 hblank
  case raises =>
    intro hs
    rcases hmade hs with ⟨row, l, -, hreply⟩ | ⟨e, -, hreply⟩
    · exact .inl ⟨l, hreply⟩
    · exact .inr ⟨e, hreply⟩
  case answered_iff =>
    intro hs hnow
    rw [← h.exists_enrolment_iff w.issued.nextLead hnow]
    rcases hmade hs with ⟨row, l, hrow, hreply⟩ | ⟨e, herror, hreply⟩
    · exact iff_of_true ⟨l, hreply⟩ ⟨row, hrow⟩
    · rw [herror, hreply]
      simp
  case added =>
    intro l hl hnew
    obtain ⟨row, hrow, hload, hdb⟩ := hrow l hl
    obtain ⟨createdAt, rfl⟩ := h.enrolment_of_new hrow hnew
    rw [LeadRow.id_of_load hload, hdb, Store.putLead_of_new h.unissued]
    exact ⟨createdAt, rfl⟩
  case refreshed =>
    intro l hl hknown
    obtain ⟨row, hrow, -, hdb⟩ := hrow l hl
    rw [hdb, h.putLead_of_known hrow hknown]

/-! ## Runs in which nothing comes in the way -/

/-- What a subscription says of its lead, apart from the identifier. -/
def Enlisted.given (e : Enlisted) : String × String × String := (e.email, e.name, e.phone)

/-- Whether all texts of the subscription can be encoded. -/
def Signup.isWhole (u : Signup) : Bool :=
  Text.isWhole u.email && u.name.all Text.isWhole && u.phone.all Text.isWhole
    && u.source.all Text.isWhole

namespace DirectoryCall

/-- What a subscription whose address is not blank says of its lead. -/
def given? : DirectoryCall → Option (String × String × String)
  | subscribe u =>
    if Lead.normalEmail u.email = "" then none
    else some (Lead.normalEmail u.email, u.name.getD "", u.phone.getD "")
  | _ => none

/-- Whether all texts that the call subscribes with can be encoded. -/
def isWhole : DirectoryCall → Bool
  | subscribe u => u.isWhole
  | _ => true

/-- Nothing comes in the way of the call, be it the time or a text that cannot be encoded. -/
structure IsPlain (s : Surroundings σ) (c : DirectoryCall) : Prop where
  none : ∀ o, (s.interrupt .subscribe o).1 = none
  clock : Calendar.inRange s.databaseClock.instant = true
  whole : c.isWhole = true

theorem log_of_own {l : Lead} (h : ((Store.subscribe u.form).run s w).1 = .ok (.own l)) :
    ((subscribe u).perform s w log).2 = log ++ [u.enlisted l.id] := by
  rw [perform]
  rcases hrun : (Store.subscribe u.form).run s w with ⟨reply, w'⟩
  rw [hrun] at h
  obtain rfl : reply = _ := h
  rfl

theorem log_of_not_own (h : ∀ l, ((Store.subscribe u.form).run s w).1 ≠ .ok (.own l)) :
    ((subscribe u).perform s w log).2 = log := by
  rw [perform]
  rcases hrun : (Store.subscribe u.form).run s w with ⟨e | ⟨l | j⟩, w'⟩
  · rfl
  · exact absurd (congrArg Prod.fst hrun) (h l)
  · rfl

theorem log_of_isPlain {c : DirectoryCall} (h : Directory log w.database w.issued)
    (hc : c.IsPlain s) :
    (c.perform s w log).2.map Enlisted.given = log.map Enlisted.given ++ c.given?.toList := by
  cases c with
  | addTag => exact (List.append_nil _).symm
  | updateStage => exact (List.append_nil _).symm
  | updateLead => exact (List.append_nil _).symm
  | subscribe u =>
    have hfares := h.fares u s
    rw [given?]
    split
    · rename_i hblank
      rw [log_of_not_own (hfares.blank hblank)]
      exact (List.append_nil _).symm
    · rename_i hne
      have hwhole : u.isWhole = true := hc.whole
      simp only [Signup.isWhole, Bool.and_eq_true, Option.all_eq_true] at hwhole
      obtain ⟨⟨⟨hemail, hname⟩, hphone⟩, hsource⟩ := hwhole
      have hgiven : ∀ t : Option String, (∀ x ∈ t, Text.isWhole x = true) →
          Text.isWhole (t.getD "") = true := by
        rintro (_ | x) hx
        · rfl
        · exact hx x rfl
      obtain ⟨l, hl⟩ := (hfares.answered_iff (hc.none _) hc.clock).mpr
        ⟨⟨hemail, hne⟩, hgiven _ hname, hgiven _ hphone, fun _ => hsource⟩
      rw [log_of_own hl, List.map_append]
      rfl

variable {calls : List (Surroundings σ × DirectoryCall)}

theorem performAll_concat (w : World σ) (calls : List (Surroundings σ × DirectoryCall))
    (c : Surroundings σ × DirectoryCall) :
    performAll w (calls ++ [c]) =
      c.2.perform c.1 (performAll w calls).1 (performAll w calls).2 := by
  rw [performAll, List.foldl_concat]
  rfl

theorem log_of_calls (hcalls : ∀ c ∈ calls, c.2.IsTyped) (hw : w.database.leads = [])
    (hplain : ∀ c ∈ calls, c.2.IsPlain c.1) :
    (performAll w calls).2.map Enlisted.given = calls.filterMap (·.2.given?) := by
  induction calls using List.reverseRecOn with
  | nil => rfl
  | append_singleton calls c ih =>
    have hmem : c ∈ calls ++ [c] := List.mem_append_right _ (List.mem_singleton_self c)
    have hbefore := ih (fun c hc => hcalls c (List.mem_append_left _ hc))
      fun c hc => hplain c (List.mem_append_left _ hc)
    have hdirectory := performAll_directory (w := w)
      (fun c hc => hcalls c (List.mem_append_left [_] hc)) hw
    rw [performAll_concat, log_of_isPlain hdirectory (hplain c hmem), hbefore,
      List.filterMap_append]
    cases hgiven : c.2.given? <;> simp [hgiven]

end DirectoryCall

open DirectoryCall in
/-- The directory is a fold over the subscriptions: after any run it holds one lead for each
address that was subscribed, with the identifier that was given first and the last name and phone;
the next subscription gets a lead or refreshes one, or changes nothing; and in a run in which
nothing comes in the way every subscription counts whose address is not blank. -/
theorem directory_folds {calls : List (Surroundings σ × DirectoryCall)}
    (hcalls : ∀ c ∈ calls, c.2.IsTyped) (hw : w.database.leads = []) :
    (∃ leads, Shows (performAll w calls).2 (performAll w calls).1 leads) ∧
    (∀ (u : Signup) (s : Surroundings σ), u.Fares (performAll w calls).2 s (performAll w calls).1
      ((Store.subscribe u.form).run s (performAll w calls).1).1
      ((Store.subscribe u.form).run s (performAll w calls).1).2.database) ∧
    ((∀ c ∈ calls, c.2.IsPlain c.1) →
      (performAll w calls).2.map Enlisted.given = calls.filterMap (·.2.given?)) := by
  have hdirectory := performAll_directory hcalls hw
  exact ⟨hdirectory.shows, fun u s => hdirectory.fares u s, log_of_calls hcalls hw⟩

/-! ### A run, and an address that cannot be encoded -/

namespace TwoSpellings

open DirectoryCall

def surroundings : Surroundings Unit := .calm (.ahead 0 0) (.usual .utc 2)

/-- A lead that is subscribed, tagged, subscribed in another spelling, and given a source. -/
def calls : List (Surroundings Unit × DirectoryCall) :=
  [.subscribe ⟨" Ada@Example.com", some "site", some "Ada", none⟩,
   .addTag "lead-1" "vip",
   .subscribe ⟨"ada@example.COM ", none, none, some "555"⟩,
   .updateLead "lead-1" [("source", .str "blog")]].map fun c => (surroundings, c)

/-- Two subscriptions with one address: there is one lead, and the log tells of both. -/
theorem one_lead :
    ((∀ c ∈ calls, c.2.IsTyped) ∧ (World.fresh ()).database.leads = [] ∧
      ∀ c ∈ calls, c.2.IsPlain c.1) ∧
    (∃ leads, Shows (performAll (World.fresh ()) calls).2 (performAll (World.fresh ()) calls).1
      leads) ∧
    (performAll (World.fresh ()) calls).2.map Enlisted.given =
      [("ada@example.com", "Ada", ""), ("ada@example.com", "", "555")] := by
  have htyped : ∀ c ∈ calls, c.2.IsTyped := by
    simpa [calls, IsTyped, LeadRow.IsTyped] using ⟨some "blog", rfl⟩
  have hwhole : ∀ c ∈ calls, c.2.isWhole = true := by decide
  have hplain : ∀ c ∈ calls, c.2.IsPlain c.1 := by
    intro c hc
    have hs : c.1 = surroundings := by
      obtain ⟨call, -, rfl⟩ := List.mem_map.mp hc
      rfl
    rw [hs]
    exact ⟨fun _ => rfl, by decide, hwhole c hc⟩
  have hfolds := directory_folds (w := World.fresh ()) htyped rfl
  refine ⟨⟨htyped, rfl, hplain⟩, hfolds.1, (hfolds.2.2 hplain).trans ?_⟩
  decide +kernel

/-- Half of a pair before the rest of an address. -/
def halved : Signup :=
  ⟨String.singleton (Text.ofHalf 0xd800) ++ "@example.com", none, none, none⟩

/-- An address is not blank, and there is no lead for it once it was subscribed. -/
theorem no_lead_of_half : Lead.normalEmail halved.email ≠ "" ∧
    (performAll (World.fresh ()) [(surroundings, .subscribe halved)]).1.database.leads = [] := by
  constructor <;> decide +kernel

end TwoSpellings

end Nurture
