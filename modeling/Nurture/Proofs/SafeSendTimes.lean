import Nurture.Engine.Step
import Nurture.Proofs.FunnelShelf
import Nurture.Proofs.Occurrences

/-!
  Send times that are safe

  A send time that node data keep can be worked with for good (`keptSendTime_safe`): it is read as
  a time of day, questions about its windows are answered in every zone whose clocks are less
  than a day from UTC (`SendWindow.Answers`), and it is accepted again, unchanged, whenever its node
  is read back (`SendTime.Lasts`). So no node that was saved stops a pass with its send time
  (`Step.exists_windowToAwait`).

  The times that are asked about are some days away from the ends of the calendar. Whatever clocks
  show then has a date, and so have the days around it.
-/

namespace Nurture

open Validation Validation.Checked

/-! ## Spans and margins -/

namespace Calendar

/-- The time is no closer than the margin to either end of the calendar. -/
def Stamp.Inside (margin : Int) (t : Stamp) : Prop :=
  margin ≤ t.instant ∧ t.instant + margin ≤ endOfTime

theorem Span.ofMicros_eq_ok {micros : Int} (hlow : -endOfTime ≤ micros)
    (hhigh : micros ≤ endOfTime) : Span.ofMicros micros = .ok micros := by
  have hend : endOfTime = 3652059 * 86400000000 := by decide +kernel
  have hbound : (Word.bound 32 : Int) = 2147483648 := by decide +kernel
  have hdays : -3652059 ≤ micros / day ∧ micros / day ≤ 3652059 := by
    rw [day_eq]
    omega
  have hword : Word.holds 32 (micros / day) = true := Word.holds_eq_true_iff.mpr (by omega)
  have hmost : ¬ (micros / day < -maxDays ∨ maxDays < micros / day) := by
    rw [maxDays]
    omega
  unfold Span.ofMicros
  simp only [hword, Bool.not_true, Bool.false_eq_true, if_false]
  rw [if_neg (by simpa using hmost)]

theorem Span.Total.count_eq_undefined {t : Span.Total} {unit : Nat} {a : Amount}
    (h : t.count unit a = .error .undefined) : a = .real .nan := by
  unfold Span.Total.count at h
  split at h
  · cases h
  · rfl
  · cases h
  · dsimp only at h
    split at h <;> cases h

theorem Span.total_eq_undefined {t : Span.Total} {amounts : List (Nat × Amount)}
    (h : Span.total t amounts = .error .undefined) : ∃ a ∈ amounts, a.2 = .real .nan := by
  induction amounts generalizing t with
  | nil => cases h
  | cons a rest ih =>
    rcases bind_eq_error_iff.mp h with hcount | ⟨t', -, hrest⟩
    · exact ⟨a, List.mem_cons_self, Span.Total.count_eq_undefined hcount⟩
    · obtain ⟨b, hb, hnan⟩ := ih hrest
      exact ⟨b, List.mem_cons_of_mem a hb, hnan⟩

theorem Span.ofAmounts_eq_undefined {amounts : List (Nat × Amount)}
    (h : Span.ofAmounts amounts = .error .undefined) : ∃ a ∈ amounts, a.2 = .real .nan := by
  rcases bind_eq_error_iff.mp h with htotal | ⟨t, -, hspan⟩
  · exact Span.total_eq_undefined htotal
  · obtain ⟨cause, -, hcause⟩ := mapError_eq_error_iff.mp hspan
    cases hcause

theorem Amount.eq_nan_of_toSpan {a : Amount} (h : a.toSpan = .error .undefined) :
    a = .real .nan := by
  cases a with
  | whole n =>
    obtain ⟨cause, -, hcause⟩ := mapError_eq_error_iff.mp h
    cases hcause
  | real x =>
    obtain ⟨b, hb, hnan⟩ := Span.ofAmounts_eq_undefined h
    rwa [List.mem_singleton.mp hb] at hnan

end Calendar

/-! ## Questions about windows -/

namespace SendWindow

open Calendar

/-- What is answered when it is asked about the windows of a send time. -/
structure Answers (sendTime : String) (z : Zone) : Prop where
  /-- There is a next occurrence. -/
  next : ∀ now : Stamp, now.Inside (3 * day) → ∃ w, SendWindow.next sendTime now z = .ok w
  /-- A time sits on an occurrence or on none, unless its distance from UTC is unknown. -/
  parked : ∀ (scheduled : Stamp) (tolerance : Amount), scheduled.Inside (4 * day) →
    if scheduled.isLocal then
      SendWindow.parked sendTime scheduled z tolerance = .error (.unrelated .subtracted)
    else ∃ found, SendWindow.parked sendTime scheduled z tolerance = .ok found
  /-- A window is open or closed if its grace period ends within the calendar. -/
  isOpen : ∀ (scheduled now : Stamp) (tolerance : Amount) (grace : Int),
    scheduled.isLocal = false → now.isLocal = false →
    scheduled.Inside (4 * day + (grace * second).natAbs) →
    ∃ answer, SendWindow.isOpen sendTime scheduled now z tolerance (.whole grace) = .ok answer
  /-- Otherwise the value that is at fault is the grace period, one that is no number. -/
  faultless : ∀ (scheduled now : Stamp) (tolerance grace : Amount) (failure : Failure),
    scheduled.Inside (4 * day) →
    SendWindow.isOpen sendTime scheduled now z tolerance grace = .error failure →
    failure.isValueFault = true → grace = .real .nan

variable {sendTime : String} {now scheduled : Stamp} {z : Zone}

theorem exists_next_of_withinADay (haccepts : SendTime.accepts sendTime = true)
    (hz : z.WithinADay) (hnow : now.Inside (3 * day)) : ∃ w, next sendTime now z = .ok w := by
  obtain ⟨hearly, hlate⟩ := hnow
  have hday := day_eq
  obtain ⟨timeOfDay, ⟨hle, hlt⟩, hreads, -⟩ := exists_timeOfDay haccepts z
  have hsame : sameDay sendTime now z = _ :=
    sameDay_of_withinADay hz hreads (by omega) (by omega)
  have hoffset := hz.offsetAt_lt now.instant
  have hshown : (z.readingAt now.instant).wall = now.instant + z.offsetAt now.instant := rfl
  obtain ⟨hwall, hwall', -⟩ := target_cases (z.readingAt now.instant) hle hlt
  exact ⟨_, next_of_sameDay hsame (by omega) (by omega)
    (momentOf_eq_ok hz (by omega) (by omega))⟩

/-- The search around a time begins with a reading around which there are occurrences, and they are
less than four days from the time. -/
theorem exists_occurrences (haccepts : SendTime.accepts sendTime = true) (hz : z.WithinADay)
    (hscheduled : scheduled.Inside (4 * day)) :
    ∃ r anchor, ∃ occurrence : Int → Moment, sameDay sendTime scheduled z = .ok (r, anchor) ∧
      ∀ days ∈ ([-1, 0, 1] : List Int),
        (∃ r', daysLater anchor days = .ok r' ∧ z.momentOf r' = .ok (occurrence days)) ∧
        scheduled.instant - 4 * day < (occurrence days).wall ∧
        (occurrence days).wall < scheduled.instant + 4 * day := by
  obtain ⟨hearly, hlate⟩ := hscheduled
  have hday := day_eq
  obtain ⟨timeOfDay, ⟨hle, hlt⟩, hreads, -⟩ := exists_timeOfDay haccepts z
  have hsame : sameDay sendTime scheduled z = _ :=
    sameDay_of_withinADay hz hreads (by omega) (by omega)
  have hoffset := hz.offsetAt_lt scheduled.instant
  have hshown : (z.readingAt scheduled.instant).wall
    = scheduled.instant + z.offsetAt scheduled.instant := rfl
  obtain ⟨anchor, hanchor⟩ : ∃ anchor, anchor
    = midnight (z.readingAt scheduled.instant).wall + timeOfDay := ⟨_, rfl⟩
  have hdate : scheduled.instant - 2 * day < anchor ∧ anchor < scheduled.instant + 2 * day := by
    rw [hanchor, midnight_eq]
    omega
  rw [← hanchor] at hsame
  refine ⟨_, _, fun days => Moment.ofInstant (z.instantOf ⟨anchor + days * day, false⟩), hsame,
    fun days hdays => ?_⟩
  have hdays : -day ≤ days * day ∧ days * day ≤ day := by
    simp only [List.mem_cons, List.not_mem_nil, or_false] at hdays
    rcases hdays with rfl | rfl | rfl <;> omega
  have hoffset' := hz.offsetOf_lt ⟨anchor + days * day, false⟩
  have hinstant : (Moment.ofInstant (z.instantOf ⟨anchor + days * day, false⟩)).wall
    = anchor + days * day - z.offsetOf ⟨anchor + days * day, false⟩ := rfl
  dsimp only at hinstant ⊢
  rw [hinstant]
  exact ⟨⟨_, daysLater_eq_ok (by dsimp only; omega) (by dsimp only; omega),
    momentOf_eq_ok hz (by dsimp only; omega) (by dsimp only; omega)⟩, by omega, by omega⟩

theorem exists_parked (haccepts : SendTime.accepts sendTime = true) (hz : z.WithinADay)
    (hscheduled : scheduled.Inside (4 * day)) (haware : scheduled.isLocal = false)
    (tolerance : Amount) :
    ∃ found, parked sendTime scheduled z tolerance = .ok found ∧
      ∀ w ∈ found, scheduled.instant - 4 * day < w.wall ∧ w.wall < scheduled.instant + 4 * day := by
  obtain ⟨r, anchor, occurrence, hsame, hoccurrences⟩ :=
    exists_occurrences haccepts hz hscheduled
  refine ⟨_, bind_eq_ok_iff.mpr ⟨_, hsame,
    findWithin_eq_find? haware (fun days hdays => (hoccurrences days hdays).1) tolerance⟩, ?_⟩
  intro w hw
  obtain ⟨days, hdays, rfl⟩ := List.mem_map.mp (List.mem_of_find?_eq_some hw)
  exact (hoccurrences days hdays).2

theorem parked_of_isLocal (haccepts : SendTime.accepts sendTime = true) (hz : z.WithinADay)
    (hscheduled : scheduled.Inside (4 * day)) (hlocal : scheduled.isLocal = true)
    (tolerance : Amount) :
    parked sendTime scheduled z tolerance = .error (.unrelated .subtracted) := by
  obtain ⟨r, anchor, occurrence, hsame, hoccurrences⟩ :=
    exists_occurrences haccepts hz hscheduled
  obtain ⟨⟨r', hlater, hmoment⟩, -⟩ := hoccurrences (-1) List.mem_cons_self
  refine bind_eq_error_iff.mpr (.inr ⟨_, hsame, ?_⟩)
  -- The first occurrence is found, and then subtracted.
  refine bind_eq_error_iff.mpr (.inr ⟨_, hlater, ?_⟩)
  refine bind_eq_error_iff.mpr (.inr ⟨_, mapError_eq_ok_iff.mpr hmoment, ?_⟩)
  rw [hlocal]
  rfl

theorem exists_isOpen (haccepts : SendTime.accepts sendTime = true) (hz : z.WithinADay)
    {grace : Int} (hscheduled : scheduled.Inside (4 * day + (grace * second).natAbs))
    (haware : scheduled.isLocal = false) (hnow : now.isLocal = false) (tolerance : Amount) :
    ∃ answer, isOpen sendTime scheduled now z tolerance (.whole grace) = .ok answer := by
  obtain ⟨hearly, hlate⟩ := hscheduled
  have hday := day_eq
  obtain ⟨found, hparked, hnear⟩ :=
    exists_parked haccepts hz ⟨by omega, by omega⟩ haware tolerance
  cases found with
  | none => exact ⟨false, bind_eq_ok_iff.mpr ⟨none, hparked, rfl⟩⟩
  | some w =>
    obtain ⟨hafter, hbefore⟩ := hnear w rfl
    have hspan : (Amount.whole grace).toSpan = .ok (grace * second) :=
      mapError_eq_ok_iff.mpr (Span.ofMicros_eq_ok (by omega) (by omega))
    exact ⟨_, isOpen_eq_of_parked hparked hspan (inRange_of (by omega) (by omega)) hnow⟩

/-- A question whether a window is open that is not answered is no fault of the send time. -/
theorem isOpen_faultless (haccepts : SendTime.accepts sendTime = true) (hz : z.WithinADay)
    (hscheduled : scheduled.Inside (4 * day)) {tolerance grace : Amount} {failure : Failure}
    (h : isOpen sendTime scheduled now z tolerance grace = .error failure)
    (hfault : failure.isValueFault = true) : grace = .real .nan := by
  rcases bind_eq_error_iff.mp h with hparked | ⟨found, -, h⟩
  · -- times that cannot be related are of the wrong kind
    cases hlocal : scheduled.isLocal with
    | true =>
      rw [parked_of_isLocal haccepts hz hscheduled hlocal] at hparked
      cases hparked
      cases hfault
    | false =>
      obtain ⟨found, hfound, -⟩ := exists_parked haccepts hz hscheduled hlocal tolerance
      rw [hfound] at hparked
      cases hparked
  · cases found with
    | none => cases h
    | some w =>
      rcases bind_eq_error_iff.mp h with hspan | ⟨span, -, h⟩
      · obtain ⟨cause, hcause, rfl⟩ := mapError_eq_error_iff.mp hspan
        cases cause with
        | undefined => exact Amount.eq_nan_of_toSpan hcause
        | overflow _ => cases hfault
        | infinite => cases hfault
      · rcases bind_eq_error_iff.mp h with hlast | ⟨last, -, h⟩
        · obtain ⟨cause, -, rfl⟩ := mapError_eq_error_iff.mp hlast
          cases hfault
        · split at h
          · cases h
            cases hfault
          · cases h

/-- Questions about the windows of an accepted send time are answered in every zone. -/
theorem answers_of_accepts (haccepts : SendTime.accepts sendTime = true) (hz : z.WithinADay) :
    Answers sendTime z where
  next _ hnow := exists_next_of_withinADay haccepts hz hnow
  parked scheduled tolerance hscheduled := by
    split
    · rename_i hlocal
      exact parked_of_isLocal haccepts hz hscheduled hlocal tolerance
    · rename_i haware
      obtain ⟨found, hparked, -⟩ :=
        exists_parked haccepts hz hscheduled (Bool.eq_false_iff.mpr haware) tolerance
      exact ⟨found, hparked⟩
  isOpen _ _ tolerance _ haware hnow hscheduled :=
    exists_isOpen haccepts hz hscheduled haware hnow tolerance
  faultless _ _ _ _ _ hscheduled h hfault := isOpen_faultless haccepts hz hscheduled h hfault

end SendWindow

/-! ## Send times that are read back -/

/-- The send time of a task, if it has one. -/
def Task.sendTime? : Task → Option String
  | whatsApp data _ => data.sendTime
  | _ => none

/-- The send time of a node, if it has one. -/
def Node.sendTime? (n : Node) : Option String := n.task.sendTime?

@[simp] theorem Task.sendTime?_withExtra (t : Task) (fs : Json.Fields) :
    (t.withExtra fs).sendTime? = t.sendTime? := by
  cases t <;> rfl

@[simp] theorem Node.sendTime?_dumped (n : Node) : n.dumped.sendTime? = n.sendTime? :=
  Task.sendTime?_withExtra _ _

theorem Node.Alike.sendTime?_eq {n m : Node} (h : n.Alike m) : n.sendTime? = m.sendTime? := by
  have htime := congrArg Task.sendTime? h.task_eq
  rw [Task.sendTime?_withExtra, Task.sendTime?_withExtra] at htime
  exact htime

theorem Funnel.Alike.exists_sendTime {f g : Funnel} (h : g.Alike f.dumped) {n : Node}
    (hn : n ∈ f.nodes) : ∃ n' ∈ g.nodes, n'.id = n.id ∧ n'.sendTime? = n.sendTime? := by
  obtain ⟨n', hn', halike⟩ := exists_mem_of_forall₂ h.nodes.flip (List.mem_map_of_mem hn)
  exact ⟨n', hn', halike.id_eq, halike.sendTime?_eq.trans n.sendTime?_dumped⟩

/-- A send time that is accepted as it is wherever it is written and read back. -/
structure SendTime.Lasts (sendTime : String) : Prop where
  /-- The check of node data keeps it. -/
  kept : checkSendTime (.str sendTime) = good (some sendTime)
  /-- A node that has it, once it was dumped, is read as a node that has it. -/
  dumped : ∀ (j : Json) (n : Node), Node.check j = good n → n.sendTime? = some sendTime →
    n.isDumpable = true → ∃ saved n', n.dump = .ok saved ∧ Node.check saved = good n' ∧
      n'.id = n.id ∧ n'.sendTime? = some sendTime
  /-- If nothing comes in the way, a funnel is saved with it, provided that its identifier can be
  encoded and that undeclared fields are not nested too deeply. -/
  saved : ∀ {σ : Type} (s : Surroundings σ) (w : World σ) (j : Json) (draft : Draft Funnel),
    Funnel.check j = good draft → (s.interrupt .saveFunnel w.outside).1 = none →
    Calendar.inRange s.databaseClock.instant = true → (∀ id ∈ draft.id, Text.isWhole id = true) →
    (draft.withId "").isDumpable = true →
      ∃ f, ((Store.saveFunnel draft).run s w).1 = .ok (.own f) ∧
        ∀ n ∈ (draft.withId "").nodes, n.sendTime? = some sendTime → n ∈ f.nodes
  /-- A funnel that was saved with it is got with it, in the same nodes, whatever else was saved and
  deleted. -/
  stored : ∀ {σ : Type} (w : World σ) (calls : List (Surroundings σ × FunnelCall)),
    w.database.funnels = [] → (∀ c ∈ calls, c.2.IsAccepted) →
    ∀ id f, (FunnelCall.performAll w calls).2 id = some f →
      ∃ g, (∀ s : Surroundings σ,
          (s.interrupt .getFunnel (FunnelCall.performAll w calls).1.outside).1 = none →
          ((Store.getFunnel id).run s (FunnelCall.performAll w calls).1).1 = .ok (.own (some g))) ∧
        ∀ n ∈ f.nodes, n.sendTime? = some sendTime →
          ∃ n' ∈ g.nodes, n'.id = n.id ∧ n'.sendTime? = some sendTime

/-- An accepted send time lasts, unless it is empty and counts as none. -/
theorem SendTime.lasts_of_accepts {sendTime : String} (hne : sendTime ≠ "")
    (haccepts : SendTime.accepts sendTime = true) : SendTime.Lasts sendTime where
  kept := checkSendTime_ofOption fun t ht => Option.some.inj ht ▸ ⟨hne, haccepts⟩
  dumped j n hn htime hdump :=
    ⟨n.toJson, n.dumped, if_pos hdump, Node.check_toJson (Node.proper_of_check hn), rfl,
      n.sendTime?_dumped.trans htime⟩
  saved s w j draft hdraft hs hclock hid hdump := by
    have hfares := Draft.fares hdraft s w
    obtain ⟨f, hf⟩ := (hfares.answered_iff hs hclock).mpr ⟨hid, hdump⟩
    refine ⟨f, hf, fun n hn _ => ?_⟩
    rw [(hfares.saved f hf).1, Funnel.nodes_withId hdraft]
    exact hn
  stored w calls hw hcalls id f hf := by
    obtain ⟨funnels, hshows⟩ := (FunnelCall.performAll_shelved hcalls hw).shows
    obtain ⟨g, hg, rfl⟩ := hshows.there id f hf
    obtain ⟨f', hf', halike⟩ := hshows.kept g hg
    obtain rfl : f = f' := Option.some.inj (hf.symm.trans hf')
    refine ⟨g, hshows.got g hg, fun n hn htime => ?_⟩
    obtain ⟨n', hn', hid, htime'⟩ := halike.exists_sendTime hn
    exact ⟨n', hn', hid, htime'.trans htime⟩

/-! ## Send times of node data -/

theorem filled_eq_some_iff {s : Option String} {t : String} :
    filled s = some t ↔ s = some t ∧ t ≠ "" := by
  simp [filled, Option.filter_eq_some_iff]

/-- A WhatsApp node whose data have passed their check does not fail for its send time: its window
is open, or it is known which one to wait for. -/
theorem Step.exists_windowToAwait {j : Json} {data : WhatsAppData} {ctx : StepContext}
    {policy : Policy} {grace : Int} (hcheck : WhatsAppData.check j = good data)
    (hzone : policy.zone.WithinADay) (hgrace : policy.grace = .whole grace)
    (hparked : ctx.execution.nextRunAt.isLocal = false)
    (hresumed : ctx.execution.nextRunAt.Inside
      (4 * Calendar.day + (grace * Calendar.second).natAbs))
    (haware : ctx.now.isLocal = false) (hnow : ctx.now.Inside (3 * Calendar.day)) :
    ∃ window, windowToAwait ctx data policy = .ok window := by
  unfold windowToAwait
  cases htime : filled data.sendTime with
  | none => exact ⟨none, rfl⟩
  | some sendTime =>
    have hkept := (filled_eq_some_iff.mp htime).1
    obtain ⟨-, haccepts⟩ := (WhatsAppData.proper_of_check hcheck).2 sendTime hkept
    have hanswers := SendWindow.answers_of_accepts haccepts hzone
    obtain ⟨answer, hopen⟩ :=
      hanswers.isOpen _ _ policy.tolerance grace hparked haware hresumed
    obtain ⟨w, hnext⟩ := hanswers.next ctx.now hnow
    rw [← hgrace] at hopen
    cases answer with
    | true => exact ⟨none, bind_eq_ok_iff.mpr ⟨true, hopen, rfl⟩⟩
    | false => exact ⟨_, bind_eq_ok_iff.mpr ⟨false, hopen, bind_eq_ok_iff.mpr ⟨w, hnext, rfl⟩⟩⟩

/-- A send time that is kept in node data which have passed their check is read as hours up to 23
and minutes up to 59, questions about its windows are answered in every zone, and it is accepted
unchanged whenever its node is read back. -/
theorem keptSendTime_safe {j : Json} {data : WhatsAppData} {sendTime : String}
    (hcheck : WhatsAppData.check j = good data) (hkept : data.sendTime = some sendTime) :
    (∃ hours minutes : Nat, SendTime.read sendTime = .ok ((hours : Int), (minutes : Int)) ∧
      hours ≤ 23 ∧ minutes ≤ 59) ∧
    (∀ z : Calendar.Zone, z.WithinADay → SendWindow.Answers sendTime z) ∧
    SendTime.Lasts sendTime := by
  obtain ⟨hne, haccepts⟩ := (WhatsAppData.proper_of_check hcheck).2 sendTime hkept
  obtain ⟨hours, minutes, hwrites, hhours, hminutes⟩ := SendTime.writes_of_accepts haccepts
  exact ⟨⟨hours, minutes, SendTime.read_of_writes hwrites, hhours, hminutes⟩,
    fun z hz => SendWindow.answers_of_accepts haccepts hz, SendTime.lasts_of_accepts hne haccepts⟩

/-! ### A send time in digits of two scripts -/

namespace Evening

open Calendar

/-- Five past seven in the evening, with an Arabic nine, and a line end. -/
def sendTime : String := "1\u0669:05\n"

def data : WhatsAppData :=
  { WhatsAppData.blank with content := some "Good evening", sendTime := some sendTime }

def given : Json := .obj [("content", .str "Good evening"), ("send_time", .str sendTime)]

def funnel (id : String) : Funnel :=
  ⟨id, "Evenings", "lead_subscribed", true, [⟨⟨"greeting", .origin⟩, .whatsApp data none⟩],
    some "greeting"⟩

def sketch : Json :=
  .obj [("id", .str "f1"), ("name", .str "Evenings"), ("trigger", .str "lead_subscribed"),
    ("nodes", .arr [.obj [("id", .str "greeting"), ("type", .str "WHATSAPP"), ("data", given)]]),
    ("start_node_id", .str "greeting")]

def saoPaulo : Zone := Zone.table[0]

/-- Half past nine in the morning in São Paulo. -/
def morning : Int := Zone.utcInstant 2024 7 1 12 30

def window : Int := Zone.utcInstant 2024 7 1 22 5

def surroundings : Surroundings Unit := .calm (.ahead morning 0) (.usual saoPaulo 60)

def calls : List (Surroundings Unit × FunnelCall) := [(surroundings, .save ⟨some "f1", funnel⟩)]

/-- The send time is read, waited for in São Paulo, found open at its window, and got back with the
funnel that it was saved in. -/
theorem greeting_at_five_past_seven :
    (WhatsAppData.check given = good data ∧ data.sendTime = some sendTime ∧
      saoPaulo.WithinADay) ∧
    SendTime.read sendTime = .ok (19, 5) ∧
    SendWindow.next sendTime (.ahead morning 0) saoPaulo = .ok (Moment.ofInstant window) ∧
    SendWindow.isOpen sendTime (.ahead window 0) (.ahead window 0) saoPaulo (.whole 60) (.whole 300)
      = .ok true ∧
    ∃ g, ((Store.getFunnel "f1").run surroundings
        (FunnelCall.performAll (World.fresh ()) calls).1).1 = .ok (.own (some g)) ∧
      ∃ n ∈ g.nodes, n.id = "greeting" ∧ n.sendTime? = some sendTime := by
  have hcheck : WhatsAppData.check given = good data := by rfl
  have hzone : saoPaulo.WithinADay := (Zone.wellFormed_of_mem_table saoPaulo (by decide)).withinADay
  obtain ⟨-, hanswers, hlasts⟩ := keptSendTime_safe hcheck rfl
  obtain ⟨w, hnext⟩ := (hanswers saoPaulo hzone).next (.ahead morning 0)
    ⟨by decide +kernel, by decide +kernel⟩
  obtain ⟨answer, hopen⟩ := (hanswers saoPaulo hzone).isOpen (.ahead window 0) (.ahead window 0)
    (.whole 60) 300 rfl rfl ⟨by decide +kernel, by decide +kernel⟩
  have hnext' : SendWindow.next sendTime (.ahead morning 0) saoPaulo
      = .ok (Moment.ofInstant window) := by rfl
  have hopen' : SendWindow.isOpen sendTime (.ahead window 0) (.ahead window 0) saoPaulo (.whole 60)
      (.whole 300) = .ok true := by rfl
  have hcalls : ∀ c ∈ calls, c.2.IsAccepted := by
    rw [calls, List.forall_mem_singleton]
    exact ⟨sketch, by rfl⟩
  obtain ⟨g, hgot, hnodes⟩ := hlasts.stored (World.fresh ()) calls rfl hcalls "f1" (funnel "f1") rfl
  obtain rfl := Except.ok.inj (hnext.symm.trans hnext')
  obtain rfl := Except.ok.inj (hopen.symm.trans hopen')
  exact ⟨⟨hcheck, rfl, hzone⟩, by rfl, hnext, hopen, g, hgot surroundings rfl,
    hnodes _ List.mem_cons_self rfl⟩

end Evening

end Nurture
