import Mathlib.Data.List.Induction
import Mathlib.Logic.Function.Basic
import Nurture.Proofs.FunnelTable
import Nurture.Proofs.PassReport

/-!
  Funnels that are kept

  A run of saves and deletions is accompanied by a shelf: for each identifier the funnel that was
  saved under it last, unless it was deleted since. Whatever comes in the way of calls, the table
  holds the funnels of the shelf and nothing else (`Shelved`), so what the store lists, finds and
  deletes can be read off the shelf (`shelf_shows`).
-/

namespace Nurture

open Validation Validation.Checked Nurture.Action

variable {σ : Type} {s : Surroundings σ} {w : World σ} {db db' : Database} {f : Funnel}

/-- The funnels that were saved and not deleted, by their identifiers. -/
abbrev Shelf := String → Option Funnel

/-- Calls that change the table of funnels. -/
inductive FunnelCall where
  | save (draft : Draft Funnel)
  | delete (id : String)

namespace FunnelCall

/-- What is saved has passed its check. -/
def IsAccepted : FunnelCall → Prop
  | save draft => ∃ j, Funnel.check j = good draft
  | delete _ => True

/-- The world and the shelf after a call. -/
def perform (s : Surroundings σ) (w : World σ) (shelf : Shelf) : FunnelCall → World σ × Shelf
  | save draft =>
    match (Store.saveFunnel draft).run s w with
    | (.ok (.own f), w') => (w', Function.update shelf f.id (some f))
    | (_, w') => (w', shelf)
  | delete id =>
    match (Store.deleteFunnel id).run s w with
    | (.ok (.own _), w') => (w', Function.update shelf id none)
    | (_, w') => (w', shelf)

/-- The world and the shelf after calls, each in its surroundings. -/
def performAll (w : World σ) (calls : List (Surroundings σ × FunnelCall)) : World σ × Shelf :=
  calls.foldl (fun x c => c.2.perform c.1 x.1 x.2) (w, fun _ => none)

end FunnelCall

/-! ## The table along a run -/

/-- The table holds the funnels of the shelf, each in one row. -/
structure Shelved (shelf : Shelf) (db : Database) : Prop where
  nodup : (db.funnels.map (·.id)).Nodup
  whole : ∀ r ∈ db.funnels, Text.isWhole r.id = true
  holds : ∀ r ∈ db.funnels, ∃ f, shelf r.id = some f ∧ r.Holds f
  there : ∀ id f, shelf id = some f → ∃ r ∈ db.funnels, r.id = id

namespace Shelved

variable {shelf : Shelf}

theorem exists_row (h : Shelved shelf db) (hf : f.Proper) {now : Calendar.Stamp}
    (hkeep : db.keeping f now = .ok db') : Text.isWhole f.id = true ∧ ∃ r, r.id = f.id ∧ r.Holds f ∧
      (db'.funnels.map (·.id)).Nodup ∧
      ∀ x, x ∈ db'.funnels ↔ x = r ∨ x ∈ db.funnels ∧ x.id ≠ f.id := by
  have hheld : ∀ r ∈ db.funnels, ∃ g, r.Holds g := by
    intro r hr
    obtain ⟨g, -, hg⟩ := h.holds r hr
    exact ⟨g, hg⟩
  obtain ⟨hwhole, r, hid, hholds, ⟨hr, rfl⟩ | rfl⟩ := Database.keeping_cases hf hheld hkeep
  · refine ⟨hwhole, r, hid, hholds, h.nodup, fun x => ⟨fun hx => ?_, ?_⟩⟩
    · by_cases hx' : x.id = f.id
      · exact .inl (List.inj_on_of_nodup_map h.nodup hx hr (hx'.trans hid.symm))
      · exact .inr ⟨hx, hx'⟩
    · rintro (rfl | ⟨hx, -⟩)
      · exact hr
      · exact hx
  · exact ⟨hwhole, r, hid, hholds, putRow_nodup h.nodup, fun x => hid ▸ mem_putRow_iff⟩

theorem saved (h : Shelved shelf db) (hf : f.Proper) {now : Calendar.Stamp}
    (hkeep : db.keeping f now = .ok db') : Shelved (Function.update shelf f.id (some f)) db' := by
  obtain ⟨hwhole, r, hid, hholds, hnodup, hmem⟩ := h.exists_row hf hkeep
  refine ⟨hnodup, fun x hx => ?_, fun x hx => ?_, fun id g hg => ?_⟩
  · rcases (hmem x).mp hx with rfl | ⟨hx, -⟩
    · exact hid ▸ hwhole
    · exact h.whole x hx
  · rcases (hmem x).mp hx with rfl | ⟨hx, hne⟩
    · exact ⟨f, by rw [hid, Function.update_self], hholds⟩
    · rw [Function.update_of_ne hne]
      exact h.holds x hx
  · by_cases hid' : id = f.id
    · exact ⟨r, (hmem r).mpr (.inl rfl), hid.trans hid'.symm⟩
    · rw [Function.update_of_ne hid'] at hg
      obtain ⟨x, hx, rfl⟩ := h.there id g hg
      exact ⟨x, (hmem x).mpr (.inr ⟨hx, hid'⟩), rfl⟩

theorem dropped (h : Shelved shelf db) (id : String) :
    Shelved (Function.update shelf id none) (db.dropFunnel id) := by
  have hmem : ∀ x, x ∈ (db.dropFunnel id).funnels ↔ x ∈ db.funnels ∧ x.id ≠ id := by
    simp [Database.dropFunnel]
  refine ⟨h.nodup.sublist (List.filter_sublist.map _), fun x hx => h.whole x ((hmem x).mp hx).1,
    fun x hx => ?_, fun id' g hg => ?_⟩
  · obtain ⟨hx, hne⟩ := (hmem x).mp hx
    rw [Function.update_of_ne hne]
    exact h.holds x hx
  · have hne : id' ≠ id := by
      rintro rfl
      rw [Function.update_self] at hg
      cases hg
    rw [Function.update_of_ne hne] at hg
    obtain ⟨x, hx, rfl⟩ := h.there id' g hg
    exact ⟨x, (hmem x).mpr ⟨hx, hne⟩, rfl⟩

end Shelved

namespace FunnelCall

theorem perform_shelved {shelf : Shelf} {c : FunnelCall} (hc : c.IsAccepted)
    (h : Shelved shelf w.database) :
    Shelved (c.perform s w shelf).2 (c.perform s w shelf).1.database := by
  cases c with
  | save draft =>
    obtain ⟨j, hj⟩ := hc
    have hcases := Store.saveFunnel_cases draft s w
    rw [perform]
    rcases hrun : (Store.saveFunnel draft).run s w with ⟨reply, w'⟩
    rw [hrun] at hcases
    rcases hcases with ⟨db, hkeep, rfl, rfl⟩ | ⟨hother, hdb⟩
    · exact h.saved (Funnel.proper_of_check hj _).2 hkeep
    · have hsame : Shelved shelf w'.database := by rwa [hdb]
      rcases reply with e | ⟨f | j⟩
      · exact hsame
      · exact absurd rfl (hother f)
      · exact hsame
  | delete id =>
    have hcases := Store.deleteFunnel_cases id s w
    rw [perform]
    rcases hrun : (Store.deleteFunnel id).run s w with ⟨reply, w'⟩
    rw [hrun] at hcases
    rcases hcases with ⟨rfl, hdb⟩ | ⟨hother, hdb⟩
    · show Shelved (Function.update shelf id none) w'.database
      rw [hdb]
      exact h.dropped id
    · have hsame : Shelved shelf w'.database := by rwa [hdb]
      rcases reply with e | ⟨b | j⟩
      · exact hsame
      · exact absurd rfl (hother b)
      · exact hsame

/-- The table follows the shelf along a run. -/
theorem performAll_shelved {calls : List (Surroundings σ × FunnelCall)}
    (hcalls : ∀ c ∈ calls, c.2.IsAccepted) (hw : w.database.funnels = []) :
    Shelved (performAll w calls).2 (performAll w calls).1.database := by
  induction calls using List.reverseRecOn with
  | nil =>
    show Shelved (fun _ => none) w.database
    constructor <;> simp [hw]
  | append_singleton calls c ih =>
    have hshelved := ih fun c hc => hcalls c (List.mem_append_left _ hc)
    rw [performAll, List.foldl_concat]
    exact perform_shelved (hcalls c (List.mem_append_right _ (List.mem_singleton_self c))) hshelved

end FunnelCall

/-! ## What the store shows -/

/-- The store holds these funnels: one for each of the shelf, which agrees with it as it is
dumped. -/
structure Shelf.Shows (shelf : Shelf) (w : World σ) (funnels : List Funnel) : Prop where
  once : (funnels.map (·.id)).Nodup
  kept : ∀ g ∈ funnels, ∃ f, shelf g.id = some f ∧ g.Alike f.dumped
  there : ∀ id f, shelf id = some f → ∃ g ∈ funnels, g.id = id
  listed : ∀ s : Surroundings σ, (s.interrupt .listFunnels w.outside).1 = none →
    (Store.listFunnels.run s w).1 = .ok (.own funnels)
  got : ∀ g ∈ funnels, ∀ s : Surroundings σ, (s.interrupt .getFunnel w.outside).1 = none →
    ((Store.getFunnel g.id).run s w).1 = .ok (.own (some g))
  missing : ∀ id, ∀ s : Surroundings σ, (s.interrupt .getFunnel w.outside).1 = none →
    Text.isWhole id = true → shelf id = none →
    ((Store.getFunnel id).run s w).1 = .ok (.own none)
  deletes : ∀ id, ∀ s : Surroundings σ, (s.interrupt .deleteFunnel w.outside).1 = none →
    Text.isWhole id = true → ((Store.deleteFunnel id).run s w).1 = .ok (.own (shelf id).isSome)

theorem Shelved.loads {shelf : Shelf} {db : Database} (h : Shelved shelf db) :
    ∃ funnels, List.Forall₂ (fun r f => FunnelRow.load r = .ok f) db.funnelRows funnels := by
  refine exists_forall₂ fun r hr => ?_
  obtain ⟨f, -, hholds⟩ := h.holds r (mem_inOrder.mp hr)
  obtain ⟨g, hload, -⟩ := hholds.load
  exact ⟨g, hload⟩

theorem Shelved.any_id {shelf : Shelf} {db : Database} (h : Shelved shelf db) (id : String) :
    (db.funnels.any fun r => r.id == id) = (shelf id).isSome := by
  rw [Bool.eq_iff_iff, List.any_eq_true, Option.isSome_iff_exists]
  constructor
  · rintro ⟨r, hr, hid⟩
    obtain ⟨f, hf, -⟩ := h.holds r hr
    exact ⟨f, eq_of_beq hid ▸ hf⟩
  · rintro ⟨f, hf⟩
    obtain ⟨r, hr, rfl⟩ := h.there id f hf
    exact ⟨r, hr, beq_self_eq_true _⟩

/-- The table of a shelf shows what is on the shelf. -/
theorem Shelved.shows {shelf : Shelf} (h : Shelved shelf w.database) :
    ∃ funnels, shelf.Shows w funnels := by
  obtain ⟨funnels, hfunnels⟩ := h.loads
  -- a funnel that is listed is read from a row
  have hread : ∀ g ∈ funnels, ∃ r ∈ w.database.funnels, r.load = .ok g ∧ g.id = r.id := by
    intro g hg
    obtain ⟨r, hr, hload⟩ := exists_mem_of_forall₂ hfunnels.flip hg
    exact ⟨r, mem_inOrder.mp hr, hload, FunnelRow.id_of_load hload⟩
  have hids : funnels.map (·.id) = w.database.funnelRows.map (·.id) :=
    (map_eq_map_of_forall₂ hfunnels fun r g hload => (FunnelRow.id_of_load hload).symm).symm
  refine ⟨funnels, ?_, fun g hg => ?_, fun id f hf => ?_, fun s hs => ?_, fun g hg s hs => ?_,
    fun id s hs hid hnone => ?_, fun id s hs hid => ?_⟩
  · rw [hids]
    exact ((inOrder_perm _ _).map _).nodup_iff.mpr h.nodup
  · obtain ⟨r, hr, hload, hid⟩ := hread g hg
    obtain ⟨f, hf, hholds⟩ := h.holds r hr
    obtain ⟨g', hload', halike⟩ := hholds.load
    obtain rfl := Except.ok.inj (hload'.symm.trans hload)
    exact ⟨f, hid ▸ hf, halike⟩
  · obtain ⟨r, hr, rfl⟩ := h.there id f hf
    have hmem : r.id ∈ funnels.map (·.id) :=
      hids ▸ List.mem_map_of_mem (mem_inOrder.mpr hr)
    exact List.mem_map.mp hmem
  · rw [listFunnels_eq]
    obtain ⟨o, hrun⟩ := run_listing_of_loads Database.funnelRows FunnelRow.load hs hfunnels
    rw [hrun]
  · obtain ⟨r, hr, hload, hid⟩ := hread g hg
    rw [hid, Store.run_getFunnel hs (h.whole r hr), find?_key h.nodup hr]
    simp only [hload, Except.map]
  · rw [Store.run_getFunnel hs hid, List.find?_eq_none.mpr]
    intro r hr hkey
    obtain ⟨f, hf, -⟩ := h.holds r hr
    rw [eq_of_beq hkey, hnone] at hf
    cases hf
  · rw [Store.deleteFunnel_of_none hs hid, h.any_id]

/-! ## The next save -/

/-- What becomes of saving a draft. -/
structure Draft.Fares (draft : Draft Funnel) (s : Surroundings σ) (w : World σ)
    (reply : Except Failure (Reply Funnel)) (db' : Database) : Prop where
  /-- What is saved is the draft, under its own identifier if it brings one. -/
  saved : ∀ f, reply = .ok (.own f) → f = draft.withId f.id ∧ ∀ id ∈ draft.id, f.id = id
  /-- A call that is not answered changes nothing. -/
  unanswered : (∀ f, reply ≠ .ok (.own f)) → db' = w.database
  /-- If nothing comes in the way, a call that is not answered raises. -/
  raises : (s.interrupt .saveFunnel w.outside).1 = none →
    (∃ f, reply = .ok (.own f)) ∨ ∃ e, reply = .error e
  /-- If nothing comes in the way, a call is answered if the identifier can be encoded and the data
  of the nodes are not nested too deeply. -/
  answered_iff : (s.interrupt .saveFunnel w.outside).1 = none →
    Calendar.inRange s.databaseClock.instant = true →
    ((∃ f, reply = .ok (.own f)) ↔
      (∀ id ∈ draft.id, Text.isWhole id = true) ∧ (draft.withId "").isDumpable = true)

theorem Database.exists_keeping_iff {now : Calendar.Stamp} (hf : f.Proper)
    (hnow : Calendar.inRange now.instant = true) :
    (∃ db', db.keeping f now = .ok db') ↔ Text.isWhole f.id = true ∧ f.isDumpable = true := by
  constructor
  · rintro ⟨db', h⟩
    obtain ⟨_, hwhole, h⟩ := bind_eq_ok_iff.mp h
    obtain ⟨row?, hrow, -⟩ := bind_eq_ok_iff.mp h
    exact ⟨(Column.whole_eq_ok_iff.mp hwhole).1,
      (Store.exists_funnelToWrite_iff _ hf hnow).mp ⟨row?, hrow⟩⟩
  · rintro ⟨hwhole, hdump⟩
    obtain ⟨row?, hrow⟩ := (Store.exists_funnelToWrite_iff
      (db.funnels.find? fun r => r.id == f.id) hf hnow).mpr hdump
    exact ⟨_, bind_eq_ok_iff.mpr ⟨_, Column.whole_eq_ok hwhole,
      bind_eq_ok_iff.mpr ⟨row?, hrow, rfl⟩⟩⟩

theorem Funnel.nodes_withId {j : Json} {draft : Draft Funnel} (h : Funnel.check j = good draft)
    (id : String) : (draft.withId id).nodes = (draft.withId "").nodes := by
  cases j
  case obj fs =>
    obtain ⟨-, name, trigger, isActive, nodes, start, -, -, -, -, -, -, -, rfl⟩ :=
      Funnel.checkFields_eq_good_iff.mp h
    rfl
  all_goals cases h

theorem Funnel.isDumpable_withId {j : Json} {draft : Draft Funnel} (h : Funnel.check j = good draft)
    (id : String) : (draft.withId id).isDumpable = (draft.withId "").isDumpable := by
  rw [isDumpable, isDumpable, nodes_withId h]

/-- What becomes of saving a draft that has passed its check. -/
theorem Draft.fares {j : Json} {draft : Draft Funnel} (h : Funnel.check j = good draft)
    (s : Surroundings σ) (w : World σ) :
    draft.Fares s w ((Store.saveFunnel draft).run s w).1
      ((Store.saveFunnel draft).run s w).2.database := by
  obtain ⟨hid, hproper⟩ : (Store.savedAs draft w.issued).id = Store.savedId draft w.issued ∧
    (Store.savedAs draft w.issued).Proper := Funnel.proper_of_check h _
  have hcases := Store.saveFunnel_cases draft s w
  constructor
  case saved =>
    intro f hf
    rcases hcases with ⟨db, -, hreply, -⟩ | ⟨hother, -⟩
    · rw [hreply] at hf
      cases hf
      refine ⟨congrArg draft.withId hid.symm, fun id hgiven => ?_⟩
      rw [hid, Store.savedId, hgiven, Option.getD_some]
    · exact absurd hf (hother f)
  case unanswered =>
    intro hother
    rcases hcases with ⟨db, -, hreply, -⟩ | ⟨-, hdb⟩
    · exact absurd hreply (hother _)
    · exact hdb
  case raises =>
    intro hs
    rcases Store.saveFunnel_of_none draft hs with ⟨e, -, hreply⟩ | ⟨db, -, hreply⟩
    · exact .inr ⟨e, hreply⟩
    · exact .inl ⟨_, hreply⟩
  case answered_iff =>
    intro hs hnow
    have hiff : (∃ f, ((Store.saveFunnel draft).run s w).1 = .ok (.own f)) ↔
        ∃ db, w.database.keeping (Store.savedAs draft w.issued) s.databaseClock = .ok db := by
      rcases Store.saveFunnel_of_none draft hs with ⟨e, herror, hreply⟩ | ⟨db, hkept, hreply⟩
      · rw [herror, hreply]
        simp
      · exact iff_of_true ⟨_, hreply⟩ ⟨db, hkept⟩
    have hwhole : Text.isWhole (Store.savedAs draft w.issued).id = true ↔
        ∀ id ∈ draft.id, Text.isWhole id = true := by
      rw [hid, Store.savedId]
      cases draft.id with
      | none => exact iff_of_true (w.issued.naming.whole _ _) nofun
      | some id => simp
    rw [hiff, Database.exists_keeping_iff hproper hnow, hwhole, Store.savedAs,
      Funnel.isDumpable_withId h]

/-! ## Runs -/

namespace Sketch

def surroundings : Surroundings Unit := .calm (.ahead 0 0) (.usual .utc 2)

/-- A funnel with one letter, in whose data there is a field that only the editor knows. -/
def sketch (zoom : Json) : Json :=
  .obj [("id", .str "f1"), ("name", .str "Launch"), ("trigger", .str "launch"),
    ("nodes", .arr [.obj [("id", .str "letter"), ("type", .str "EMAIL"),
      ("data", .obj [("zoom", zoom)])]]),
    ("start_node_id", .str "letter")]

def letter (zoom : Json) : Node :=
  ⟨⟨"letter", .origin⟩, .email ⟨none, none, none, [("zoom", zoom)]⟩ none⟩

def funnel (zoom : Json) (id : String) : Funnel :=
  ⟨id, "Launch", "launch", true, [letter zoom], some "letter"⟩

/-- A sketch is saved, saved again with other data, and asked for. -/
def calls : List (Surroundings Unit × FunnelCall) :=
  [(surroundings, .save ⟨some "f1", funnel (.int 3)⟩),
   (surroundings, .save ⟨some "f1", funnel (.str "fit")⟩), (surroundings, .delete "f2")]

/-- The row in which the sketch is kept. -/
def row (zoom : Json) : FunnelRow := (funnel zoom "f1").toRow 0

end Sketch

end Nurture
