import Mathlib.Data.List.Basic
import Mathlib.Data.List.Perm.Basic
import Nurture.Engine.Placeholder

/-!
  Templates are filled in one pass

  A template of pieces is put together from texts without braces and from placeholders of names
  without braces. A placeholder that is searched for is found in it exactly where a piece is that
  placeholder (`fill_text`): it begins with two braces, and these stand nowhere else. If the value
  has no brace either, what comes out is a template of pieces again.

  So filling the entries of the context, the name and the email one after the other comes to what
  filling every piece by itself comes to, whatever the order of the entries is
  (`substitute_pieces`).
-/

namespace Nurture

/-- No brace stands in the text. -/
def Braceless (s : String) : Prop := '\x7b' ∉ s.toList ∧ '\x7d' ∉ s.toList

instance (s : String) : Decidable (Braceless s) := inferInstanceAs (Decidable (_ ∧ _))

/-- A piece of a template: a text, or the placeholder of a name. -/
inductive Piece where
  | literal (text : String)
  | blank (key : String)

namespace Piece

/-- The piece as it is written in a template. -/
def written : Piece → String
  | literal text => text
  | blank key => "\x7b\x7b" ++ key ++ "\x7d\x7d"

/-- No brace stands in the text or in the name. -/
def IsPlain : Piece → Prop
  | literal text => Braceless text
  | blank key => Braceless key

instance : (p : Piece) → Decidable p.IsPlain
  | literal text => inferInstanceAs (Decidable (Braceless text))
  | blank key => inferInstanceAs (Decidable (Braceless key))

/-- What a message shows in the place of the piece. A lead without a name goes by the default
name, and a placeholder without a value stays. -/
def shown (defaultName : String) (context : Context) (lead : Lead) : Piece → String
  | literal text => text
  | blank key =>
    if key = "name" then
      if lead.name = "" then defaultName else lead.name
    else if key = "email" then lead.email
    else
      match context.lookup key with
      | some value => value
      | none => "\x7b\x7b" ++ key ++ "\x7d\x7d"

/-- The piece with a value in the place of the placeholder of a name. -/
def put (key value : String) : Piece → Piece
  | literal text => literal text
  | blank k => if k = key then literal value else blank k

/-- The characters of a template. -/
def text (ps : List Piece) : List Char := ps.flatMap fun p => p.written.toList

theorem written_blank (key : String) : (blank key).written = placeholder key := by
  apply String.toList_inj.mp
  simp [written, placeholder, placeholderTail]

theorem text_cons (p : Piece) (ps : List Piece) : text (p :: ps) = p.written.toList ++ text ps :=
  List.flatMap_cons

theorem toList_join (ps : List Piece) :
    (String.join (ps.map fun p => p.written)).toList = text ps := by
  rw [String.toList_join, List.flatMap_map, text]

theorem put_literal (key value t : String) : (literal t).put key value = literal t := rfl

theorem put_blank_self (key value : String) : (blank key).put key value = literal value :=
  if_pos rfl

theorem put_blank_of_ne {k key : String} (h : k ≠ key) (value : String) :
    (blank k).put key value = blank k :=
  if_neg h

theorem IsPlain.put {p : Piece} (hp : p.IsPlain) (key : String) {value : String}
    (hvalue : Braceless value) : (p.put key value).IsPlain := by
  cases p with
  | literal t => exact hp
  | blank k =>
    by_cases hk : k = key
    · rw [hk, put_blank_self]
      exact hvalue
    · rw [put_blank_of_ne hk]
      exact hp

end Piece

open Piece

/-! ## Filling one name -/

theorem eq_of_append_closing {k key u v : List Char} (hk : '\x7d' ∉ k) (hkey : '\x7d' ∉ key)
    (h : k ++ '\x7d' :: u = key ++ '\x7d' :: v) : k = key := by
  have hfront : ∀ {cs : List Char} (rest : List Char), '\x7d' ∉ cs →
      (cs ++ '\x7d' :: rest).takeWhile (· ≠ '\x7d') = cs := by
    intro cs rest hcs
    rw [List.takeWhile_append_of_pos, List.takeWhile_cons_of_neg (by simp), List.append_nil]
    intro c hc
    exact decide_eq_true (ne_of_mem_of_not_mem hc hcs)
  rw [← hfront u hk, h, hfront v hkey]

theorem fill_blank_of_ne {k key : String} (hk : Braceless k) (hkey : Braceless key)
    (hne : k ≠ key) (value : String) (rest : List Char) :
    fill key value ((placeholder k).toList ++ rest)
      = (placeholder k).toList ++ fill key value rest := by
  have htail : (placeholder k).toList
      = '\x7b' :: '\x7b' :: (k.toList ++ ['\x7d', '\x7d']) := by
    rw [placeholder, String.toList_ofList, placeholderTail, List.cons_append]
  -- The two names end at the first closing brace, so they would be the same.
  have hfirst : Text.dropHead? (placeholderTail key.toList)
      ('\x7b' :: (k.toList ++ ['\x7d', '\x7d'] ++ rest)) = none := by
    rw [Text.dropHead?_eq_none_iff]
    rintro ⟨more, hmore⟩
    rw [placeholderTail, List.cons_append, List.cons_append, List.cons.injEq, List.append_assoc,
      List.append_assoc] at hmore
    exact hne (String.toList_inj.mp (eq_of_append_closing hkey.2 hk.2 hmore.2).symm)
  -- Behind the second brace there is the name, which does not begin with a third one.
  have hinner : '\x7b' ∉ k.toList ++ ['\x7d', '\x7d'] := by
    rw [List.mem_append, not_or]
    exact ⟨hk.1, by decide⟩
  have hsecond : Text.dropHead? (placeholderTail key.toList)
      (k.toList ++ ['\x7d', '\x7d'] ++ rest) = none := by
    rw [Text.dropHead?_eq_none_iff, placeholderTail, List.cons_append]
    intro hprefix
    rcases hfront : k.toList ++ ['\x7d', '\x7d'] with _ | ⟨c, cs⟩
    · simp at hfront
    · rw [hfront, List.cons_append, List.cons_prefix_cons] at hprefix
      rw [hfront, ← hprefix.1] at hinner
      exact hinner List.mem_cons_self
  rw [fill, fill, htail, List.cons_append, List.cons_append,
    Text.replaceAll_cons_of_none _ hfirst, Text.replaceAll_cons_of_none _ hsecond,
    Text.replaceAll_append_of_notMem _ _ _ hinner, List.cons_append, List.cons_append]

/-- Filling a name fills the placeholders of that name, and changes nothing else. -/
theorem fill_text {key : String} (hkey : Braceless key) (value : String) {ps : List Piece}
    (hps : ∀ p ∈ ps, p.IsPlain) : fill key value (text ps) = text (ps.map (put key value)) := by
  induction ps with
  | nil => exact Text.replaceAll_nil _ _ _
  | cons p ps ih =>
    rw [List.forall_mem_cons] at hps
    have ih := ih hps.2
    rw [text_cons, List.map_cons, text_cons, ← ih]
    cases p with
    | literal t => exact Text.replaceAll_append_of_notMem _ _ _ hps.1.1
    | blank k =>
      by_cases hk : k = key
      · rw [hk, put_blank_self, written_blank, placeholder, String.toList_ofList]
        exact Text.replaceAll_append _ _ _ _
      · rw [put_blank_of_ne hk, written_blank]
        exact fill_blank_of_ne hps.1 hkey hk value (text ps)

/-! ## Filling a context -/

namespace Context

/-- Names are given once, and no brace stands in names and values. -/
structure IsPlain (context : Context) : Prop where
  nodup : (context.map (·.1)).Nodup
  keys : ∀ e ∈ context, Braceless e.1
  values : ∀ e ∈ context, Braceless e.2

/-- The entries that are filled: not those with a name that the lead itself fills. -/
def own (context : Context) : Context := context.filter fun e => !leadNames.contains e.1

theorem IsPlain.own {context : Context} (h : context.IsPlain) : context.own.IsPlain where
  nodup := h.nodup.sublist (List.filter_sublist.map _)
  keys e he := h.keys e (List.mem_of_mem_filter he)
  values e he := h.values e (List.mem_of_mem_filter he)

theorem IsPlain.perm {context entries : Context} (h : context.IsPlain)
    (hperm : entries.Perm context) : entries.IsPlain where
  nodup := (hperm.map _).nodup_iff.mpr h.nodup
  keys e he := h.keys e (hperm.mem_iff.mp he)
  values e he := h.values e (hperm.mem_iff.mp he)

theorem lookup_eq_some_iff {context : Context} (h : (context.map (·.1)).Nodup)
    {key value : String} : context.lookup key = some value ↔ (key, value) ∈ context := by
  constructor
  · intro hfound
    obtain ⟨before, after, rfl, -⟩ := List.lookup_eq_some_iff.mp hfound
    exact List.mem_append_right _ List.mem_cons_self
  · intro hmem
    obtain ⟨before, after, rfl⟩ := List.append_of_mem hmem
    refine List.lookup_eq_some_iff.mpr ⟨before, after, rfl, fun e he => ?_⟩
    rw [List.map_append, List.nodup_append] at h
    have hne := h.2.2 e.1 (List.mem_map_of_mem he) key (List.mem_map_of_mem List.mem_cons_self)
    exact bne_iff_ne.mpr hne.symm

theorem lookup_eq_of_perm {context entries : Context} (h : (context.map (·.1)).Nodup)
    (hperm : entries.Perm context) (key : String) : entries.lookup key = context.lookup key := by
  have h' : (entries.map (·.1)).Nodup := (hperm.map _).nodup_iff.mpr h
  apply Option.ext
  intro value
  rw [lookup_eq_some_iff h, lookup_eq_some_iff h', hperm.mem_iff]

theorem lookup_own {key : String} (hkey : key ∉ leadNames) (context : Context) :
    context.own.lookup key = context.lookup key := by
  induction context with
  | nil => rfl
  | cons e context ih =>
    cases he : leadNames.contains e.1 with
    | true =>
      have hne : key ≠ e.1 := fun h => hkey (h ▸ List.contains_iff_mem.mp he)
      rw [own, List.filter_cons_of_neg (by rw [he]; decide), List.lookup_cons, beq_false_of_ne hne]
      exact ih
    | false =>
      rw [own, List.filter_cons_of_pos (by rw [he]; decide), List.lookup_cons, List.lookup_cons]
      rw [own] at ih
      rw [ih]

/-- The piece with the values of the entries in the place of their placeholders. -/
def putAll (context : Context) (p : Piece) : Piece := context.foldl (fun p e => p.put e.1 e.2) p

theorem putAll_literal (context : Context) (t : String) :
    context.putAll (literal t) = literal t := by
  induction context with
  | nil => rfl
  | cons e context ih => exact ih

theorem putAll_blank (context : Context) (key : String) :
    context.putAll (blank key)
      = match context.lookup key with
        | some value => literal value
        | none => blank key := by
  induction context with
  | nil => rfl
  | cons e context ih =>
    rw [List.lookup_cons]
    by_cases hkey : key = e.1
    · rw [hkey, beq_self_eq_true]
      show putAll context ((blank e.1).put e.1 e.2) = literal e.2
      rw [put_blank_self, putAll_literal]
    · rw [beq_false_of_ne hkey]
      show putAll context ((blank key).put e.1 e.2) = _
      rw [put_blank_of_ne hkey]
      exact ih

theorem fillContext_eq (context : Context) (t : List Char) :
    fillContext context t = context.own.foldl (fun t e => fill e.1 e.2 t) t := by
  rw [own, List.foldl_filter, fillContext]
  congr 1
  funext t e
  cases leadNames.contains e.1 <;> rfl

/-- Filling entry by entry fills every piece by itself, and leaves a template of pieces. -/
theorem fill_entries {context : Context} (hcontext : context.IsPlain) {ps : List Piece}
    (hps : ∀ p ∈ ps, p.IsPlain) :
    context.foldl (fun t e => fill e.1 e.2 t) (text ps) = text (ps.map context.putAll) ∧
      ∀ p ∈ ps, (context.putAll p).IsPlain := by
  induction context generalizing ps with
  | nil =>
    refine ⟨?_, hps⟩
    show text ps = text (ps.map id)
    rw [List.map_id]
  | cons e context ih =>
    have hkey := hcontext.keys e List.mem_cons_self
    have hvalue := hcontext.values e List.mem_cons_self
    have hrest : IsPlain context :=
      ⟨(List.nodup_cons.mp hcontext.nodup).2, fun e' he' => hcontext.keys e' (.tail _ he'),
        fun e' he' => hcontext.values e' (.tail _ he')⟩
    have hput : ∀ p ∈ ps.map (put e.1 e.2), p.IsPlain := by
      rw [List.forall_mem_map]
      exact fun p hp => (hps p hp).put e.1 hvalue
    obtain ⟨htext, hplain⟩ := ih hrest hput
    rw [List.foldl_cons, fill_text hkey e.2 hps, htext, List.map_map]
    exact ⟨rfl, fun p hp => hplain _ (List.mem_map_of_mem hp)⟩

end Context

/-! ## Filling a template -/

/-- The entries, the name and the email are put in the place of a piece by what is shown there. -/
theorem written_put (defaultName : String) (context : Context) (lead : Lead) (p : Piece) :
    (((context.own.putAll p).put "name" (lead.address defaultName)).put "email" lead.email).written
      = p.shown defaultName context lead := by
  cases p with
  | literal t => rw [Context.putAll_literal, put_literal, put_literal, written, shown]
  | blank key =>
    by_cases hlead : key ∈ leadNames
    · -- no entry fills what the lead itself fills
      have hnone : context.own.lookup key = none := by
        rw [List.lookup_eq_none_iff]
        intro e he
        have hown := (List.mem_filter.mp he).2
        rw [bne_iff_ne]
        rintro rfl
        simp [hlead] at hown
      rw [Context.putAll_blank, hnone]
      have hcases : key = "name" ∨ key = "email" := by simpa [leadNames] using hlead
      rcases hcases with rfl | rfl
      · rw [put_blank_self, put_literal, written, shown, if_pos rfl]
        rfl
      · rw [put_blank_of_ne (by decide), put_blank_self, written, shown, if_neg (by decide),
          if_pos rfl]
    · have hname : key ≠ "name" := by
        rintro rfl
        exact hlead (by decide)
      have hemail : key ≠ "email" := by
        rintro rfl
        exact hlead (by decide)
      rw [Context.putAll_blank, Context.lookup_own hlead, shown, if_neg hname, if_neg hemail]
      cases context.lookup key with
      | none => rw [put_blank_of_ne hname, put_blank_of_ne hemail, written]
      | some value => rw [put_literal, put_literal, written]

/-- A template that is put together from texts and placeholders is filled piece by piece: the email
is that of the lead, and so is the name, or it is the default name if the lead has none; other
values are those of the context, and placeholders without a value stay. Entries called like what the
lead itself fills make no difference, and the order of the entries makes none. -/
theorem substitute_pieces {defaultName : String} {ps : List Piece} {context : Context}
    {lead : Lead} (hps : ∀ p ∈ ps, p.IsPlain) (hcontext : context.IsPlain)
    (hname : Braceless lead.name) (hdefault : Braceless defaultName) :
    ∀ entries : Context, entries.own.Perm context.own →
      substitute defaultName (String.join (ps.map fun p => p.written)) entries lead
        = String.join (ps.map fun p => p.shown defaultName context lead) := by
  intro entries hperm
  have haddress : Braceless (lead.address defaultName) := by
    unfold Lead.address
    split
    · exact hdefault
    · exact hname
  have hentries := hcontext.own.perm hperm
  obtain ⟨htext, hplain⟩ := Context.fill_entries hentries hps
  have hshown : ∀ p : Piece, entries.own.putAll p = context.own.putAll p := by
    intro p
    cases p with
    | literal t => rw [Context.putAll_literal, Context.putAll_literal]
    | blank key =>
      rw [Context.putAll_blank, Context.putAll_blank,
        Context.lookup_eq_of_perm hcontext.own.nodup hperm]
  rw [← List.forall_mem_map (f := entries.own.putAll) (P := Piece.IsPlain)] at hplain
  have hnamed : ∀ p ∈ (ps.map entries.own.putAll).map (put "name" (lead.address defaultName)),
      p.IsPlain := by
    rw [List.forall_mem_map]
    exact fun p hp => (hplain p hp).put "name" haddress
  apply String.toList_inj.mp
  rw [substitute, toList_join, Context.fillContext_eq, htext, String.toList_ofList,
    fill_text (by decide) _ hplain, fill_text (by decide) _ hnamed, String.toList_join, text,
    List.flatMap_map, List.flatMap_map, List.flatMap_map, List.flatMap_map]
  apply List.flatMap_congr
  intro p _
  rw [hshown, written_put]

/-! ## A greeting -/

namespace Greeting

def pieces : List Piece :=
  [.literal "Dear ", .blank "name", .literal ": ", .blank "post", .literal " and ", .blank "offer",
    .blank "email"]

def template : String :=
  "Dear \x7b\x7bname\x7d\x7d: \x7b\x7bpost\x7d\x7d and "
    ++ "\x7b\x7boffer\x7d\x7d\x7b\x7bemail\x7d\x7d"

def context : Context := [("post", "News"), ("name", "nobody")]

/-- The same entries in another order, with another value for what the lead fills itself. -/
def entries : Context := [("name", "somebody"), ("post", "News")]

def lead (name : String) : Lead :=
  { id := "lead-1", email := "ada@example.com", name := name, phone := "", status := Lead.active,
    tags := [], stage := "new", source := none, createdAt := none }

/-- The name is the lead's, or the default name for a lead without one, and the placeholder that
nothing fills stays. -/
theorem greets_the_lead :
    ((∀ p ∈ pieces, p.IsPlain) ∧ context.IsPlain ∧ Braceless "Ada" ∧ Braceless "" ∧
      Braceless "friend" ∧ entries.own.Perm context.own) ∧
    substitute "friend" template entries (lead "Ada")
      = "Dear Ada: News and \x7b\x7boffer\x7d\x7dada@example.com" ∧
    substitute "friend" template entries (lead "")
      = "Dear friend: News and \x7b\x7boffer\x7d\x7dada@example.com" := by
  have hpieces : ∀ p ∈ pieces, p.IsPlain := by decide
  have hcontext : context.IsPlain := ⟨by decide, by decide, by decide⟩
  have hname : Braceless "Ada" := by decide
  have hnone : Braceless "" := by decide
  have hdefault : Braceless "friend" := by decide
  have hperm : entries.own.Perm context.own := List.Perm.refl [("post", "News")]
  refine ⟨⟨hpieces, hcontext, hname, hnone, hdefault, hperm⟩, ?_, ?_⟩
  · exact substitute_pieces hpieces hcontext hname hdefault entries hperm
  · exact substitute_pieces hpieces hcontext hnone hdefault entries hperm

end Greeting

end Nurture
