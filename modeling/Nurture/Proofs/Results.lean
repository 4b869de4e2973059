import Mathlib.Data.List.Forall2
import Nurture.Failure
import Nurture.Validation.Scalar

/-!
  When a chain succeeds

  Operations that may fail are chained, and so are checks of data. The lemmas say
  what every link of a chain came to when the whole chain succeeded.
-/

namespace Nurture

open Validation Validation.Checked

variable {ε ε' α β : Type}

theorem bind_eq_ok_iff {x : Except ε α} {f : α → Except ε β} {b : β} :
    x >>= f = .ok b ↔ ∃ a, x = .ok a ∧ f a = .ok b := by
  cases x with
  | error e =>
    constructor
    · intro h
      cases h
    · rintro ⟨a, h, -⟩
      cases h
  | ok a =>
    constructor
    · intro h
      exact ⟨a, rfl, h⟩
    · rintro ⟨a', h, hf⟩
      cases h
      exact hf

theorem bind_eq_error_iff {x : Except ε α} {f : α → Except ε β} {e : ε} :
    x >>= f = .error e ↔ x = .error e ∨ ∃ a, x = .ok a ∧ f a = .error e := by
  cases x with
  | error e' =>
    constructor
    · intro h
      cases h
      exact .inl rfl
    · rintro (h | ⟨a, h, -⟩)
      · cases h
        rfl
      · cases h
  | ok a =>
    constructor
    · intro h
      exact .inr ⟨a, rfl, h⟩
    · rintro (h | ⟨a', h, hf⟩)
      · cases h
      · cases h
        exact hf

theorem bind_ne_error {x : Except ε α} {f : α → Except ε β} {e : ε} (hx : x ≠ .error e)
    (hf : ∀ a, f a ≠ .error e) : x >>= f ≠ .error e := by
  rw [ne_eq, bind_eq_error_iff]
  rintro (h | ⟨a, -, h⟩)
  · exact hx h
  · exact hf a h

theorem exists_eq_error_iff {x : Except ε α} : (∃ e, x = .error e) ↔ x.isOk = false := by
  cases x <;> simp [Except.isOk, Except.toBool]

theorem map_eq_ok_iff {x : Except ε α} {f : α → β} {b : β} :
    x.map f = .ok b ↔ ∃ a, x = .ok a ∧ f a = b := by
  cases x <;> simp [Except.map]

theorem mapError_eq_ok_iff {x : Except ε α} {f : ε → ε'} {a : α} :
    x.mapError f = .ok a ↔ x = .ok a := by
  cases x <;> simp [Except.mapError]

theorem mapError_eq_error_iff {x : Except ε α} {f : ε → ε'} {e : ε'} :
    x.mapError f = .error e ↔ ∃ cause, x = .error cause ∧ f cause = e := by
  cases x <;> simp [Except.mapError]

theorem exists_mem_of_forall₂ {R : α → β → Prop} {items : List α} {results : List β}
    (h : List.Forall₂ R items results) {a : α} (ha : a ∈ items) : ∃ b ∈ results, R a b := by
  obtain ⟨i, hi, rfl⟩ := List.getElem_of_mem ha
  have hi' : i < results.length := h.length_eq ▸ hi
  exact ⟨results[i], List.getElem_mem hi', h.get hi hi'⟩

theorem exists_forall₂ {R : α → β → Prop} {items : List α}
    (h : ∀ a ∈ items, ∃ b, R a b) : ∃ results, List.Forall₂ R items results := by
  induction items with
  | nil => exact ⟨[], .nil⟩
  | cons a items ih =>
    obtain ⟨b, hb⟩ := h a List.mem_cons_self
    obtain ⟨bs, hbs⟩ := ih fun x hx => h x (List.mem_cons_of_mem a hx)
    exact ⟨b :: bs, .cons hb hbs⟩

theorem map_eq_map_of_forall₂ {γ : Type} {R : α → β → Prop} {f : α → γ} {g : β → γ}
    {items : List α} {results : List β} (h : List.Forall₂ R items results)
    (hR : ∀ a b, R a b → f a = g b) : items.map f = results.map g := by
  induction h with
  | nil => rfl
  | cons hab _ ih => rw [List.map_cons, List.map_cons, hR _ _ hab, ih]

/-- Every member of a list that was gone through succeeded, and its result stands in its place. -/
theorem mapM_eq_ok_iff {f : α → Except ε β} {items : List α} {results : List β} :
    items.mapM f = .ok results ↔ List.Forall₂ (fun a b => f a = .ok b) items results := by
  induction items generalizing results with
  | nil => simp [pure, Except.pure, eq_comm]
  | cons a items ih =>
    rw [List.mapM_cons, bind_eq_ok_iff]
    constructor
    · rintro ⟨b, hb, h⟩
      obtain ⟨bs, hbs, h⟩ := bind_eq_ok_iff.mp h
      cases h
      exact .cons hb (ih.mp hbs)
    · rintro (_ | ⟨hb, hbs⟩)
      exact ⟨_, hb, bind_eq_ok_iff.mpr ⟨_, ih.mpr hbs, rfl⟩⟩

theorem toExcept_eq_ok_iff {c : Checked α} {title : String} {a : α} :
    c.toExcept title = .ok a ↔ c = good a := by
  cases c <;> simp [Checked.toExcept]

theorem andThen_eq_good_iff {c : Checked α} {f : α → Checked β} {b : β} :
    c.andThen f = good b ↔ ∃ a, c = good a ∧ f a = good b := by
  cases c <;> simp [Checked.andThen]

theorem mapped_eq_good_iff {c : Checked α} {f : α → β} {b : β} :
    f <$> c = good b ↔ ∃ a, c = good a ∧ f a = b :=
  map_eq_good_iff

theorem applied_eq_good_iff {f : Checked (α → β)} {c : Checked α} {b : β} :
    f <*> c = good b ↔ ∃ g a, f = good g ∧ c = good a ∧ g a = b :=
  ap_eq_good_iff

@[simp] theorem complain_ne_good {c : Complaint} {j : Json} {a : α} :
    (complain c j : Checked α) ≠ good a := by
  simp [complain]

theorem each_go_eq_good_iff {check : Json → Checked α} {i : Nat} {items : List Json}
    {values : List α} :
    each.go check i items = good values
      ↔ List.Forall₂ (fun j a => check j = good a) items values := by
  induction items generalizing i values with
  | nil => simp [each.go, eq_comm]
  | cons j items ih =>
    simp only [each.go, ap_eq_good_iff, map_eq_good_iff, within_eq_good_iff, ih]
    constructor
    · rintro ⟨g, as, ⟨a, ha, rfl⟩, has, rfl⟩
      exact .cons ha has
    · rintro (_ | ⟨ha, has⟩)
      exact ⟨_, _, ⟨_, ha, rfl⟩, has, rfl⟩

theorem each_eq_good_iff {check : Json → Checked α} {items : List Json} {values : List α} :
    each check items = good values ↔ List.Forall₂ (fun j a => check j = good a) items values :=
  each_go_eq_good_iff

theorem textOf_eq_good_iff {least : Nat} {j : Json} {s : String} :
    textOf least j = good s ↔ j = .str s ∧ Text.isWhole s = true ∧ least ≤ s.length := by
  cases j
  case str t =>
    simp only [textOf, Json.str.injEq]
    constructor
    · intro h
      split at h
      · simp at h
      · split at h
        · simp at h
        · cases h
          simp_all
    · rintro ⟨rfl, hw, hl⟩
      simp [hw, Nat.not_lt.mpr hl]
  all_goals simp [textOf]

theorem required_eq_good_iff {fs : Json.Fields} {key : String}
    {check : Json → Checked α} {a : α} :
    required fs key check = good a ↔ ∃ j, fs.get? key = some j ∧ check j = good a := by
  unfold required
  cases h : fs.get? key with
  | none => simp
  | some j => simp [within_eq_good_iff]

theorem listOf_eq_good_iff {check : Json → Checked α} {j : Json} {values : List α} :
    listOf check j = good values ↔
      ∃ items, j = .arr items ∧ List.Forall₂ (fun j a => check j = good a) items values := by
  cases j
  case arr items => simp [listOf, each_eq_good_iff]
  all_goals simp [listOf]

theorem defaulted_eq_good_iff {fs : Json.Fields} {key : String} {value : α}
    {check : Json → Checked α} {a : α} :
    defaulted fs key value check = good a ↔
      (∃ j, fs.get? key = some j ∧ check j = good a) ∨ fs.get? key = none ∧ a = value := by
  unfold defaulted
  cases h : fs.get? key with
  | none => simp [eq_comm]
  | some j => simp [within_eq_good_iff]

theorem orNull_text_ofOption (t : Option String) : orNull text (.ofOption t) = good t := by
  cases t <;> rfl

end Nurture
