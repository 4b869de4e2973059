/-!
  Searching a text

  `replaceAll` exchanges every occurrence of a text for another, from left to
  right, occurrences not overlapping and the replacements not searched again.
  `splitAt` cuts at every occurrence of one character.
-/

namespace Nurture.Text

/-- What follows the text `p` at the head of `cs`, if `cs` starts with it. -/
def dropHead? : List Char → List Char → Option (List Char)
  | [], cs => some cs
  | _ :: _, [] => none
  | a :: p, c :: cs => if a = c then dropHead? p cs else none

theorem dropHead?_eq_some_iff {p cs rest : List Char} :
    dropHead? p cs = some rest ↔ cs = p ++ rest := by
  induction p generalizing cs with
  | nil => simp [dropHead?]
  | cons a p ih =>
    cases cs with
    | nil => simp [dropHead?]
    | cons c cs =>
      by_cases h : a = c
      · simp [dropHead?, h, ih]
      · simp [dropHead?, h, Ne.symm h]

theorem dropHead?_eq_none_iff {p cs : List Char} : dropHead? p cs = none ↔ ¬ p <+: cs := by
  rw [Option.eq_none_iff_forall_not_mem]
  constructor
  · intro h hprefix
    obtain ⟨rest, hrest⟩ := hprefix
    exact h rest (dropHead?_eq_some_iff.mpr hrest.symm)
  · intro h rest hrest
    exact h ⟨rest, (dropHead?_eq_some_iff.mp hrest).symm⟩

theorem length_of_dropHead? {p cs rest : List Char} (h : dropHead? p cs = some rest) :
    rest.length + p.length = cs.length := by
  rw [dropHead?_eq_some_iff.mp h, List.length_append, Nat.add_comm]

/-- Exchanges every occurrence of the nonempty text `a :: p` for `w`. -/
def replaceAll (a : Char) (p w : List Char) : List Char → List Char
  | [] => []
  | c :: cs =>
    if c = a then
      match _hrest : dropHead? p cs with
      | some rest => w ++ replaceAll a p w rest
      | none => c :: replaceAll a p w cs
    else c :: replaceAll a p w cs
termination_by cs => cs.length
decreasing_by
  · have := length_of_dropHead? _hrest
    simp only [List.length_cons]
    omega
  · simp
  · simp

/-- The pieces of the text between the occurrences of `c`, empty ones included. -/
def splitAt (c : Char) : List Char → List (List Char)
  | [] => [[]]
  | x :: cs =>
    if x = c then [] :: splitAt c cs
    else
      match splitAt c cs with
      | [] => [[x]]
      | piece :: pieces => (x :: piece) :: pieces

@[simp] theorem replaceAll_nil (a : Char) (p w : List Char) : replaceAll a p w [] = [] := by
  simp [replaceAll]

theorem replaceAll_cons_ne {a c : Char} (p w cs : List Char) (h : c ≠ a) :
    replaceAll a p w (c :: cs) = c :: replaceAll a p w cs := by
  rw [replaceAll, if_neg h]

theorem replaceAll_append (a : Char) (p w rest : List Char) :
    replaceAll a p w (a :: (p ++ rest)) = w ++ replaceAll a p w rest := by
  have h : dropHead? p (p ++ rest) = some rest := dropHead?_eq_some_iff.mpr rfl
  rw [replaceAll, if_pos rfl]
  split
  · rename_i r hr
    rw [h] at hr
    cases hr
    rfl
  · rename_i hr
    rw [h] at hr
    cases hr

theorem replaceAll_cons_of_none {a : Char} {p cs : List Char} (w : List Char)
    (h : dropHead? p cs = none) :
    replaceAll a p w (a :: cs) = a :: replaceAll a p w cs := by
  rw [replaceAll, if_pos rfl]
  split
  · rename_i r hr
    rw [h] at hr
    cases hr
  · rfl

/-- A text without the first character of what is searched for is passed over. -/
theorem replaceAll_append_of_notMem {a : Char} {cs : List Char} (p w rest : List Char)
    (h : a ∉ cs) : replaceAll a p w (cs ++ rest) = cs ++ replaceAll a p w rest := by
  induction cs with
  | nil => rfl
  | cons c cs ih =>
    rw [List.mem_cons, not_or] at h
    rw [List.cons_append, replaceAll_cons_ne p w _ (Ne.symm h.1), ih h.2, List.cons_append]

theorem splitAt_of_notMem {c : Char} {cs : List Char} (h : c ∉ cs) : splitAt c cs = [cs] := by
  induction cs with
  | nil => rfl
  | cons x cs ih =>
    rw [List.mem_cons, not_or] at h
    rw [splitAt, if_neg (Ne.symm h.1), ih h.2]

theorem splitAt_append {c : Char} {cs : List Char} (rest : List Char) (h : c ∉ cs) :
    splitAt c (cs ++ c :: rest) = cs :: splitAt c rest := by
  induction cs with
  | nil => rw [List.nil_append, splitAt, if_pos rfl]
  | cons x cs ih =>
    rw [List.mem_cons, not_or] at h
    rw [List.cons_append, splitAt, if_neg (Ne.symm h.1), ih h.2]

end Nurture.Text
