import Mathlib.Algebra.GroupWithZero.Nat
import Mathlib.Data.List.Basic
import Mathlib.Logic.Function.Basic

/-! What is in one place of a list after another place was written, or a place added. -/

namespace Machine
variable {α : Type} {l : List α} {i j : Nat} {old new x : α}

theorem slot_of_set (h : (l.set i new)[j]? = some x) :
    j = i ∧ x = new ∨ j ≠ i ∧ l[j]? = some x := by
  by_cases hj : i = j
  · subst hj
    by_cases hi : i < l.length
    · rw [List.getElem?_set_self hi] at h
      exact .inl ⟨rfl, (Option.some.inj h).symm⟩
    · rw [List.set_eq_of_length_le (Nat.le_of_not_lt hi)] at h
      obtain ⟨hlt, _⟩ := List.getElem?_eq_some_iff.mp h
      exact absurd hlt hi
  · rw [List.getElem?_set_ne hj] at h
    exact .inr ⟨fun he => hj he.symm, h⟩

theorem slot_set_self (h : l[i]? = some old) : (l.set i new)[i]? = some new := by
  obtain ⟨hi, _⟩ := List.getElem?_eq_some_iff.mp h
  exact List.getElem?_set_self hi

theorem slot_of_append (h : (l ++ [new])[j]? = some x) :
    j = l.length ∧ x = new ∨ j < l.length ∧ l[j]? = some x := by
  rcases Nat.lt_or_ge j l.length with hlt | hge
  · rw [List.getElem?_append_left hlt] at h
    exact .inr ⟨hlt, h⟩
  · rw [List.getElem?_append_right hge] at h
    obtain ⟨hlt, hx⟩ := List.getElem?_eq_some_iff.mp h
    have hj : j = l.length := by
      simp only [List.length_singleton] at hlt
      omega
    subst hj
    simp at hx
    exact .inl ⟨rfl, hx.symm⟩

theorem slot_append_ne (hj : j ≠ l.length) : (l ++ [new])[j]? = l[j]? := by
  rcases Nat.lt_or_gt_of_ne hj with hlt | hgt
  · rw [List.getElem?_append_left hlt]
  · rw [List.getElem?_eq_none (Nat.le_of_lt hgt), List.getElem?_eq_none]
    rw [List.length_append]
    exact hgt

theorem slot_append_left (h : l[j]? = some x) : (l ++ [new])[j]? = some x := by
  obtain ⟨hlt, _⟩ := List.getElem?_eq_some_iff.mp h
  rw [List.getElem?_append_left hlt, h]

/-- What one place shows is still shown when another is written, or this one with the same to show. -/
theorem mem_shown_set {β : Type} {f : α → Option β} {b : β} (h : l[i]? = some old)
    (hsame : f old = some b → f new = some b) (hm : b ∈ l.filterMap f) : b ∈ (l.set i new).filterMap f := by
  obtain ⟨x, hx, hshown⟩ := List.mem_filterMap.mp hm
  obtain ⟨j, hj⟩ := List.mem_iff_getElem?.mp hx
  by_cases he : i = j
  · subst he
    rw [h] at hj
    cases hj
    exact List.mem_filterMap.mpr ⟨new, List.mem_iff_getElem?.mpr ⟨i, slot_set_self h⟩, hsame hshown⟩
  · refine List.mem_filterMap.mpr ⟨x, List.mem_iff_getElem?.mpr ⟨j, ?_⟩, hshown⟩
    rw [List.getElem?_set_ne he, hj]

/-- What the places of a list hold, told apart into what one of them holds and the rest. -/
theorem flatMap_slot {β : Type} (f : α → List β) (h : l[i]? = some old) :
    ∃ rest, (l.flatMap f).Perm (f old ++ rest) ∧ ∀ new, ((l.set i new).flatMap f).Perm (f new ++ rest) := by
  induction l generalizing i with
  | nil => cases h
  | cons head l ih =>
    cases i with
    | zero =>
      cases h
      exact ⟨l.flatMap f, List.Perm.refl _, fun new => List.Perm.refl _⟩
    | succ i =>
      obtain ⟨rest, hold, hnew⟩ := ih h
      have hswap : ∀ {part : List β} {x : α}, part.Perm (f x ++ rest) →
          (f head ++ part).Perm (f x ++ (f head ++ rest)) := by
        intro part x hp
        exact (hp.append_left _).trans (List.perm_append_comm_assoc _ _ _)
      exact ⟨f head ++ rest, hswap hold, fun new => hswap (hnew new)⟩

/-! What each place shows, as a function of the place. -/

theorem shown_set {β : Type} (f : α → Option β) (h : l[i]? = some old) :
    (fun j => ((l.set i new)[j]?).bind f) = Function.update (fun j => (l[j]?).bind f) i (f new) := by
  funext j
  by_cases hj : j = i
  · rw [hj, Function.update_self, slot_set_self h]
    rfl
  · rw [Function.update_of_ne hj, List.getElem?_set_ne (Ne.symm hj)]

theorem shown_append {β : Type} (f : α → Option β) :
    (fun j => ((l ++ [new])[j]?).bind f) = Function.update (fun j => (l[j]?).bind f) l.length (f new) := by
  funext j
  by_cases hj : j = l.length
  · rw [hj, Function.update_self, List.getElem?_concat_length]
    rfl
  · rw [Function.update_of_ne hj, slot_append_ne hj]

/-- How many places there are of a kind, with one of them told apart. -/
theorem countP_slot (p : α → Bool) (h : l[i]? = some old) :
    (l.set i new).countP p + (if p old then 1 else 0) = l.countP p + if p new then 1 else 0 := by
  induction l generalizing i with
  | nil => cases h
  | cons head l ih =>
    cases i with
    | zero =>
      cases h
      simp only [List.set_cons_zero, List.countP_cons]
      omega
    | succ i =>
      have hrest := ih h
      simp only [List.set_cons_succ, List.countP_cons]
      omega

/-- A place that is worth less makes the whole list worth less. -/
theorem sum_slot_lt (f : α → Nat) (h : l[i]? = some old) (hlt : f new < f old) :
    ((l.set i new).map f).sum < (l.map f).sum := by
  induction l generalizing i with
  | nil => cases h
  | cons head l ih =>
    cases i with
    | zero =>
      cases h
      simpa using hlt
    | succ i =>
      have hrest := ih h
      simpa using hrest

end Machine
