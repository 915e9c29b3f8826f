import Mathlib.Data.List.Nodup

/-! Rows that a key tells apart, and what is found by it in whatever order they stand. -/

namespace Python
variable {α κ : Type} {key : α → κ} {rows others : List α} {row : α}

section Find
variable [DecidableEq κ] {wanted : κ}

theorem found_iff_named (h : (rows.map key).Nodup) :
    rows.find? (fun row => key row == wanted) = some row ↔ row ∈ rows ∧ key row = wanted := by
  induction rows with
  | nil => simp
  | cons first rows ih =>
    obtain ⟨hfirst, hrest⟩ := List.nodup_cons.mp h
    rw [List.find?_cons]
    by_cases hk : key first = wanted
    · -- the other rows have other keys
      have hothers : ∀ row ∈ rows, key row ≠ wanted := by
        intro row hm he
        apply hfirst
        rw [hk, ← he]
        exact List.mem_map_of_mem hm
      rw [beq_iff_eq.mpr hk]
      constructor
      · intro he
        cases he
        exact ⟨List.mem_cons_self, hk⟩
      · intro hboth
        obtain ⟨hm, he⟩ := hboth
        rcases List.mem_cons.mp hm with rfl | hm
        · rfl
        · exact absurd he (hothers row hm)
    · rw [beq_false_of_ne hk, ih hrest]
      constructor
      · intro hboth
        obtain ⟨hm, he⟩ := hboth
        exact ⟨List.mem_cons_of_mem _ hm, he⟩
      · intro hboth
        obtain ⟨hm, he⟩ := hboth
        rcases List.mem_cons.mp hm with rfl | hm
        · exact absurd he hk
        · exact ⟨hm, he⟩

theorem found_perm (hperm : others.Perm rows) (h : (rows.map key).Nodup) :
    others.find? (fun row => key row == wanted) = rows.find? (fun row => key row == wanted) := by
  have hothers : (others.map key).Nodup := (hperm.map key).nodup_iff.mpr h
  apply Option.ext
  intro row
  rw [found_iff_named h, found_iff_named hothers, hperm.mem_iff]

end Find

theorem ne_of_keys {second : α} (h : ((row :: second :: rows).map key).Nodup) : row ≠ second := by
  rintro rfl
  obtain ⟨hfirst, _⟩ := List.nodup_cons.mp h
  exact hfirst List.mem_cons_self

end Python
