import Mathlib.Data.List.Basic

/-! A dictionary as the list of its entries, in insertion order. -/

namespace Python
variable {κ α : Type} [DecidableEq κ]

abbrev Dict (κ α : Type) := List (κ × α)

/-- `d[key] = value`: an entry that is there keeps its place. -/
def Dict.set (d : Dict κ α) (key : κ) (value : α) : Dict κ α :=
  if d.any (fun entry => entry.1 = key) then d.map (fun entry => if entry.1 = key then (key, value) else entry)
  else d ++ [(key, value)]

def Dict.pop (d : Dict κ α) (key : κ) : Dict κ α := d.filter (fun entry => entry.1 ≠ key)

theorem Dict.mem_set {d : Dict κ α} {key : κ} {value : α} {entry : κ × α} (h : entry ∈ d.set key value) :
    entry = (key, value) ∨ entry ∈ d ∧ entry.1 ≠ key := by
  unfold Dict.set at h
  split at h
  · obtain ⟨found, hfound, he⟩ := List.mem_map.mp h
    by_cases hk : found.1 = key
    · rw [if_pos hk] at he
      exact .inl he.symm
    · rw [if_neg hk] at he
      subst he
      exact .inr ⟨hfound, hk⟩
  · rename_i hnone
    rcases List.mem_append.mp h with hm | hm
    · refine .inr ⟨hm, ?_⟩
      intro hk
      apply hnone
      exact List.any_eq_true.mpr ⟨entry, hm, by simpa using hk⟩
    · exact .inl (List.mem_singleton.mp hm)

theorem Dict.mem_set_iff {d : Dict κ α} {key : κ} {value : α} {entry : κ × α} :
    entry ∈ d.set key value ↔ entry = (key, value) ∨ entry ∈ d ∧ entry.1 ≠ key := by
  refine ⟨Dict.mem_set, ?_⟩
  unfold Dict.set
  rintro (rfl | ⟨hm, hk⟩)
  · split
    · rename_i hany
      obtain ⟨found, hfound, hk⟩ := List.any_eq_true.mp hany
      exact List.mem_map.mpr ⟨found, hfound, if_pos (of_decide_eq_true hk)⟩
    · exact List.mem_append_right _ List.mem_cons_self
  · split
    · exact List.mem_map.mpr ⟨entry, hm, if_neg hk⟩
    · exact List.mem_append_left _ hm

theorem Dict.mem_pop {d : Dict κ α} {key : κ} {entry : κ × α} :
    entry ∈ d.pop key ↔ entry ∈ d ∧ entry.1 ≠ key := by
  simp [Dict.pop]

/-- The keys of a dictionary are those it had, and the one that is written. -/
theorem Dict.keys_set (d : Dict κ α) (key : κ) (value : α) : (d.set key value).map Prod.fst =
    if key ∈ d.map Prod.fst then d.map Prod.fst else d.map Prod.fst ++ [key] := by
  have hany : (d.any fun entry => decide (entry.1 = key)) = true ↔ key ∈ d.map Prod.fst := by
    simp [List.any_eq_true]
  unfold Dict.set
  by_cases hk : key ∈ d.map Prod.fst
  · rw [if_pos (hany.mpr hk), if_pos hk, List.map_map]
    apply List.map_congr_left
    intro entry _
    by_cases he : entry.1 = key
    · simp [he]
    · simp [he]
  · rw [if_neg (mt hany.mp hk), if_neg hk, List.map_append, List.map_singleton]

theorem Dict.keys_pop (d : Dict κ α) (key : κ) :
    (d.pop key).map Prod.fst = (d.map Prod.fst).filter (fun other => other ≠ key) := by
  rw [List.filter_map]
  rfl

theorem Dict.nodup_set {d : Dict κ α} (h : (d.map Prod.fst).Nodup) (key : κ) (value : α) :
    ((d.set key value).map Prod.fst).Nodup := by
  rw [Dict.keys_set]
  split
  · exact h
  · rename_i hk
    exact List.nodup_append.mpr ⟨h, List.pairwise_singleton _ key, fun a ha b hb he =>
      hk (List.mem_singleton.mp hb ▸ he ▸ ha)⟩

theorem Dict.nodup_pop {d : Dict κ α} (h : (d.map Prod.fst).Nodup) (key : κ) :
    ((d.pop key).map Prod.fst).Nodup := by
  rw [Dict.keys_pop]
  exact h.filter _

/-- Entries written one after the other, where each key is there once. -/
theorem Dict.mem_foldl_set {entries : List (κ × α)} (hkeys : (entries.map Prod.fst).Nodup) {d : Dict κ α}
    {entry : κ × α} : entry ∈ entries.foldl (fun d entry => d.set entry.1 entry.2) d ↔
      entry ∈ entries ∨ entry ∈ d ∧ entry.1 ∉ entries.map Prod.fst := by
  induction entries generalizing d with
  | nil => simp
  | cons first rest ih =>
    obtain ⟨hnew, hrest⟩ := List.nodup_cons.mp hkeys
    rw [List.foldl_cons, ih hrest, Dict.mem_set_iff, List.map_cons, List.mem_cons, List.mem_cons]
    constructor
    · rintro (hm | ⟨rfl | ⟨hm, hne⟩, hk⟩)
      · exact .inl (.inr hm)
      · exact .inl (.inl rfl)
      · exact .inr ⟨hm, not_or.mpr ⟨hne, hk⟩⟩
    · rintro ((rfl | hm) | ⟨hm, hk⟩)
      · exact .inr ⟨.inl rfl, hnew⟩
      · exact .inl hm
      · exact .inr ⟨.inr ⟨hm, (not_or.mp hk).1⟩, (not_or.mp hk).2⟩

theorem Dict.nodup_foldl_set {d : Dict κ α} (h : (d.map Prod.fst).Nodup) (entries : List (κ × α)) :
    ((entries.foldl (fun d entry => d.set entry.1 entry.2) d).map Prod.fst).Nodup := by
  induction entries generalizing d with
  | nil => exact h
  | cons entry rest ih => exact ih (Dict.nodup_set h entry.1 entry.2)

theorem Dict.pop_pop {d : Dict κ α} {key : κ} : (d.pop key).pop key = d.pop key := by
  simp [Dict.pop]

/-- An entry that is written does not matter to the others. -/
theorem Dict.pop_set {d : Dict κ α} {key : κ} {value : α} : (d.set key value).pop key = d.pop key := by
  unfold Dict.set
  split
  · rename_i hany
    clear hany
    induction d with
    | nil => rfl
    | cons entry d ih =>
      unfold Dict.pop at ih ⊢
      by_cases hk : entry.1 = key
      · rw [List.map_cons, if_pos hk, List.filter_cons_of_neg (by simp), List.filter_cons_of_neg (by simp [hk]), ih]
      · rw [List.map_cons, if_neg hk, List.filter_cons_of_pos (by simp [hk]), List.filter_cons_of_pos (by simp [hk]), ih]
  · simp [Dict.pop]

section Lookup
variable [BEq κ] [LawfulBEq κ] {d : Dict κ α} {key other : κ} {value : α}

omit [DecidableEq κ] in
theorem Dict.mem_of_lookup (h : d.lookup key = some value) : (key, value) ∈ d := by
  obtain ⟨before, after, he, _⟩ := List.lookup_eq_some_iff.mp h
  rw [he]
  simp

omit [DecidableEq κ] in
theorem Dict.lookup_of_mem (hkeys : (d.map Prod.fst).Nodup) (h : (key, value) ∈ d) : d.lookup key = some value := by
  induction d with
  | nil => cases h
  | cons entry d ih =>
    obtain ⟨hnew, hrest⟩ := List.nodup_cons.mp hkeys
    rw [List.lookup_cons]
    rcases List.mem_cons.mp h with rfl | hm
    · rw [beq_self_eq_true]
    · have hne : key ≠ entry.1 := by
        rintro rfl
        exact hnew (List.mem_map.mpr ⟨_, hm, rfl⟩)
      rw [beq_false_of_ne hne]
      exact ih hrest hm

omit [DecidableEq κ] in
theorem Dict.lookup_cons_of_ne (entry : κ × α) (hne : key ≠ entry.1) :
    List.lookup key (entry :: d) = d.lookup key := by
  rw [List.lookup_cons, beq_false_of_ne hne]

theorem Dict.lookup_set_self : (d.set key value).lookup key = some value := by
  unfold Dict.set
  split
  · rename_i hany
    induction d with
    | nil => cases hany
    | cons entry d ih =>
      rw [List.map_cons]
      by_cases hk : entry.1 = key
      · rw [if_pos hk]
        exact List.lookup_cons_self
      · rw [if_neg hk, Dict.lookup_cons_of_ne _ (Ne.symm hk)]
        apply ih
        simpa [List.any_cons, hk] using hany
  · rename_i hnone
    rw [List.lookup_append]
    have hk : d.lookup key = none := by
      apply List.lookup_eq_none_iff.mpr
      intro entry hm
      apply bne_iff_ne.mpr
      intro he
      exact hnone (List.any_eq_true.mpr ⟨entry, hm, decide_eq_true he.symm⟩)
    rw [hk, List.lookup_cons_self]
    rfl

theorem Dict.lookup_set_of_ne (hne : other ≠ key) : (d.set key value).lookup other = d.lookup other := by
  unfold Dict.set
  split
  · rename_i hany
    clear hany
    induction d with
    | nil => rfl
    | cons entry d ih =>
      rw [List.map_cons]
      by_cases hk : entry.1 = key
      · rw [if_pos hk, Dict.lookup_cons_of_ne _ hne, ih, Dict.lookup_cons_of_ne _ (hk ▸ hne)]
      · rw [if_neg hk, List.lookup_cons, List.lookup_cons, ih]
  · rw [List.lookup_append, Dict.lookup_cons_of_ne _ hne]
    simp

theorem Dict.lookup_of_set {found : α} (h : (d.set key value).lookup other = some found) :
    other = key ∧ found = value ∨ other ≠ key ∧ d.lookup other = some found := by
  by_cases hk : other = key
  · subst hk
    rw [Dict.lookup_set_self] at h
    exact .inl ⟨rfl, (Option.some.inj h).symm⟩
  · rw [Dict.lookup_set_of_ne hk] at h
    exact .inr ⟨hk, h⟩

/-- A new key leaves the others what they were. -/
theorem Dict.lookup_set_of_new {found : α} (hnew : d.lookup key = none) (h : d.lookup other = some found) :
    (d.set key value).lookup other = some found := by
  have hne : other ≠ key := by
    rintro rfl
    exact nomatch hnew.symm.trans h
  rw [Dict.lookup_set_of_ne hne, h]

theorem Dict.lookup_pop (h : (d.pop key).lookup other = some value) :
    other ≠ key ∧ d.lookup other = some value := by
  refine ⟨(Dict.mem_pop.mp (Dict.mem_of_lookup h)).2, ?_⟩
  unfold Dict.pop at h
  induction d with
  | nil => cases h
  | cons entry d ih =>
    rw [List.filter_cons] at h
    by_cases hk : entry.1 = key
    · rw [if_neg (by simp [hk])] at h
      have hne : other ≠ entry.1 := hk ▸ (Dict.mem_pop.mp (Dict.mem_of_lookup h)).2
      rw [Dict.lookup_cons_of_ne _ hne]
      exact ih h
    · rw [if_pos (by simp [hk]), List.lookup_cons] at h
      rw [List.lookup_cons]
      cases hb : other == entry.1 with
      | true => simpa [hb] using h
      | false => exact ih (by simpa [hb] using h)

theorem Dict.lookup_pop_self : (d.pop key).lookup key = none := by
  cases h : (d.pop key).lookup key with
  | none => rfl
  | some value => exact absurd rfl (Dict.lookup_pop h).1

theorem Dict.lookup_pop_of_ne (hne : other ≠ key) : (d.pop key).lookup other = d.lookup other := by
  unfold Dict.pop
  induction d with
  | nil => rfl
  | cons entry d ih =>
    by_cases hk : entry.1 = key
    · rw [List.filter_cons_of_neg (by simp [hk]), Dict.lookup_cons_of_ne _ (hk ▸ hne), ih]
    · rw [List.filter_cons_of_pos (by simp [hk]), List.lookup_cons, List.lookup_cons, ih]

omit [DecidableEq κ] in
/-- A filter by the key alone. -/
theorem lookup_filter_keys (keep : κ → Bool) (d : Dict κ α) (key : κ) :
    (d.filter (fun entry => keep entry.1)).lookup key = if keep key then d.lookup key else none := by
  induction d with
  | nil => simp
  | cons entry d ih =>
    obtain ⟨name, value⟩ := entry
    by_cases hk : key = name
    · subst hk
      cases hp : keep key <;> simp [hp, ih]
    · have hne : (key == name) = false := by simpa using hk
      cases hp : keep name <;> simp [hp, ih, List.lookup_cons, hne]

/-- `d.setdefault(key, value)`, for what it leaves in the dictionary. -/
def Dict.setdefault (d : Dict κ α) (key : κ) (value : α) : Dict κ α :=
  if (d.lookup key).isSome then d else d.set key value

theorem Dict.lookup_setdefault :
    (d.setdefault key value).lookup other = (d.lookup other).or ([(key, value)].lookup other) := by
  unfold Dict.setdefault
  by_cases hk : other = key
  · subst hk
    rw [List.lookup_cons_self]
    cases hl : d.lookup other with
    | none => exact Dict.lookup_set_self
    | some found => exact hl
  · rw [Dict.lookup_cons_of_ne _ hk, List.lookup_nil, Option.or_none]
    split
    · rfl
    · exact Dict.lookup_set_of_ne hk

/-- Of many entries for a key the first is kept. -/
theorem Dict.lookup_foldl_setdefault (entries : List (κ × α)) (d : Dict κ α) :
    (entries.foldl (fun d entry => d.setdefault entry.1 entry.2) d).lookup key =
      (d.lookup key).or (entries.lookup key) := by
  induction entries generalizing d with
  | nil => exact Option.or_none.symm
  | cons entry entries ih =>
    rw [List.foldl_cons, ih, Dict.lookup_setdefault, Option.or_assoc, ← List.lookup_append, List.singleton_append]

end Lookup

end Python
