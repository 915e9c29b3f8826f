import BlocksGenesis.Asyncio.Lock
import Mathlib.Logic.Function.Basic

/-! Callers at any number of locks: who stands at which of them, and that the locks agree. -/

namespace Asyncio
open Function

inductive Stance where
  | waits
  | holds
deriving DecidableEq, Repr

/-- The queue of a lock is those who wait at it, each once, and its holder is who holds it. -/
structure Standing {κ : Type} (locks : κ → Lock) (stance : Nat → Option (κ × Stance)) : Prop where
  nodup : ∀ key, (locks key).waiters.Nodup
  waits : ∀ key i, i ∈ (locks key).waiters ↔ stance i = some (key, .waits)
  holds : ∀ key i, (locks key).holder = some i ↔ stance i = some (key, .holds)

section Standing
variable {κ : Type} {locks : κ → Lock} {stance : Nat → Option (κ × Stance)} {key : κ} {i j : Nat}

/-- No two callers hold one lock. -/
theorem Standing.exclusive (h : Standing locks stance) (hi : stance i = some (key, .holds))
    (hj : stance j = some (key, .holds)) : i = j := by
  have hholder := ((h.holds key i).mpr hi).symm.trans ((h.holds key j).mpr hj)
  exact Option.some.inj hholder

/-- Who stands nowhere is at no lock. -/
theorem Standing.absent (h : Standing locks stance) (hi : stance i = none) (key : κ) :
    (locks key).holder ≠ some i ∧ i ∉ (locks key).waiters := by
  constructor
  · intro hholder
    rw [(h.holds key i).mp hholder] at hi
    cases hi
  · intro hm
    rw [(h.waits key i).mp hm] at hi
    cases hi

theorem standing_idle : Standing (fun _ : κ => {}) (fun _ => none) where
  nodup _ := List.nodup_nil
  waits _ _ := ⟨nofun, nofun⟩
  holds _ _ := ⟨nofun, nofun⟩

/-- While somebody stands at a lock, it is held or its first waiter can take it. -/
theorem Standing.moves {stands : Stance} (h : Standing locks stance) (hi : stance i = some (key, stands)) :
    ∃ j, stance j = some (key, .holds) ∨
      stance j = some (key, .waits) ∧ ∃ lock, (locks key).wake j = some lock := by
  cases hholder : (locks key).holder with
  | some j => exact ⟨j, .inl ((h.holds key j).mp hholder)⟩
  | none =>
    cases stands with
    | holds =>
      rw [(h.holds key i).mpr hi] at hholder
      cases hholder
    | waits =>
      have hm := (h.waits key i).mpr hi
      cases hwaiters : (locks key).waiters with
      | nil =>
        rw [hwaiters] at hm
        cases hm
      | cons first rest =>
        have hfirst : first ∈ (locks key).waiters := by
          rw [hwaiters]
          exact List.mem_cons_self
        refine ⟨first, .inr ⟨(h.waits key first).mp hfirst, ⟨some first, rest⟩, ?_⟩⟩
        unfold Lock.wake
        rw [hholder, hwaiters]
        exact if_pos rfl

/-! ## One caller moves -/

variable [DecidableEq κ]

/-- One lock changes for one caller, who was and is at no other. -/
theorem Standing.change {lock : Lock} {now : Option (κ × Stance)} (h : Standing locks stance)
    (hwas : ∀ other stands, stance i = some (other, stands) → other = key)
    (hnow : ∀ other stands, now = some (other, stands) → other = key) (hnodup : lock.waiters.Nodup)
    (hself : (i ∈ lock.waiters ↔ now = some (key, .waits)) ∧ (lock.holder = some i ↔ now = some (key, .holds)))
    (hothers : ∀ j, j ≠ i → (j ∈ lock.waiters ↔ j ∈ (locks key).waiters) ∧
      (lock.holder = some j ↔ (locks key).holder = some j)) :
    Standing (update locks key lock) (update stance i now) := by
  have helse : ∀ {other}, other ≠ key → ∀ stands, stance i ≠ some (other, stands) ∧ now ≠ some (other, stands) := by
    intro other hother stands
    exact ⟨fun he => hother (hwas other stands he), fun he => hother (hnow other stands he)⟩
  constructor
  · intro other
    by_cases hother : other = key
    · rw [hother, update_self]
      exact hnodup
    · rw [update_of_ne hother]
      exact h.nodup other
  · intro other j
    by_cases hj : j = i
    · rw [hj, update_self]
      by_cases hother : other = key
      · rw [hother, update_self]
        exact hself.1
      · rw [update_of_ne hother, h.waits]
        exact iff_of_false (helse hother _).1 (helse hother _).2
    · rw [update_of_ne hj, ← h.waits]
      by_cases hother : other = key
      · rw [hother, update_self]
        exact (hothers j hj).1
      · rw [update_of_ne hother]
  · intro other j
    by_cases hj : j = i
    · rw [hj, update_self]
      by_cases hother : other = key
      · rw [hother, update_self]
        exact hself.2
      · rw [update_of_ne hother, h.holds]
        exact iff_of_false (helse hother _).1 (helse hother _).2
    · rw [update_of_ne hj, ← h.holds]
      by_cases hother : other = key
      · rw [hother, update_self]
        exact (hothers j hj).2
      · rw [update_of_ne hother]

/-- Who asks for an idle lock holds it. -/
theorem Standing.take (h : Standing locks stance) (hi : stance i = none) (hidle : (locks key).Idle) :
    Standing (update locks key ⟨some i, []⟩) (update stance i (some (key, .holds))) := by
  apply h.change
  · intro other stands he
    rw [hi] at he
    cases he
  · rintro other stands ⟨⟩
    rfl
  · exact List.nodup_nil
  · exact ⟨⟨nofun, nofun⟩, ⟨fun _ => rfl, fun _ => rfl⟩⟩
  · intro j hj
    rw [hidle.1, hidle.2]
    exact ⟨Iff.rfl, ⟨fun he => absurd (Option.some.inj he).symm hj, nofun⟩⟩

/-- Who asks for any other lock is the last in its queue. -/
theorem Standing.queue (h : Standing locks stance) (hi : stance i = none) :
    Standing (update locks key ⟨(locks key).holder, (locks key).waiters ++ [i]⟩)
      (update stance i (some (key, .waits))) := by
  have habsent := h.absent hi key
  apply h.change
  · intro other stands he
    rw [hi] at he
    cases he
  · rintro other stands ⟨⟩
    rfl
  · refine List.nodup_append.mpr ⟨h.nodup key, List.nodup_cons.mpr ⟨List.not_mem_nil, List.nodup_nil⟩, ?_⟩
    intro a ha b hb
    rw [List.mem_singleton.mp hb]
    rintro rfl
    exact habsent.2 ha
  · exact ⟨⟨fun _ => rfl, fun _ => List.mem_append_right _ List.mem_cons_self⟩,
      ⟨fun he => absurd he habsent.1, nofun⟩⟩
  · intro j hj
    refine ⟨?_, Iff.rfl⟩
    rw [List.mem_append, List.mem_singleton]
    exact or_iff_left hj

/-- Whoever asks for a lock holds it or waits at it. -/
theorem Standing.acquire (h : Standing locks stance) (hi : stance i = none) (key : κ) :
    Standing (update locks key ((locks key).acquire i)) (update stance i
      (some (key, if ((locks key).acquire i).holder = some i then .holds else .waits))) := by
  rcases (locks key).acquire_cases i with ⟨hidle, htaken⟩ | hqueued
  · rw [htaken, if_pos rfl]
    exact h.take hi hidle
  · rw [hqueued, if_neg (h.absent hi key).1]
    exact h.queue hi

theorem Standing.wake {lock : Lock} (h : Standing locks stance) (hwake : (locks key).wake i = some lock) :
    Standing (update locks key lock) (update stance i (some (key, .holds))) := by
  obtain ⟨rest, hlock, rfl⟩ := Lock.wake_some hwake
  have hwaits : stance i = some (key, .waits) := by
    rw [← h.waits, hlock]
    exact List.mem_cons_self
  have hnodup := h.nodup key
  rw [hlock] at hnodup
  obtain ⟨hnotin, hrest⟩ := List.nodup_cons.mp hnodup
  apply h.change
  · intro other stands he
    rw [hwaits] at he
    cases he
    rfl
  · rintro other stands ⟨⟩
    rfl
  · exact hrest
  · exact ⟨⟨fun hm => absurd hm hnotin, nofun⟩, ⟨fun _ => rfl, fun _ => rfl⟩⟩
  · intro j hj
    rw [hlock]
    refine ⟨?_, ⟨fun he => absurd (Option.some.inj he).symm hj, nofun⟩⟩
    rw [List.mem_cons]
    exact (or_iff_right hj).symm

theorem Standing.release (h : Standing locks stance) (hi : stance i = some (key, .holds)) :
    Standing (update locks key (locks key).release) (update stance i none) := by
  have hholder := (h.holds key i).mpr hi
  apply h.change
  · intro other stands he
    rw [hi] at he
    cases he
    rfl
  · exact nofun
  · exact h.nodup key
  · refine ⟨⟨fun hm => ?_, nofun⟩, ⟨nofun, nofun⟩⟩
    rw [Lock.release, h.waits, hi] at hm
    cases hm
  · intro j hj
    refine ⟨Iff.rfl, ⟨nofun, fun he => ?_⟩⟩
    rw [hholder] at he
    exact absurd (Option.some.inj he).symm hj

theorem Standing.cancel (h : Standing locks stance) (hi : stance i = some (key, .waits)) :
    Standing (update locks key ((locks key).cancel i)) (update stance i none) := by
  apply h.change
  · intro other stands he
    rw [hi] at he
    cases he
    rfl
  · exact nofun
  · exact (h.nodup key).filter _
  · refine ⟨⟨fun hm => ?_, nofun⟩, ⟨fun he => ?_, nofun⟩⟩
    · have hne := (List.mem_filter.mp hm).2
      simp at hne
    · have hholds := (h.holds key i).mp he
      rw [hi] at hholds
      cases hholds
  · intro j hj
    refine ⟨?_, Iff.rfl⟩
    rw [Lock.cancel, List.mem_filter]
    exact and_iff_left (bne_iff_ne.mpr hj)

end Standing

end Asyncio
