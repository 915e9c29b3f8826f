import Mathlib.Data.List.Basic

/-! An `asyncio.Lock`, as its acquire, release and wake-up change it. -/

namespace Asyncio

/-- Who holds the lock, and who waits for it, first come first. -/
structure Lock where
  holder : Option Nat := none
  waiters : List Nat := []
deriving DecidableEq, Repr

namespace Lock

def locked (lock : Lock) : Bool := lock.holder.isSome

/-- A free lock is taken at once if nobody waits for it; any other is waited for. -/
def acquire (lock : Lock) (caller : Nat) : Lock :=
  if lock.holder.isNone && lock.waiters.isEmpty then { lock with holder := some caller }
  else { lock with waiters := lock.waiters ++ [caller] }

/-- The lock is free from here on, also until the first waiter runs. -/
def release (lock : Lock) : Lock := { lock with holder := none }

/-- The first waiter of a free lock takes it. -/
def wake (lock : Lock) (caller : Nat) : Option Lock :=
  match lock.holder, lock.waiters with
  | none, first :: rest => if first = caller then some ⟨some caller, rest⟩ else none
  | _, _ => none

/-- A waiter that is cancelled is gone from the queue. -/
def cancel (lock : Lock) (caller : Nat) : Lock :=
  { lock with waiters := lock.waiters.filter (fun other => other != caller) }

/-- Nobody holds the lock or waits for it. -/
def Idle (lock : Lock) : Prop := lock.holder = none ∧ lock.waiters = []

theorem wake_some {lock after : Lock} {caller : Nat} (h : lock.wake caller = some after) :
    ∃ rest, lock = ⟨none, caller :: rest⟩ ∧ after = ⟨some caller, rest⟩ := by
  obtain ⟨holder, waiters⟩ := lock
  cases holder with
  | some other => cases h
  | none =>
    cases waiters with
    | nil => cases h
    | cons first rest =>
      simp only [wake] at h
      split at h
      · rename_i he
        subst he
        cases h
        exact ⟨rest, rfl, rfl⟩
      · cases h

/-- Whoever asks for the lock holds it or waits for it. -/
theorem acquire_cases (lock : Lock) (caller : Nat) :
    lock.Idle ∧ lock.acquire caller = ⟨some caller, []⟩ ∨
      lock.acquire caller = ⟨lock.holder, lock.waiters ++ [caller]⟩ := by
  obtain ⟨holder, waiters⟩ := lock
  unfold acquire
  split
  · rename_i hfree
    simp only [Bool.and_eq_true, Option.isNone_iff_eq_none, List.isEmpty_iff] at hfree
    obtain ⟨rfl, rfl⟩ := hfree
    exact .inl ⟨⟨rfl, rfl⟩, rfl⟩
  · exact .inr rfl

/-! Who holds the lock or waits for it is not disturbed by another who asks for it. -/

theorem acquire_waiters {lock : Lock} {caller other : Nat} (h : other ∈ lock.waiters) :
    other ∈ (lock.acquire caller).waiters := by
  rcases lock.acquire_cases caller with ⟨hidle, _⟩ | hqueued
  · rw [hidle.2] at h
    cases h
  · rw [hqueued]
    exact List.mem_append_left _ h

theorem acquire_holder {lock : Lock} {caller other : Nat} (h : lock.holder = some other) :
    (lock.acquire caller).holder = some other := by
  rcases lock.acquire_cases caller with ⟨hidle, _⟩ | hqueued
  · rw [hidle.1] at h
    cases h
  · rw [hqueued]
    exact h

theorem acquire_waits {lock : Lock} {caller : Nat} (h : (lock.acquire caller).holder ≠ some caller) :
    caller ∈ (lock.acquire caller).waiters := by
  rcases lock.acquire_cases caller with ⟨_, htaken⟩ | hqueued
  · rw [htaken] at h
    exact absurd rfl h
  · rw [hqueued]
    exact List.mem_append_right _ List.mem_cons_self

end Lock

end Asyncio
