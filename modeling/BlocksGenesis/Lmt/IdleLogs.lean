import BlocksGenesis.Lmt.LogExporter

/-! Waits of the log exporter's worker in which no document arrives, and what it still holds after them. -/

namespace BlocksGenesis.Lmt.LogExporter
open Python Machine

/-- How many documents fill a batch. A batch of one is already as large as any size below. -/
def fullBatch (batchSize : Int) : Nat := max 1 batchSize.toNat

/-- Until the flag is set only full batches are passed on, and what is held is less than one. The worker
that finds the flag set after a wait does not come back to its read. -/
def Grouped (batchSize : Int) (s : State) : Prop :=
  let whole := fullBatch batchSize ∣ s.passed.flatten.length
  match s.stage with
  | .testing => s.stopped = true ∨ whole ∧ s.batch.length < fullBatch batchSize
  | .reading => whole ∧ s.batch.length < fullBatch batchSize
  | .deciding => whole ∧ s.batch.length ≤ fullBatch batchSize
  | .writing => s.stopped = true ∨ whole ∧ s.batch.length = fullBatch batchSize
  | .finishing | .ended => True

section Steps
variable {batchSize : Int} {s s' : State} {event : Event}

theorem fullBatch_le_iff {batch : List LogDocument} (h : batch ≠ []) :
    fullBatch batchSize ≤ batch.length ↔ batchSize ≤ batch.length := by
  have hlength := List.length_pos_iff.mpr h
  unfold fullBatch
  omega

/-- The flag is set by others at any time, and once. -/
theorem Grouped.others (h : Grouped batchSize s) (hstage : s'.stage = s.stage) (hbatch : s'.batch = s.batch)
    (hpassed : s'.passed = s.passed) (hstopped : s.stopped = true → s'.stopped = true) : Grouped batchSize s' := by
  unfold Grouped at h ⊢
  rw [hstage, hbatch, hpassed]
  cases hat : s.stage with
  | testing | writing =>
    rw [hat] at h
    exact h.imp_left hstopped
  | reading | deciding =>
    rw [hat] at h
    exact h
  | finishing | ended => trivial

/-- What is not a step of the worker leaves it where it is, with what it holds. -/
theorem step_others (hevent : event ≠ .work) (h : step batchSize s event = some s') :
    s'.stage = s.stage ∧ s'.batch = s.batch ∧ s'.passed = s.passed ∧ (s.stopped = true → s'.stopped = true) := by
  cases event with
  | enqueue moment record =>
    cases h
    unfold enqueue
    split <;> exact ⟨rfl, rfl, rfl, id⟩
  | work => exact absurd rfl hevent
  | stop =>
    cases h
    exact ⟨rfl, rfl, rfl, id⟩
  | advance i =>
    obtain ⟨stop, _, h⟩ := Option.bind_eq_some_iff.mp h
    cases stop with
    | called before =>
      cases h
      exact ⟨rfl, rfl, rfl, fun _ => rfl⟩
    | joining before =>
      simp only [stopStep] at h
      split at h
      · cases h
        exact ⟨rfl, rfl, rfl, id⟩
      · cases h
    | returned before => cases h

theorem workerStep_grouped (hs : Grouped batchSize s) (h : workerStep batchSize s = some s') :
    Grouped batchSize s' := by
  unfold Grouped at hs
  cases workerStep_cases h with
  | leave | finish | flush => trivial
  | enter hstage hrunning =>
    rw [hstage] at hs
    exact hs.resolve_left (by rw [hrunning]; exact Bool.false_ne_true)
  | empty hstage =>
    rw [hstage] at hs
    obtain ⟨hwhole, hless⟩ := hs
    exact ⟨hwhole, Nat.le_of_lt hless⟩
  | read hstage =>
    rw [hstage] at hs
    obtain ⟨hwhole, hless⟩ := hs
    refine ⟨hwhole, ?_⟩
    rw [List.length_append, List.length_singleton]
    exact hless
  | full hstage hgiven hfull =>
    rw [hstage] at hs
    obtain ⟨hwhole, hmost⟩ := hs
    rcases hfull with hfull | hstopped
    · exact .inr ⟨hwhole, Nat.le_antisymm hmost ((fullBatch_le_iff hgiven).mpr hfull)⟩
    · exact .inl hstopped
  | short hstage hshort =>
    rw [hstage] at hs
    obtain ⟨hwhole, _⟩ := hs
    refine .inr ⟨hwhole, ?_⟩
    by_cases hgiven : s.batch = []
    · rw [hgiven]
      exact Nat.lt_of_lt_of_le Nat.zero_lt_one (Nat.le_max_left _ _)
    · exact Nat.lt_of_not_le (fun hfull => Int.not_le.mpr (hshort hgiven) ((fullBatch_le_iff hgiven).mp hfull))
  | write hstage =>
    rw [hstage] at hs
    refine hs.imp_right ?_
    rintro ⟨hwhole, hfull⟩
    have hpassed : (s.write .testing).passed.flatten.length = s.passed.flatten.length + fullBatch batchSize := by
      rw [← hfull, State.write, List.flatten_append, List.length_append, List.flatten_singleton]
    refine ⟨?_, Nat.lt_of_lt_of_le Nat.zero_lt_one (Nat.le_max_left _ _)⟩
    rw [hpassed]
    exact Nat.dvd_add hwhole (Nat.dvd_refl _)

theorem step_grouped (hs : Grouped batchSize s) (h : step batchSize s event = some s') : Grouped batchSize s' := by
  by_cases hevent : event = .work
  · subst hevent
    exact workerStep_grouped hs h
  · obtain ⟨hstage, hbatch, hpassed, hstopped⟩ := step_others hevent h
    exact hs.others hstage hbatch hpassed hstopped

end Steps

theorem grouped_start (batchSize : Int) : Grouped batchSize .start :=
  .inr ⟨Nat.dvd_zero _, Nat.lt_of_lt_of_le Nat.zero_lt_one (Nat.le_max_left _ _)⟩

/-! ## A wait in which no document arrives -/

/-- The worker waits, and there is nothing to read. -/
structure Waiting (s : State) : Prop where
  stage : s.stage = .reading
  queue : s.queue = []

section Waits
variable {batchSize : Int} {s₀ s₁ s₂ s : State} {before meanwhile after : List Event}

/-- All that the worker holds in a wait is what is beyond whole batches. -/
theorem held_waiting (h : Run (step batchSize) (fun _ _ => True) .start before s) (hwaiting : Waiting s) :
    s.batch.length = s.enqueued.length % fullBatch batchSize ∧ s.batch.length < fullBatch batchSize := by
  have hlengths := (h.invariant inv_start (fun hs _ => step_inv hs)).lengths
  have hgrouped : Grouped batchSize s := h.invariant (grouped_start batchSize) (fun hs _ => step_grouped hs)
  unfold Grouped at hgrouped
  rw [hwaiting.stage] at hgrouped
  obtain ⟨⟨full, hwhole⟩, hless⟩ := hgrouped
  rw [hwaiting.queue, List.length_nil] at hlengths
  have henqueued : s.enqueued.length = s.batch.length + fullBatch batchSize * full := by omega
  refine ⟨?_, hless⟩
  rw [henqueued, Nat.add_mul_mod_self_left, Nat.mod_eq_of_lt hless]

/-- Only others act. -/
def ByOthers (_ : State) (event : Event) : Prop := event ≠ .work

/-- The worker does not go past the test of its loop. -/
def UpToTest (s : State) (event : Event) : Prop := event = .work → s.stage ≠ .testing

/-- Without a step of the worker, it stays where it is with what it holds. -/
theorem held_by_others (h : Run (step batchSize) ByOthers s₁ meanwhile s₂) :
    s₂.stage = s₁.stage ∧ s₂.batch = s₁.batch := by
  refine @Run.invariant _ _ _ _ _ _ _ (fun s => s.stage = s₁.stage ∧ s.batch = s₁.batch) h ⟨rfl, rfl⟩ ?_
  intro s event s' hs hevent hstep
  obtain ⟨hstage, hbatch, _, _⟩ := step_others hevent hstep
  exact ⟨hstage.trans hs.1, hbatch.trans hs.2⟩

/-- A worker at its test waits there for the run to end; one at its insert comes there with nothing. -/
theorem held_up_to_test (h : Run (step batchSize) UpToTest s₁ after s) {held : List LogDocument}
    (hs : s₁.stage = .testing ∧ s₁.batch = held ∨ s₁.stage = .writing ∧ held = []) (htest : s.stage = .testing) :
    s.batch = held := by
  have hend : s.stage = .testing ∧ s.batch = held ∨ s.stage = .writing ∧ held = [] := by
    refine @Run.invariant _ _ _ _ _ _ _
      (fun s => s.stage = .testing ∧ s.batch = held ∨ s.stage = .writing ∧ held = []) h hs ?_
    intro s event s' hs hallowed hstep
    by_cases hevent : event = .work
    · subst hevent
      rcases hs with ⟨hstage, _⟩ | ⟨hstage, rfl⟩
      · exact absurd hstage (hallowed rfl)
      · simp only [step, workerStep, hstage] at hstep
        cases hstep
        exact .inl ⟨rfl, rfl⟩
    · obtain ⟨hstage, hbatch, _, _⟩ := step_others hevent hstep
      rw [hstage, hbatch]
      exact hs
  rcases hend with ⟨_, hbatch⟩ | ⟨hstage, _⟩
  · exact hbatch
  · cases hstage.symm.trans htest

/-- After a wait in which nothing arrived, back at the test of its loop, the worker holds nothing just when
all the documents so far made whole batches, or the flag was set as it looked. -/
theorem idle_flushed_iff (h₀ : Run (step batchSize) (fun _ _ => True) .start before s₀) (hwaiting : Waiting s₀)
    (hover : step batchSize s₀ .work = some s₁) (hlook : Run (step batchSize) ByOthers s₁ meanwhile s₂)
    (h : Run (step batchSize) UpToTest s₂ (.work :: after) s) (htest : s.stage = .testing) :
    s.batch = [] ↔ fullBatch batchSize ∣ s₀.enqueued.length ∨ s₂.stopped = true := by
  obtain ⟨hheld, hless⟩ := held_waiting h₀ hwaiting
  have hwhole : s₀.batch = [] ↔ fullBatch batchSize ∣ s₀.enqueued.length := by
    rw [Nat.dvd_iff_mod_eq_zero, ← hheld, List.length_eq_zero_iff]
  have hempty : s₁.stage = .deciding ∧ s₁.batch = s₀.batch := by
    simp only [step, workerStep, hwaiting.stage, hwaiting.queue] at hover
    cases hover
    exact ⟨rfl, rfl⟩
  obtain ⟨hstage, hbatch⟩ := held_by_others hlook
  rw [hempty.1] at hstage
  rw [hempty.2] at hbatch
  cases h with
  | @cons _ _ s₃ _ _ _ hdecided h =>
  rw [← hwhole]
  simp only [step, workerStep, hstage, hbatch] at hdecided
  by_cases hgiven : s₀.batch = []
  · simp only [hgiven, List.isEmpty_nil, Bool.not_true, Bool.false_and, Bool.false_eq_true, if_false] at hdecided
    cases hdecided
    have hnone := held_up_to_test h (.inl ⟨rfl, rfl⟩) htest
    exact ⟨fun _ => .inl hgiven, fun _ => hnone⟩
  · -- A batch that is not full is passed on only where the flag is set.
    have hshort : ¬ batchSize ≤ s₀.batch.length := fun hfull => by
      have hle := (fullBatch_le_iff hgiven).mpr hfull
      omega
    simp only [List.isEmpty_eq_false_iff.mpr hgiven, Bool.not_false, Bool.true_and, hshort, decide_false,
      Bool.false_or] at hdecided
    cases hstopped : s₂.stopped with
    | true =>
      rw [hstopped, if_pos rfl] at hdecided
      cases hdecided
      have hnone := held_up_to_test h (.inr ⟨rfl, rfl⟩) htest
      exact ⟨fun _ => .inr rfl, fun _ => hnone⟩
    | false =>
      rw [hstopped, if_neg Bool.false_ne_true] at hdecided
      cases hdecided
      have hsame := held_up_to_test h (.inl ⟨rfl, rfl⟩) htest
      rw [hsame]
      exact ⟨fun he => absurd he hgiven, fun hor => absurd (hor.resolve_left hgiven) Bool.false_ne_true⟩

end Waits

/-- Both documents of a full batch were written before the wait. -/
theorem idle_flushed_two : ∃ s₀ s : State, s₀.enqueued.length = 2 ∧ Waiting s₀ ∧ s.batch = [] := by
  have hexec : ∃ s₀ s₁ s : State,
      [.enqueue startupMoment startupRecord, .enqueue startupMoment startupRecord, .work, .work, .work, .work, .work,
        .work, .work, .work].foldlM (step 2) .start = some s₀ ∧
      step 2 s₀ .work = some s₁ ∧ [.work].foldlM (step 2) s₁ = some s ∧
      s₀.stage = .reading ∧ s₀.queue = [] ∧ s₀.enqueued.length = 2 ∧ s₁.stage = .deciding ∧ s.stage = .testing :=
    ⟨_, _, _, rfl, rfl, rfl, rfl, rfl, rfl, rfl, rfl⟩
  obtain ⟨s₀, s₁, s, hbefore, hover, hafter, hreading, hqueue, htwo, hdeciding, htest⟩ := hexec
  have hrun₀ := Run.of_exec (fun _ _ _ => trivial) hbefore
  have hwaiting : Waiting s₀ := ⟨hreading, hqueue⟩
  obtain ⟨s', hstep, hlast⟩ := Option.bind_eq_some_iff.mp hafter
  cases hlast
  have hrun : Run (step 2) UpToTest s₁ [.work] s :=
    .cons (fun _ he => absurd (hdeciding.symm.trans he) (by decide)) hstep .nil
  refine ⟨s₀, s, htwo, hwaiting, (idle_flushed_iff hrun₀ hwaiting hover .nil hrun htest).mpr (.inl ?_)⟩
  rw [htwo]
  decide

/-- One document of a batch of fifty is still held after the wait. -/
theorem idle_holds_one : ¬ ∀ (batchSize : Int) (before meanwhile after : List Event) (s₀ s₁ s₂ s : State),
    Run (step batchSize) (fun _ _ => True) .start before s₀ → Waiting s₀ → step batchSize s₀ .work = some s₁ →
    Run (step batchSize) ByOthers s₁ meanwhile s₂ → Run (step batchSize) UpToTest s₂ (.work :: after) s →
    s.stage = .testing → s.batch = [] := by
  intro h
  have hexec : ∃ s₀ s₁ s : State,
      [.enqueue startupMoment startupRecord, .work, .work, .work, .work].foldlM (step 50) .start = some s₀ ∧
      step 50 s₀ .work = some s₁ ∧ step 50 s₁ .work = some s ∧ s₀.stage = .reading ∧ s₀.queue = [] ∧
      s₁.stage = .deciding ∧ s.stage = .testing ∧ s.batch.length = 1 :=
    ⟨_, _, _, rfl, rfl, rfl, rfl, rfl, rfl, rfl, rfl⟩
  obtain ⟨s₀, s₁, s, hbefore, hover, hafter, hreading, hqueue, hdeciding, htest, hone⟩ := hexec
  have hrun₀ := Run.of_exec (fun _ _ _ => trivial) hbefore
  have hrun : Run (step 50) UpToTest s₁ [.work] s :=
    .cons (fun _ he => absurd (hdeciding.symm.trans he) (by decide)) hafter .nil
  have hnone := h 50 _ [] [] s₀ s₁ s₁ s hrun₀ ⟨hreading, hqueue⟩ hover .nil hrun htest
  rw [hnone] at hone
  cases hone

/-! ## A partial batch, over many waits -/

/-- Three steps of a worker that reads nothing: its test, its wait, and the test of its batch. -/
def idleRounds (n : Nat) : List Event := (List.replicate n [Event.work, .work, .work]).flatten

/-- However often it waits, a worker that is not stopped keeps a partial batch. -/
theorem partial_kept {batchSize : Int} {s : State} (htest : s.stage = .testing) (hrunning : s.stopped = false)
    (hqueue : s.queue = []) (hshort : s.batch.length < batchSize) (n : Nat) :
    Run (step batchSize) (fun _ _ => True) s (idleRounds n) s := by
  have hread : step batchSize s .work = some { s with stage := .reading } := by
    simp only [step, workerStep, htest, hrunning, Bool.false_eq_true, if_false]
  have hempty : step batchSize { s with stage := .reading } .work = some { s with stage := .deciding } := by
    simp only [step, workerStep, hqueue]
  have hkept : step batchSize { s with stage := .deciding } .work = some { s with stage := .testing } := by
    simp only [step, workerStep, hrunning, Bool.or_false, Int.not_le.mpr hshort, decide_false, Bool.and_false,
      Bool.false_eq_true, if_false]
  have hsame : { s with stage := .testing } = s := by rw [← htest]
  rw [hsame] at hkept
  induction n with
  | zero => exact .nil
  | succ n ih =>
    exact .cons trivial hread (.cons trivial hempty (.cons trivial hkept ih))

end BlocksGenesis.Lmt.LogExporter
