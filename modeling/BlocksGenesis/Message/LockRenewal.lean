import BlocksGenesis.Machine.Run
import BlocksGenesis.Machine.Slots
import BlocksGenesis.Message.Delivery
import Mathlib.Algebra.Order.Field.Basic
import Mathlib.Algebra.Order.Field.Rat
import Mathlib.Data.List.Chain
import Mathlib.Tactic.Linarith
import Mathlib.Tactic.NormNum

/-! The renewal of a message's lock: how often, when, and for how long it is asked for. -/

namespace BlocksGenesis.Message.LockRenewal

variable {Time : Type} [Field Time] [LinearOrder Time] [IsStrictOrderedRing Time]

/-- Where the task is: not yet begun, in `wait_for` since some time, in `renew_message_lock`, or at
its end. -/
inductive Stage (Time : Type) where
  | created
  | waiting (since : Time)
  | renewing
  | ended

/-- A call of `renew_message_lock`, with what the event was then. -/
structure RenewCall (Time : Type) where
  time : Time
  eventSet : Bool

/-- The task and what is around it: the clock of the loop and the event, which others set too. The
calls, how those that ended did, and how often the task was resumed are only counted. -/
structure State (Time : Type) where
  now : Time
  cancellationEvent : Bool
  stage : Stage Time
  startTime : Time
  calls : List (RenewCall Time)
  answers : List Ending
  resumed : Nat

inductive Event (Time : Type) where
  | tick (elapsed : Time)
  | setEvent
  | begin
  | timedOut
  | woken
  | answered (ending : Ending)
  | interrupt

namespace State

/-- The task before its first step. The event may be set already, and has been made at some time. -/
def create (now : Time) (cancellationEvent : Bool) : State Time where
  now := now
  cancellationEvent := cancellationEvent
  stage := .created
  startTime := now
  calls := []
  answers := []
  resumed := 0

def resume (s : State Time) : State Time := { s with resumed := s.resumed + 1 }

/-- `while not cancellation_event.is_set()`, up to the wait. -/
def enterLoop (s : State Time) : State Time :=
  { s with stage := if s.cancellationEvent then .ended else .waiting s.now }

/-- After the wait: the second look at the event, the elapsed time, and the call. -/
def afterWait (maxProcessingTime : Time) (s : State Time) : State Time :=
  if s.cancellationEvent then { s with stage := .ended }
  else if maxProcessingTime < s.now - s.startTime then { s with stage := .ended }
  else { s with stage := .renewing, calls := s.calls ++ [⟨s.now, s.cancellationEvent⟩] }

/-- After the call. A renewal that raises stops the loop by the event; an interruption ends the task. -/
def afterCall (s : State Time) (ending : Ending) : State Time :=
  let answered := { s with answers := s.answers ++ [ending] }
  match ending with
  | .returned => answered.enterLoop
  | .raised _ => { answered with cancellationEvent := true }.enterLoop
  | .interrupted => { answered with stage := .ended }

end State

/-- The clock moves while the task is suspended. `wait_for` times out once the interval is over, and
returns before only when the event is set. -/
def step (renewalInterval maxProcessingTime : Time) (s : State Time) : Event Time → Option (State Time)
  | .tick elapsed => if 0 ≤ elapsed then some { s with now := s.now + elapsed } else none
  | .setEvent => some { s with cancellationEvent := true }
  | .begin =>
    match s.stage with
    | .created => some { s.resume with startTime := s.now }.enterLoop
    | _ => none
  | .timedOut =>
    match s.stage with
    | .waiting since =>
      if since + renewalInterval ≤ s.now then some (s.resume.afterWait maxProcessingTime) else none
    | _ => none
  | .woken =>
    match s.stage with
    | .waiting _ => if s.cancellationEvent then some (s.resume.afterWait maxProcessingTime) else none
    | _ => none
  | .answered ending =>
    match s.stage with
    | .renewing => some (s.resume.afterCall ending)
    | _ => none
  | .interrupt =>
    match s.stage with
    | .created | .waiting _ => some { s.resume with stage := .ended }
    | _ => none

/-! ## The calls that were made -/

/-- The start, and when each call was made. -/
def times (startTime : Time) (calls : List (RenewCall Time)) : List Time :=
  startTime :: calls.map RenewCall.time

/-- The calls made by some time: none of them with the event set or too late, and an interval apart. -/
structure Timed (renewalInterval maxProcessingTime startTime : Time) (calls : List (RenewCall Time))
    (now : Time) : Prop where
  unset : ∀ call ∈ calls, call.eventSet = false
  inTime : ∀ call ∈ calls, call.time - startTime ≤ maxProcessingTime
  spaced : (times startTime calls).IsChain (fun earlier later => earlier + renewalInterval ≤ later)
  past : ∀ last ∈ (times startTime calls).getLast?, last ≤ now

section Timing
variable {renewalInterval maxProcessingTime startTime now after : Time} {calls : List (RenewCall Time)}

omit [IsStrictOrderedRing Time] in
theorem Timed.start : Timed renewalInterval maxProcessingTime startTime [] startTime := by
  refine ⟨List.forall_mem_nil _, List.forall_mem_nil _, List.isChain_singleton _, ?_⟩
  intro last hlast
  cases hlast
  exact le_refl _

omit [IsStrictOrderedRing Time] in
theorem Timed.later (h : Timed renewalInterval maxProcessingTime startTime calls now) (hle : now ≤ after) :
    Timed renewalInterval maxProcessingTime startTime calls after :=
  ⟨h.unset, h.inTime, h.spaced, fun last hlast => le_trans (h.past last hlast) hle⟩

omit [Field Time] [LinearOrder Time] [IsStrictOrderedRing Time] in
theorem times_append (call : RenewCall Time) :
    times startTime (calls ++ [call]) = times startTime calls ++ [call.time] := by
  simp [times]

/-- One more call, an interval after the last. -/
theorem Timed.call {since : Time} (h : Timed renewalInterval maxProcessingTime startTime calls since)
    (hwaited : since + renewalInterval ≤ now) (hin : now - startTime ≤ maxProcessingTime) :
    Timed renewalInterval maxProcessingTime startTime (calls ++ [⟨now, false⟩]) now := by
  refine ⟨?_, ?_, ?_, ?_⟩
  · intro call hm
    rcases List.mem_append.mp hm with hm | hm
    · exact h.unset call hm
    · rw [List.mem_singleton.mp hm]
  · intro call hm
    rcases List.mem_append.mp hm with hm | hm
    · exact h.inTime call hm
    · rw [List.mem_singleton.mp hm]
      exact hin
  · rw [times_append]
    apply List.isChain_append.mpr
    refine ⟨h.spaced, List.isChain_singleton _, ?_⟩
    intro last hlast t ht
    cases ht
    have hpast := h.past last hlast
    linarith
  · intro last hlast
    rw [times_append, List.getLast?_concat] at hlast
    cases hlast
    exact le_refl _

/-- Times that are an interval apart take up as many intervals. -/
theorem spaced_le {t : Time} {ts : List Time}
    (h : (t :: ts).IsChain (fun earlier later => earlier + renewalInterval ≤ later)) :
    ∀ last ∈ (t :: ts).getLast?, t + ts.length * renewalInterval ≤ last := by
  induction ts generalizing t with
  | nil =>
    intro last hlast
    cases hlast
    simp
  | cons t' ts ih =>
    intro last hlast
    obtain ⟨hfirst, hrest⟩ := List.isChain_cons_cons.mp h
    have hlater := ih hrest last (by rwa [List.getLast?_cons_cons] at hlast)
    rw [List.length_cons, Nat.cast_succ]
    linarith

/-- The limit leaves room for no more calls than there are intervals in it. -/
theorem Timed.length_le (h : Timed renewalInterval maxProcessingTime startTime calls now)
    (hinterval : 0 < renewalInterval) : (calls.length : Time) ≤ max (maxProcessingTime / renewalInterval) 0 := by
  rcases List.eq_nil_or_concat' calls with rfl | ⟨before, call, rfl⟩
  · simp
  · have hlast : call.time ∈ (times startTime (before ++ [call])).getLast? := by
      rw [times_append, List.getLast?_concat]
      rfl
    have hspaced := spaced_le h.spaced _ hlast
    have hin := h.inTime call (List.mem_append_right _ List.mem_cons_self)
    rw [List.length_map] at hspaced
    apply le_max_of_le_left
    rw [le_div_iff₀ hinterval]
    linarith

end Timing

/-! ## What every step keeps -/

section Steps
variable {renewalInterval maxProcessingTime : Time} {s next : State Time}

/-- Every call costs two resumptions, one before it and one after it; two more are to begin and to end. -/
def AtStage (renewalInterval maxProcessingTime : Time) (s : State Time) : Prop :=
  match s.stage with
  | .created => s.calls = [] ∧ s.answers = [] ∧ s.resumed = 0
  | .waiting since => Timed renewalInterval maxProcessingTime s.startTime s.calls since ∧
      s.answers.length = s.calls.length ∧ s.resumed + 1 ≤ 2 * s.calls.length + 2
  | .renewing => s.answers.length + 1 = s.calls.length ∧ s.resumed ≤ 2 * s.calls.length
  | .ended => s.resumed ≤ 2 * s.calls.length + 2

structure Kept (renewalInterval maxProcessingTime : Time) (s : State Time) : Prop where
  timed : Timed renewalInterval maxProcessingTime s.startTime s.calls s.now
  failed : ∀ (k : Nat) (ending : Ending), s.answers[k]? = some ending → ending ≠ .returned →
    s.calls.length = k + 1 ∧ s.stage = .ended
  stage : AtStage renewalInterval maxProcessingTime s

omit [IsStrictOrderedRing Time] in
theorem kept_create (now : Time) (cancellationEvent : Bool) :
    Kept renewalInterval maxProcessingTime (State.create now cancellationEvent) :=
  ⟨Timed.start, (fun _ _ h => nomatch h), rfl, rfl, rfl⟩

omit [IsStrictOrderedRing Time] in
/-- No answer but an ending one was a failure, as long as the task goes on. -/
theorem Kept.goesOn (h : Kept renewalInterval maxProcessingTime s) (hstage : s.stage ≠ .ended) {k : Nat}
    {ending : Ending} (hanswer : s.answers[k]? = some ending) : ending = .returned := by
  cases ending with
  | returned => rfl
  | raised e => exact absurd (h.failed k _ hanswer nofun).2 hstage
  | interrupted => exact absurd (h.failed k _ hanswer nofun).2 hstage

omit [IsStrictOrderedRing Time] in
theorem enterLoop_kept (ht : Timed renewalInterval maxProcessingTime s.startTime s.calls s.now)
    (hfailed : ∀ (k : Nat) (ending : Ending), s.answers[k]? = some ending → ending ≠ .returned →
      s.calls.length = k + 1 ∧ s.cancellationEvent = true)
    (hanswers : s.answers.length = s.calls.length) (hresumed : s.resumed + 1 ≤ 2 * s.calls.length + 2) :
    Kept renewalInterval maxProcessingTime s.enterLoop := by
  refine ⟨ht, ?_, ?_⟩
  · intro k ending hanswer hne
    obtain ⟨hlast, hset⟩ := hfailed k ending hanswer hne
    exact ⟨hlast, if_pos hset⟩
  · unfold AtStage State.enterLoop
    cases s.cancellationEvent with
    | true => exact Nat.le_of_succ_le hresumed
    | false => exact ⟨ht, hanswers, hresumed⟩

theorem afterWait_kept {since : Time} (h : Kept renewalInterval maxProcessingTime s)
    (hstage : s.stage = .waiting since) (hwaited : s.cancellationEvent = false → since + renewalInterval ≤ s.now) :
    Kept renewalInterval maxProcessingTime (s.resume.afterWait maxProcessingTime) := by
  have hat := h.stage
  rw [AtStage, hstage] at hat
  obtain ⟨hsince, hanswers, hresumed⟩ := hat
  have hreturned : ∀ (k : Nat) (ending : Ending), s.answers[k]? = some ending → ending = .returned := by
    intro k ending
    exact h.goesOn (by rw [hstage]; nofun)
  have hended : Kept renewalInterval maxProcessingTime { s.resume with stage := .ended } :=
    ⟨h.timed, fun k ending hanswer hne => absurd (hreturned k ending hanswer) hne, hresumed⟩
  unfold State.afterWait
  split
  · exact hended
  · rename_i hevent
    split
    · exact hended
    · rename_i hin
      have hunset : s.cancellationEvent = false := Bool.eq_false_iff.mpr hevent
      change Kept _ _ { s.resume with stage := .renewing, calls := s.calls ++ [⟨s.now, s.cancellationEvent⟩] }
      rw [hunset]
      refine ⟨hsince.call (hwaited hunset) (not_lt.mp hin), ?_, ?_⟩
      · intro k ending hanswer hne
        exact absurd (hreturned k ending hanswer) hne
      · change s.answers.length + 1 = (s.calls ++ _).length ∧ s.resumed + 1 ≤ 2 * (s.calls ++ _).length
        simp only [List.length_append, List.length_singleton]
        omega

omit [IsStrictOrderedRing Time] in
theorem afterCall_kept (h : Kept renewalInterval maxProcessingTime s) (hstage : s.stage = .renewing)
    (ending : Ending) : Kept renewalInterval maxProcessingTime (s.resume.afterCall ending) := by
  have hat := h.stage
  rw [AtStage, hstage] at hat
  obtain ⟨hanswers, hresumed⟩ := hat
  have hlast : ∀ (k : Nat) (other : Ending), (s.answers ++ [ending])[k]? = some other → other ≠ .returned →
      s.calls.length = k + 1 ∧ other = ending := by
    intro k other hanswer hne
    rcases Machine.slot_of_append hanswer with ⟨rfl, rfl⟩ | ⟨_, hold⟩
    · exact ⟨hanswers.symm, rfl⟩
    · exact absurd (h.goesOn (by rw [hstage]; nofun) hold) hne
  have hlength : (s.answers ++ [ending]).length = s.calls.length := by
    rw [List.length_append, List.length_singleton, hanswers]
  have hcount : s.resumed + 1 + 1 ≤ 2 * s.calls.length + 2 := by omega
  cases ending with
  | returned =>
    refine enterLoop_kept h.timed ?_ hlength hcount
    intro k other hanswer hne
    exact absurd (hlast k other hanswer hne).2 hne
  | raised e => exact enterLoop_kept h.timed (fun k other hanswer hne => ⟨(hlast k other hanswer hne).1, rfl⟩) hlength hcount
  | interrupted =>
    exact ⟨h.timed, fun k other hanswer hne => ⟨(hlast k other hanswer hne).1, rfl⟩, Nat.le_of_succ_le hcount⟩

/-- What a step does: time passes, another sets the event, or the task begins, is through with its wait
or with a call, or is interrupted where it can be. -/
inductive Moved (renewalInterval maxProcessingTime : Time) (s : State Time) : State Time → Prop where
  | tick {elapsed} : 0 ≤ elapsed → Moved renewalInterval maxProcessingTime s { s with now := s.now + elapsed }
  | set : Moved renewalInterval maxProcessingTime s { s with cancellationEvent := true }
  | begun : s.stage = .created →
    Moved renewalInterval maxProcessingTime s { s.resume with startTime := s.now }.enterLoop
  | waited {since} : s.stage = .waiting since → (s.cancellationEvent = false → since + renewalInterval ≤ s.now) →
    Moved renewalInterval maxProcessingTime s (s.resume.afterWait maxProcessingTime)
  | called {ending} : s.stage = .renewing → Moved renewalInterval maxProcessingTime s (s.resume.afterCall ending)
  | interrupted : (s.stage = .created ∨ ∃ since, s.stage = .waiting since) →
    Moved renewalInterval maxProcessingTime s { s.resume with stage := .ended }

omit [IsStrictOrderedRing Time] in
theorem step_moved {e : Event Time} (hstep : step renewalInterval maxProcessingTime s e = some next) :
    Moved renewalInterval maxProcessingTime s next := by
  cases e with
  | tick elapsed =>
    rw [step] at hstep
    split at hstep
    · rename_i helapsed
      cases hstep
      exact .tick helapsed
    · cases hstep
  | setEvent =>
    cases hstep
    exact .set
  | begin =>
    rw [step] at hstep
    split at hstep
    · rename_i hstage
      cases hstep
      exact .begun hstage
    · cases hstep
  | timedOut =>
    rw [step] at hstep
    split at hstep
    · rename_i since hstage
      split at hstep
      · rename_i hwaited
        cases hstep
        exact .waited hstage (fun _ => hwaited)
      · cases hstep
    · cases hstep
  | woken =>
    rw [step] at hstep
    split at hstep
    · rename_i since hstage
      split at hstep
      · rename_i hset
        cases hstep
        exact .waited hstage (fun hunset => absurd hset (by simp [hunset]))
      · cases hstep
    · cases hstep
  | answered ending =>
    rw [step] at hstep
    split at hstep
    · rename_i hstage
      cases hstep
      exact .called hstage
    · cases hstep
  | interrupt =>
    rw [step] at hstep
    split at hstep
    · rename_i hstage
      cases hstep
      exact .interrupted (.inl hstage)
    · rename_i since hstage
      cases hstep
      exact .interrupted (.inr ⟨since, hstage⟩)
    · cases hstep

omit [IsStrictOrderedRing Time] in
theorem begun_kept (h : Kept renewalInterval maxProcessingTime s) (hstage : s.stage = .created) :
    Kept renewalInterval maxProcessingTime { s.resume with startTime := s.now }.enterLoop := by
  have hat := h.stage
  rw [AtStage, hstage] at hat
  obtain ⟨hcalls, hanswers, hresumed⟩ := hat
  apply enterLoop_kept
  · change Timed _ _ s.now s.calls s.now
    rw [hcalls]
    exact Timed.start
  · intro k ending hanswer
    change s.answers[k]? = some ending at hanswer
    rw [hanswers] at hanswer
    cases hanswer
  · exact (congrArg List.length hanswers).trans (congrArg List.length hcalls).symm
  · change s.resumed + 1 + 1 ≤ 2 * s.calls.length + 2
    omega

omit [IsStrictOrderedRing Time] in
theorem interrupted_kept (h : Kept renewalInterval maxProcessingTime s)
    (hstage : s.stage = .created ∨ ∃ since, s.stage = .waiting since) :
    Kept renewalInterval maxProcessingTime { s.resume with stage := .ended } := by
  have hat := h.stage
  have hended : s.stage ≠ .ended → s.resumed + 1 ≤ 2 * s.calls.length + 2 →
      Kept renewalInterval maxProcessingTime { s.resume with stage := .ended } := by
    intro hgoes hcount
    exact ⟨h.timed, fun k ending hanswer hne => absurd (h.goesOn hgoes hanswer) hne, hcount⟩
  rcases hstage with hstage | ⟨since, hstage⟩
  · rw [AtStage, hstage] at hat
    exact hended (by rw [hstage]; nofun) (by omega)
  · rw [AtStage, hstage] at hat
    exact hended (by rw [hstage]; nofun) hat.2.2

theorem step_kept {e : Event Time} (h : Kept renewalInterval maxProcessingTime s)
    (hstep : step renewalInterval maxProcessingTime s e = some next) : Kept renewalInterval maxProcessingTime next := by
  cases step_moved hstep with
  | tick helapsed => exact ⟨h.timed.later (le_add_of_nonneg_right helapsed), h.failed, h.stage⟩
  | set => exact ⟨h.timed, h.failed, h.stage⟩
  | begun hstage => exact begun_kept h hstage
  | waited hstage hwaited => exact afterWait_kept h hstage hwaited
  | called hstage => exact afterCall_kept h hstage _
  | interrupted hstage => exact interrupted_kept h hstage

omit [IsStrictOrderedRing Time] in
/-- Once the event is set, nothing that happens adds a call. -/
theorem step_quiet {e : Event Time} (hset : s.cancellationEvent = true)
    (hstep : step renewalInterval maxProcessingTime s e = some next) :
    next.cancellationEvent = true ∧ next.calls = s.calls := by
  cases step_moved hstep with
  | tick _ | begun _ | interrupted _ => exact ⟨hset, rfl⟩
  | set => exact ⟨rfl, rfl⟩
  | waited _ _ =>
    rw [State.afterWait, if_pos (show s.resume.cancellationEvent = true from hset)]
    exact ⟨hset, rfl⟩
  | @called ending _ =>
    cases ending with
    | returned | interrupted => exact ⟨hset, rfl⟩
    | raised e => exact ⟨rfl, rfl⟩

omit [IsStrictOrderedRing Time] in
/-- A wait that is over ends the task when the event is set or the limit has passed. -/
theorem wait_ends {since : Time} (hstage : s.stage = .waiting since) (hover : since + renewalInterval ≤ s.now)
    (hlate : s.cancellationEvent = true ∨ maxProcessingTime < s.now - s.startTime) :
    ∃ next, step renewalInterval maxProcessingTime s .timedOut = some next ∧ next.stage = .ended := by
  refine ⟨s.resume.afterWait maxProcessingTime, ?_, ?_⟩
  · rw [step, hstage]
    exact if_pos hover
  · rw [State.afterWait]
    split
    · rfl
    · rename_i hunset
      split
      · rfl
      · rename_i hin
        rcases hlate with hset | hlate
        · exact absurd hset hunset
        · exact absurd hlate hin

end Steps

/-- The renewals of one task. The list of calls tells when each was made, the list of answers how each
ended. -/
structure Bounded (renewalInterval maxProcessingTime : Time) (s : State Time) : Prop where
  calls : Timed renewalInterval maxProcessingTime s.startTime s.calls s.now
  afterFailure : ∀ (k : Nat) (ending : Ending), s.answers[k]? = some ending → ending ≠ .returned →
    s.calls.length = k + 1 ∧ s.stage = .ended
  afterSet : s.cancellationEvent = true → ∀ events later,
    Machine.Run (step renewalInterval maxProcessingTime) (fun _ _ => True) s events later → later.calls = s.calls
  renewals : (s.calls.length : Time) ≤ max (maxProcessingTime / renewalInterval) 0
  resumptions : s.resumed ≤ 2 * s.calls.length + 2
  ends : ∀ since, s.stage = .waiting since → since + renewalInterval ≤ s.now →
    (s.cancellationEvent = true ∨ maxProcessingTime < s.now - s.startTime) →
    ∃ next, step renewalInterval maxProcessingTime s .timedOut = some next ∧ next.stage = .ended

/-- Whatever the clock does, whenever the event is set and however the renewals end: they are asked for
with the event unset, an interval apart and within the limit, and there are no more of them than
intervals in it. The task is resumed at most twice for each, and twice more. -/
theorem renewals_are_bounded {renewalInterval maxProcessingTime now : Time} {cancellationEvent : Bool}
    {events : List (Event Time)} {s : State Time} (hinterval : 0 < renewalInterval)
    (h : Machine.Run (step renewalInterval maxProcessingTime) (fun _ _ => True)
      (State.create now cancellationEvent) events s) :
    Bounded renewalInterval maxProcessingTime s := by
  have hkept := h.invariant (kept_create now cancellationEvent) (fun hs _ hstep => step_kept hs hstep)
  refine ⟨hkept.timed, hkept.failed, ?_, hkept.timed.length_le hinterval, ?_, fun _ => wait_ends⟩
  · intro hset events later hrun
    refine (@Machine.Run.invariant _ _ _ _ _ _ _ (fun t => t.cancellationEvent = true ∧ t.calls = s.calls) hrun
      ⟨hset, rfl⟩ ?_).2
    intro t e next ht _ hstep
    obtain ⟨hset, hcalls⟩ := step_quiet ht.1 hstep
    exact ⟨hset, hcalls.trans ht.2⟩
  · have hat := hkept.stage
    unfold AtStage at hat
    split at hat <;> omega

/-- The default interval and limit, in seconds. The second renewal fails. -/
theorem second_renewal_fails :
    ∃ s : State Rat, Bounded 270 18000 s ∧ s.stage = .ended ∧ s.calls = [⟨270, false⟩, ⟨540, false⟩] := by
  have hrun : Machine.Run (step 270 18000) (fun _ _ => True) (State.create 0 false)
      [.begin, .tick 270, .timedOut, .answered .returned, .tick 270, .timedOut,
        .answered (.raised (.other "MessageLockLostError"))]
      (⟨540, true, .ended, 0, [⟨270, false⟩, ⟨540, false⟩],
        [.returned, .raised (.other "MessageLockLostError")], 5⟩ : State Rat) := by
    apply Machine.Run.of_exec (fun _ _ _ => trivial)
    norm_num [step, State.create, State.resume, State.enterLoop, State.afterWait, State.afterCall]
  exact ⟨_, renewals_are_bounded (by decide) hrun, rfl, rfl⟩

end BlocksGenesis.Message.LockRenewal
