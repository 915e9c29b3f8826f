import BlocksGenesis.Asyncio.SharedLoad

/-! That there is one load of a key at a time, and whom a cancellation reaches. -/

namespace Asyncio.SharedLoad
open Python

variable {Key Value Cache Update : Type} [DecidableEq Key] {p : Policy Key Value Cache Update}
  {s s' : State Key Value Cache Update} {e : Event Key Value Update}

/-! ## One load of a key -/

/-- Each running load is the one its key is mapped to. -/
structure Mapped (s : State Key Value Cache Update) : Prop where
  loads : ∀ key (t : Nat), s.loads.lookup key = some t → ∃ task, s.tasks[t]? = some task ∧ task.key = key
  running : ∀ (t : Nat) task, s.tasks[t]? = some task → task.finished = false →
    s.loads.lookup task.key = some t
  closing : ∀ (i : Nat) call t result, s.calls[i]? = some call → call.progress = .closing t result →
    ∃ task, s.tasks[t]? = some task ∧ task.finished = true

def OneLoad (s : State Key Value Cache Update) : Prop :=
  ∀ (t u : Nat) task other, s.tasks[t]? = some task → s.tasks[u]? = some other →
    task.finished = false → other.finished = false → task.key = other.key → t = u

theorem Mapped.oneLoad (h : Mapped s) : OneLoad s := by
  intro t u task other ht hu htask hother hkey
  have hmapped := h.running t task ht htask
  rw [hkey, h.running u other hu hother] at hmapped
  exact (Option.some.inj hmapped).symm

theorem Advanced.finished_kept (ha : Advanced p s e s') {t : Nat} {task : Task Key Value}
    (ht : s.tasks[t]? = some task) (hf : task.finished = true) : s'.tasks[t]? = some task := by
  rcases ha.tasksKept t task ht with hsame | ⟨next, _, hstep⟩
  · exact hsame
  · rw [(hstep.of_some ht).2] at hf
    cases hf

theorem Advanced.key_kept (ha : Advanced p s e s') {t : Nat} {task : Task Key Value}
    (ht : s.tasks[t]? = some task) : ∃ next, s'.tasks[t]? = some next ∧ next.key = task.key := by
  rcases ha.tasksKept t task ht with hsame | ⟨next, hnext, hstep⟩
  · exact ⟨task, hsame, rfl⟩
  · exact ⟨next, hnext, (hstep.of_some ht).1⟩

theorem Mapped.stays (h : Mapped s) (ha : Advanced p s e s') {t : Nat} {task : Task Key Value}
    (ht : s.tasks[t]? = some task) (hf : task.finished = false) : s'.loads.lookup task.key = some t := by
  rcases ha.loadsKept _ t (h.running t task ht hf) with hsame | ⟨i, call, result, hi, hclosing⟩
  · exact hsame
  · obtain ⟨done, hdone, hfinished⟩ := h.closing i call t result hi hclosing
    rw [ht] at hdone
    cases hdone
    rw [hf] at hfinished
    cases hfinished

omit [DecidableEq Key] in
theorem TaskStep.new_or_old {t : Nat} {next : Task Key Value} (h : TaskStep s e t next) :
    t = s.tasks.length ∨ ∃ task, s.tasks[t]? = some task ∧ task.finished = false ∧ next.key = task.key := by
  cases h with
  | created hlen => exact .inl hlen
  | begun hold | answered hold | done hold => exact .inr ⟨_, hold, rfl, rfl⟩
  | cancelled hold hf | cancelling _ _ _ hold hf => exact .inr ⟨_, hold, hf, rfl⟩

theorem step_mapped (h : Mapped s) (ha : Advanced p s e s') : Mapped s' where
  loads key t hl := by
    rcases ha.loads key t hl with hold | ⟨_, _, hnew⟩
    · obtain ⟨task, ht, hkey⟩ := h.loads key t hold
      obtain ⟨next, hnext, hsame⟩ := ha.key_kept ht
      exact ⟨next, hnext, hsame.trans hkey⟩
    · exact ⟨_, hnew, rfl⟩
  running t task ht hf := by
    rcases ha.tasks t task ht with hold | hstep
    · exact h.stays ha hold hf
    · rcases hstep.new_or_old with rfl | ⟨old, hold, hrunning, hkey⟩
      · exact (ha.opened task ht).2
      · rw [hkey]
        exact h.stays ha hold hrunning
  closing i call t result hi hp := by
    have hfinished : ∃ task, s.tasks[t]? = some task ∧ task.finished = true := by
      rcases ha.calls i call hi with hold | hstep
      · exact h.closing i call t result hold hp
      · cases hstep with
        | refused | cached | started | joined | opened | returned | raised | dropped | stopped => cases hp
        | resumed _ ht hstage | interrupted _ ht hstage =>
          cases hp
          exact ⟨_, ht, by rw [Task.finished, hstage]⟩
        | released _ ht hf =>
          cases hp
          exact ⟨_, ht, hf⟩
    obtain ⟨task, ht, hf⟩ := hfinished
    exact ⟨task, ha.finished_kept ht hf, hf⟩

theorem initial_mapped (cache : Cache) : Mapped ({ cache } : State Key Value Cache Update) where
  loads _ _ h := by cases h
  running _ _ h := by cases h
  closing _ _ _ _ h := by cases h

theorem mapped {allowed : State Key Value Cache Update → Event Key Value Update → Prop} {cache : Cache}
    {events : List (Event Key Value Update)} (h : Machine.Run (step p) allowed { cache } events s) :
    Mapped s :=
  h.invariant (initial_mapped cache) (fun hs _ htaken => step_mapped hs (step_advanced htaken).1)

/-! ## Whom a cancellation reaches -/

/-- A caller is cancelled while it awaits a running load only where all others who await it were
cancelled before, and no caller joins a load that is being cancelled. -/
def Alone (s : State Key Value Cache Update) : Event Key Value Update → Prop
  | .cancel i => ∀ call t task, s.calls[i]? = some call → call.progress = .awaiting t →
      s.tasks[t]? = some task → task.finished = false → ∀ (j : Nat) other, j ≠ i →
        s.calls[j]? = some other → other.progress = .awaiting t → other.cancelled = true
  | .enterLock i => ∀ call t task, s.calls[i]? = some call → call.progress = .locking →
      s.loads.lookup call.key = some t → s.tasks[t]? = some task → task.cancelling = false
  | _ => True

/-- A caller that nobody has cancelled and that has not raised: what it awaits is a load of its key
that nobody has cancelled, and what it returns is what its load gave. -/
inductive Undisturbed (s : State Key Value Cache Update) : Call Key Value → Prop where
  | locking {key startedAt} : Undisturbed s ⟨key, startedAt, false, .locking⟩
  | awaiting {key startedAt t stage} : s.tasks[t]? = some ⟨key, stage, false⟩ →
      Undisturbed s ⟨key, startedAt, false, .awaiting t⟩
  | closing {key startedAt t loaded} : s.tasks[t]? = some ⟨key, .done loaded, false⟩ →
      Undisturbed s ⟨key, startedAt, false, .closing t (some loaded)⟩
  | refused {key startedAt value} : Undisturbed s ⟨key, startedAt, false, .returned (.refused value)⟩
  | cached {key startedAt cached} : Undisturbed s ⟨key, startedAt, false, .returned (.cached cached)⟩
  | loaded {key startedAt t loaded} : s.tasks[t]? = some ⟨key, .done loaded, false⟩ →
      Undisturbed s ⟨key, startedAt, false, .returned (.loaded t loaded)⟩

/-- What a caller may rely on as long as no cancellation of another reaches it. -/
structure Sheltered (s : State Key Value Cache Update) : Prop where
  mapped : Mapped s
  cancelled : ∀ (t : Nat) task, s.tasks[t]? = some task → task.stage = .cancelled → task.cancelling = true
  calls : ∀ (i : Nat) call, s.calls[i]? = some call → call.cancelled = false → Undisturbed s call

/-- A load that nobody cancels goes on or ends with a value. -/
theorem Advanced.uncancelled_kept (ha : Advanced p s e s') {key : Key} {t : Nat} {stage : Stage Value}
    (ht : s.tasks[t]? = some ⟨key, stage, false⟩)
    (hnot : ∀ i call, e = .cancel i → s.calls[i]? = some call → call.progress = .awaiting t →
      Task.finished ⟨key, stage, false⟩ = false → False) :
    ∃ stage', s'.tasks[t]? = some ⟨key, stage', false⟩ := by
  rcases ha.tasksKept t _ ht with hsame | ⟨next, hnext, hstep⟩
  · exact ⟨stage, hsame⟩
  · have hkey := (hstep.of_some ht).1
    cases hstep with
    | created hlen =>
      subst hlen
      exact no_new_task ht
    | begun | answered | done =>
      cases hkey
      exact ⟨_, hnext⟩
    | cancelled hold _ hcancelling =>
      rw [ht] at hold
      cases hold
      cases hcancelling
    | cancelling he hi hp hold hf =>
      rw [ht] at hold
      cases hold
      exact (hnot _ _ he hi hp hf).elim

theorem Undisturbed.kept {i : Nat} {call : Call Key Value} (hu : Undisturbed s call) (ha : Advanced p s e s')
    (hallowed : Alone s e) (hold : s.calls[i]? = some call) (hnew : s'.calls[i]? = some call) :
    Undisturbed s' call := by
  cases hu with
  | locking => exact .locking
  | refused => exact .refused
  | cached => exact .cached
  | closing ht => exact .closing (ha.finished_kept ht rfl)
  | loaded ht => exact .loaded (ha.finished_kept ht rfl)
  | awaiting ht =>
    obtain ⟨stage, hnext⟩ := ha.uncancelled_kept ht (by
      intro j other he hj hp hf
      subst he
      by_cases hij : i = j
      · subst hij
        cases ha.cancels i _ rfl hnew
      · cases hallowed other _ _ hj hp ht hf i _ hij hold rfl)
    exact .awaiting hnext

theorem Sheltered.calls_step (h : Sheltered s) (ha : Advanced p s e s') (hallowed : Alone s e) {i : Nat}
    {call : Call Key Value} (hstep : CallStep p s e s'.tasks i call) (hc : call.cancelled = false) :
    Undisturbed s' call := by
  cases hstep with
  | refused => exact .refused
  | cached => exact .cached
  | started => exact .locking
  | joined he hi hl =>
    subst he
    cases hc
    obtain ⟨⟨key, stage, cancelling⟩, ht, hkey⟩ := h.mapped.loads _ _ hl
    cases hkey
    cases hallowed _ _ _ hi rfl hl ht
    obtain ⟨stage', hnext⟩ := ha.uncancelled_kept ht (fun _ _ he => nomatch he)
    exact .awaiting hnext
  | opened _ _ hnew =>
    cases hc
    exact .awaiting hnew
  | resumed hi ht hstage =>
    cases hc
    cases h.calls i _ hi rfl with
    | awaiting hawaited =>
      rw [hawaited] at ht
      cases ht
      cases hstage
      exact .closing (ha.finished_kept hawaited rfl)
  | interrupted hi ht hstage =>
    cases hc
    cases h.calls i _ hi rfl with
    | awaiting hawaited =>
      rw [hawaited] at ht
      cases ht
      cases h.cancelled _ _ hawaited hstage
  | returned hi =>
    cases hc
    cases h.calls i _ hi rfl with
    | closing ht => exact .loaded (ha.finished_kept ht rfl)
  | raised hi =>
    cases hc
    cases h.calls i _ hi rfl
  | dropped | released | stopped => cases hc

theorem step_sheltered (h : Sheltered s) (hallowed : Alone s e) (htaken : step p s e = some s') :
    Sheltered s' := by
  have ha := (step_advanced htaken).1
  refine ⟨step_mapped h.mapped ha, ?_, ?_⟩
  · intro t task ht hstage
    rcases ha.tasks t task ht with hold | hstep
    · exact h.cancelled t task hold hstage
    · cases hstep with
      | created | begun | answered | done => cases hstage
      | cancelled | cancelling => rfl
  · intro i call hi hc
    rcases ha.calls i call hi with hold | hstep
    · exact (h.calls i call hold hc).kept ha hallowed hold hi
    · exact h.calls_step ha hallowed hstep hc

theorem initial_sheltered (cache : Cache) : Sheltered ({ cache } : State Key Value Cache Update) where
  mapped := initial_mapped cache
  cancelled _ _ h := by cases h
  calls _ _ h := by cases h

theorem sheltered {cache : Cache} {events : List (Event Key Value Update)}
    (h : Machine.Run (step p) Alone { cache } events s) : Sheltered s :=
  h.invariant (initial_sheltered cache) step_sheltered

/-! ## That it returns -/

/-- The caller whose step it is. -/
def Event.caller : Event Key Value Update → Option Nat
  | .enterLock i | .resume i | .finish i _ | .cancel i => some i
  | _ => none

/-- The call can be brought to its end, and no other caller is needed for it. -/
def Completes (p : Policy Key Value Cache Update) (s : State Key Value Cache Update) (i : Nat) : Prop :=
  ∃ events s', (∀ e ∈ events, ∀ j, e.caller = some j → j = i) ∧ Machine.Run (step p) Alone s events s' ∧
    ∃ call answer, s'.calls[i]? = some call ∧ call.cancelled = false ∧ call.progress = .returned answer

theorem Completes.cons {i : Nat} (htaken : step p s e = some s') (hallowed : Alone s e)
    (hcaller : ∀ j, e.caller = some j → j = i) (h : Completes p s' i) : Completes p s i := by
  obtain ⟨events, last, hcallers, hrun, hend⟩ := h
  refine ⟨e :: events, last, ?_, .cons hallowed htaken hrun, hend⟩
  intro e' hm
  rcases List.mem_cons.mp hm with rfl | hm
  · exact hcaller
  · exact hcallers e' hm

theorem completes_returned {i : Nat} {call : Call Key Value} {answer : Answer Value}
    (hi : s.calls[i]? = some call) (hc : call.cancelled = false) (hp : call.progress = .returned answer) :
    Completes p s i :=
  ⟨[], s, (fun _ h => nomatch h), .nil, call, answer, hi, hc, hp⟩

section Completion
variable {i t : Nat} {key : Key} {startedAt readAt : Nat} {loaded : Loaded Value}

theorem completes_closing (hi : s.calls[i]? = some ⟨key, startedAt, false, .closing t (some loaded)⟩) :
    Completes p s i := by
  have htaken : ∃ s', step p s (.finish i 0) = some s' ∧
      s'.calls = s.calls.set i ⟨key, startedAt, false, .returned (.loaded t loaded)⟩ := by
    simp only [step, act, finish, hi]
    exact ⟨_, rfl, rfl⟩
  obtain ⟨s', htaken, hcalls⟩ := htaken
  have hend : s'.calls[i]? = some ⟨key, startedAt, false, .returned (.loaded t loaded)⟩ := by
    rw [hcalls]
    exact Machine.slot_set_self hi
  exact .cons htaken trivial (fun _ h => (Option.some.inj h).symm) (completes_returned hend rfl rfl)

theorem completes_done (hi : s.calls[i]? = some ⟨key, startedAt, false, .awaiting t⟩)
    (ht : s.tasks[t]? = some ⟨key, .done loaded, false⟩) : Completes p s i := by
  have htaken : step p s (.resume i) =
      some { s.setCall i ⟨key, startedAt, false, .closing t (some loaded)⟩ with clock := s.clock + 1 } := by
    simp [step, act, resume, hi, ht]
  exact .cons htaken trivial (fun _ h => (Option.some.inj h).symm) (completes_closing (Machine.slot_set_self hi))

theorem completes_read (hi : s.calls[i]? = some ⟨key, startedAt, false, .awaiting t⟩)
    (ht : s.tasks[t]? = some ⟨key, .read loaded, false⟩) : Completes p s i := by
  have htaken : step p s (.settle t) =
      some { s.setTask t ⟨key, .done loaded, false⟩ with clock := s.clock + 1 } := by
    simp [step, act, settle, ht, Task.finished]
  exact .cons htaken trivial (fun _ h => nomatch h) (completes_done hi (Machine.slot_set_self ht))

variable [Inhabited Value]

theorem completes_reading (hi : s.calls[i]? = some ⟨key, startedAt, false, .awaiting t⟩)
    (ht : s.tasks[t]? = some ⟨key, .reading readAt, false⟩) : Completes p s i := by
  have htaken : step p s (.answer t default) =
      some { s.setTask t ⟨key, .read ⟨default, readAt⟩, false⟩ with clock := s.clock + 1 } := by
    simp [step, act, answer, ht]
  exact .cons htaken trivial (fun _ h => nomatch h) (completes_read hi (Machine.slot_set_self ht))

theorem completes_awaiting (hs : Sheltered s)
    (hi : s.calls[i]? = some ⟨key, startedAt, false, .awaiting t⟩) : Completes p s i := by
  cases hs.calls i _ hi rfl with
  | @awaiting _ _ _ stage ht =>
    cases stage with
    | created =>
      have htaken : step p s (.begin t) =
          some { s.setTask t ⟨key, .reading s.clock, false⟩ with clock := s.clock + 1 } := by
        simp [step, act, begin, ht]
      exact .cons htaken trivial (fun _ h => nomatch h) (completes_reading hi (Machine.slot_set_self ht))
    | reading readAt => exact completes_reading hi ht
    | read loaded => exact completes_read hi ht
    | done loaded => exact completes_done hi ht
    | cancelled => cases hs.cancelled t _ ht rfl

/-- No caller is left behind: one that may take its next step can be brought to its end. -/
theorem Sheltered.completes (hs : Sheltered s) {call : Call Key Value} (hi : s.calls[i]? = some call)
    (hc : call.cancelled = false) (hjoins : Alone s (.enterLock i)) : Completes p s i := by
  have hu := hs.calls i call hi hc
  cases hu with
  | refused | cached | loaded => exact completes_returned hi rfl rfl
  | closing => exact completes_closing hi
  | awaiting => exact completes_awaiting hs hi
  | @locking key startedAt =>
    have htaken : ∃ s' t, step p s (.enterLock i) = some s' ∧
        s'.calls[i]? = some ⟨key, startedAt, false, .awaiting t⟩ := by
      simp only [step, act, enterLock, hi]
      cases hl : s.loads.lookup key with
      | some t => exact ⟨_, t, rfl, Machine.slot_set_self hi⟩
      | none => exact ⟨_, _, rfl, Machine.slot_set_self hi⟩
    obtain ⟨s', t, htaken, hawaiting⟩ := htaken
    have hs' := step_sheltered hs hjoins htaken
    exact .cons htaken hjoins (fun _ h => (Option.some.inj h).symm) (completes_awaiting hs' hawaiting)

end Completion

/-- In every run of such steps no caller raises but those who are cancelled. -/
def NobodyDisturbed (p : Policy Key Value Cache Update)
    (allowed : State Key Value Cache Update → Event Key Value Update → Prop) : Prop :=
  ∀ cache events s, Machine.Run (step p) allowed { cache } events s →
    ∀ (i : Nat) call, s.calls[i]? = some call → call.cancelled = false → Undisturbed s call

/-- What the callers are promised: one load of a key at a time in every run, and in every run where
no cancellation reaches another caller, that none of those not cancelled raises and each can return. -/
structure SafelyShared (p : Policy Key Value Cache Update) : Prop where
  oneLoad : ∀ (allowed : State Key Value Cache Update → Event Key Value Update → Prop) cache events s,
    Machine.Run (step p) allowed { cache } events s → OneLoad s
  undisturbed : NobodyDisturbed p Alone
  completes : ∀ cache events s, Machine.Run (step p) Alone { cache } events s →
    ∀ (i : Nat) call, s.calls[i]? = some call → call.cancelled = false → Alone s (.enterLock i) →
      Completes p s i

theorem safely_shared [Inhabited Value] (p : Policy Key Value Cache Update) : SafelyShared p where
  oneLoad _ _ _ _ h := (mapped h).oneLoad
  undisturbed _ _ _ h := (sheltered h).calls
  completes _ _ _ h _ _ hi hc hjoins := (sheltered h).completes hi hc hjoins

/-- Two callers miss, the second joins the load of the first, and the first is cancelled. -/
def impatience (key : Key) : List (Event Key Value Update) :=
  [.get key 0, .get key 0, .enterLock 0, .enterLock 1, .begin 0, .cancel 0, .settle 0, .resume 1, .finish 1 0]

end Asyncio.SharedLoad
