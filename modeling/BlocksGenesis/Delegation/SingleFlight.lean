import BlocksGenesis.Delegation.TokenProvider

namespace BlocksGenesis.Delegation.TokenProvider
open Python BlocksGenesis.Auth Asyncio State
open Jwt (Micros)

/-- A call has an exchange for the grant in flight. -/
def InFlight (s : State) (i : Nat) (delegationId : String) : Prop :=
  ∃ caller lock startedAt stage,
    s.calls[i]? = some ⟨caller, .exchanging lock startedAt stage⟩ ∧ caller.delegationId = delegationId

def SingleFlight (s : State) : Prop :=
  ∀ delegationId i j, InFlight s i delegationId → InFlight s j delegationId → i = j

/-! ## Where suspended calls stand -/

/-- A suspended call stands at the lock its grant has in the map. -/
def AtOwnLock (s : State) (i : Nat) (call : Call) : Prop :=
  match call.progress with
  | .waiting lock =>
    s.locks.lookup call.caller.delegationId = some lock ∧ i ∈ (s.lockObjects lock).waiters
  | .exchanging lock _ _ =>
    s.locks.lookup call.caller.delegationId = some lock ∧ (s.lockObjects lock).holder = some i
  | .returned _ => True

/-- Every lock of the map was created. -/
def LocksCreated (s : State) : Prop :=
  ∀ id lock, s.locks.lookup id = some lock → lock < s.lockCount

def OthersAtLocks (s : State) (i : Nat) : Prop :=
  ∀ j call, j ≠ i → s.calls[j]? = some call → AtOwnLock s j call

structure AtLocks (s : State) : Prop where
  created : LocksCreated s
  atLock : ∀ i call, s.calls[i]? = some call → AtOwnLock s i call

theorem AtLocks.others {s : State} (h : AtLocks s) (i : Nat) : OthersAtLocks s i :=
  fun j call _ hj => h.atLock j call hj

/-- Two exchanges for one grant would both hold its one lock. -/
theorem AtLocks.singleFlight {s : State} (h : AtLocks s) : SingleFlight s := by
  intro id i j hi hj
  obtain ⟨caller, lock, startedAt, stage, hci, hid⟩ := hi
  obtain ⟨caller', lock', startedAt', stage', hcj, hid'⟩ := hj
  obtain ⟨hlock, hholder⟩ := h.atLock i _ hci
  obtain ⟨hlock', hholder'⟩ := h.atLock j _ hcj
  have he : lock = lock' := by
    dsimp only at hlock hlock'
    rw [hid] at hlock
    rw [hid', hlock] at hlock'
    exact Option.some.inj hlock'
  subst he
  rw [hholder] at hholder'
  exact Option.some.inj hholder'

/-! ## One lock or one call changes -/

/-- A lock may change as long as the call keeps its place at it. -/
theorem AtOwnLock.setLock {s : State} {j lock : Nat} {call : Call} {value : Lock} (h : AtOwnLock s j call)
    (hkeep : s.locks.lookup call.caller.delegationId = some lock →
      (j ∈ (s.lockObjects lock).waiters → j ∈ value.waiters) ∧
      ((s.lockObjects lock).holder = some j → value.holder = some j)) :
    AtOwnLock (s.setLock lock value) j call := by
  obtain ⟨caller, progress⟩ := call
  cases progress with
  | waiting lock' =>
    obtain ⟨hlock, hm⟩ := h
    refine ⟨hlock, ?_⟩
    by_cases he : lock' = lock
    · subst he
      simpa [State.setLock] using (hkeep hlock).1 hm
    · simpa [State.setLock, he] using hm
  | exchanging lock' startedAt stage =>
    obtain ⟨hlock, hholder⟩ := h
    refine ⟨hlock, ?_⟩
    by_cases he : lock' = lock
    · subst he
      simpa [State.setLock] using (hkeep hlock).2 hholder
    · simpa [State.setLock, he] using hholder
  | returned => trivial

/-- The map may change as long as every lock that is in use stays in it. -/
theorem AtOwnLock.locks {s s' : State} {j : Nat} {call : Call} (h : AtOwnLock s j call)
    (ho : s'.lockObjects = s.lockObjects)
    (hkeep : ∀ lock, s.locks.lookup call.caller.delegationId = some lock → ¬ (s.lockObjects lock).Idle →
      s'.locks.lookup call.caller.delegationId = some lock) : AtOwnLock s' j call := by
  obtain ⟨caller, progress⟩ := call
  cases progress with
  | waiting lock =>
    obtain ⟨hlock, hm⟩ := h
    refine ⟨hkeep lock hlock ?_, by rw [ho]; exact hm⟩
    intro hboth
    obtain ⟨_, hnobody⟩ := hboth
    rw [hnobody] at hm
    cases hm
  | exchanging lock startedAt stage =>
    obtain ⟨hlock, hholder⟩ := h
    refine ⟨hkeep lock hlock ?_, by rw [ho]; exact hholder⟩
    intro hboth
    obtain ⟨hfree, _⟩ := hboth
    rw [hfree] at hholder
    cases hholder
  | returned => trivial

theorem OthersAtLocks.setLock {s : State} {i lock : Nat} {value : Lock} (h : OthersAtLocks s i)
    (hw : ∀ j, j ≠ i → j ∈ (s.lockObjects lock).waiters → j ∈ value.waiters)
    (hh : ∀ j, j ≠ i → (s.lockObjects lock).holder = some j → value.holder = some j) :
    OthersAtLocks (s.setLock lock value) i := by
  intro j call hne hj
  exact (h j call hne hj).setLock (fun _ => ⟨hw j hne, hh j hne⟩)

theorem OthersAtLocks.setCall {s : State} {i : Nat} {call : Call} (hc : LocksCreated s)
    (h : OthersAtLocks s i) (hi : AtOwnLock s i call) : AtLocks (s.setCall i call) where
  created := hc
  atLock j old hj := by
    rcases Machine.slot_of_set hj with ⟨rfl, rfl⟩ | ⟨hne, hold⟩
    · exact hi
    · exact h j old hne hold

/-- The holder leaves. Whoever waits still waits. -/
theorem OthersAtLocks.leave {s : State} {i lock : Nat} (caller : Caller) (served : Option Served)
    (hc : LocksCreated s) (h : OthersAtLocks s i) (hholder : (s.lockObjects lock).holder = some i) :
    AtLocks (s.leave i caller lock served) := by
  have ho : OthersAtLocks (s.setLock lock (s.lockObjects lock).release) i := by
    apply h.setLock
    · exact fun _ _ hm => hm
    · intro j hne hj
      rw [hholder] at hj
      exact absurd (Option.some.inj hj).symm hne
  exact ho.setCall hc trivial

theorem OthersAtLocks.recheck {s : State} {i lock : Nat} {caller : Caller} (now : Micros)
    (hc : LocksCreated s) (h : OthersAtLocks s i)
    (hlock : s.locks.lookup caller.delegationId = some lock)
    (hholder : (s.lockObjects lock).holder = some i) : AtLocks (s.recheck i caller lock now) := by
  unfold State.recheck
  split
  · exact h.leave caller _ hc hholder
  · have ho : OthersAtLocks { s with tokens := s.tokens.pop caller.delegationId } i := h
    exact ho.setCall hc ⟨hlock, hholder⟩

/-! ## Each step -/

theorem AtLocks.push {s : State} (h : AtLocks s) (caller : Caller) (served : Option Served) :
    AtLocks (s.push ⟨caller, .returned served⟩) where
  created := h.created
  atLock i call hi := by
    rcases Machine.slot_of_append hi with ⟨_, rfl⟩ | ⟨_, hold⟩
    · trivial
    · exact h.atLock i call hold

theorem lockFor_atLocks {s next : State} {id : String} {lock : Nat} (h : AtLocks s)
    (he : s.lockFor id = (lock, next)) :
    AtLocks next ∧ next.locks.lookup id = some lock ∧ next.calls = s.calls := by
  unfold State.lockFor at he
  split at he
  · rename_i found hfound
    cases he
    exact ⟨h, hfound, rfl⟩
  · rename_i hnone
    cases he
    refine ⟨⟨?_, ?_⟩, Dict.lookup_set_self, rfl⟩
    · intro other lock hl
      rcases Dict.lookup_of_set hl with ⟨rfl, rfl⟩ | ⟨_, hold⟩
      · exact Nat.lt_succ_self _
      · exact Nat.lt_succ_of_lt (h.created other lock hold)
    · intro j call hj
      have hcall := h.atLock j call hj
      have hlock : AtOwnLock (s.setLock s.lockCount {}) j call := by
        apply hcall.setLock
        intro hl
        exact absurd (h.created _ _ hl) (Nat.lt_irrefl _)
      refine AtOwnLock.locks hlock rfl ?_
      intro lock hl _
      exact Dict.lookup_set_of_new hnone hl

/-- The caller that asks for the lock is the only one that moves. -/
theorem askForLock_atLocks {s : State} (h : AtLocks s) (caller : Caller) (recheckAt : Micros) :
    AtLocks (askForLock s caller recheckAt) := by
  unfold askForLock
  rcases he : s.lockFor caller.delegationId with ⟨lock, next⟩
  obtain ⟨hnext, hlock, hcalls⟩ := lockFor_atLocks h he
  dsimp only
  rw [← hcalls]
  have ho : OthersAtLocks (next.setLock lock ((next.lockObjects lock).acquire next.calls.length))
      next.calls.length := by
    apply (hnext.others _).setLock
    · exact fun _ _ => Lock.acquire_waiters
    · exact fun _ _ => Lock.acquire_holder
  have hpushed : OthersAtLocks ((next.setLock lock ((next.lockObjects lock).acquire next.calls.length)).push
      ⟨caller, .waiting lock⟩) next.calls.length := by
    intro j call hne hj
    rcases Machine.slot_of_append hj with ⟨hlast, _⟩ | ⟨_, hold⟩
    · exact absurd hlast hne
    · exact ho j call hne hold
  split
  · rename_i hholder
    exact hpushed.recheck recheckAt hnext.created hlock hholder
  · rename_i hwaits
    refine ⟨hnext.created, ?_⟩
    intro j call hj
    by_cases hne : j = next.calls.length
    · subst hne
      rcases Machine.slot_of_append hj with ⟨_, rfl⟩ | ⟨hlt, _⟩
      · refine ⟨hlock, ?_⟩
        simp only [State.setLock, State.push, Function.update_self] at hwaits ⊢
        exact Lock.acquire_waits hwaits
      · exact absurd hlt (Nat.lt_irrefl _)
    · exact hpushed j call hne hj

/-! ## What may be dropped -/

theorem AtLocks.pruned {s s' : State} (h : AtLocks s) (hp : Pruned s s')
    (hkeep : ∀ id lock, s.locks.lookup id = some lock → ¬ (s.lockObjects lock).Idle →
      s'.locks.lookup id = some lock) : AtLocks s' where
  created id lock hl := by
    rw [hp.lockCount]
    exact h.created id lock (hp.locks id lock hl)
  atLock i call hi := by
    rw [hp.calls] at hi
    exact (h.atLock i call hi).locks hp.lockObjects (fun lock => hkeep _ lock)

theorem sweepKeys_locks {id : String} {lock : Nat} (keys : List String) (s : State)
    (hl : s.locks.lookup id = some lock) (hlocked : id ∈ keys → (s.lockObjects lock).locked = true) :
    (keys.foldl sweepKey s).locks.lookup id = some lock := by
  induction keys generalizing s with
  | nil => exact hl
  | cons key keys ih =>
    apply ih (s.sweepKey key)
    · unfold sweepKey
      dsimp only
      by_cases hk : id = key
      · subst hk
        rw [hl]
        dsimp only
        rw [if_pos (hlocked List.mem_cons_self)]
        exact hl
      · split
        · split
          · exact hl
          · rw [Dict.lookup_pop_of_ne hk]
            exact hl
        · exact hl
    · exact fun hm => hlocked (List.mem_cons_of_mem _ hm)

/-- A call of this flow gets to the sweep. -/
def Sweeps (s : State) (flow : Ambient) : Prop :=
  (callerOf s flow).delegationId ≠ "" ∧ (callerOf s flow).tenantId ≠ "" ∧
    (s.callCount + 1) % sweepIntervalCalls = 0

/-- The locks this step drops from the map are idle: no one holds them, no one waits. -/
def DropsIdleLocks (s : State) : Event → Prop
  | .getToken flow sweepAt _ _ =>
    Sweeps s flow → ∀ id ∈ s.staleKeys sweepAt, ∀ lock, s.locks.lookup id = some lock →
      (s.lockObjects lock).locked = false → (s.lockObjects lock).waiters = []
  | .invalidate delegationGrantId =>
    ∀ id lock, given delegationGrantId = some id → s.locks.lookup id = some lock →
      (s.lockObjects lock).Idle
  | _ => True

theorem countCall_atLocks {s : State} {now : Micros} (h : AtLocks s)
    (hidle : (s.callCount + 1) % sweepIntervalCalls = 0 → ∀ id ∈ s.staleKeys now, ∀ lock,
      s.locks.lookup id = some lock → (s.lockObjects lock).locked = false →
      (s.lockObjects lock).waiters = []) : AtLocks (s.countCall now) := by
  apply h.pruned (countCall_pruned s now)
  intro id lock hl hbusy
  unfold countCall
  dsimp only
  split
  · rename_i hsweep
    refine sweepKeys_locks (s.staleKeys now) _ hl ?_
    intro hm
    by_contra hlocked
    have hfree := (Bool.not_eq_true _).mp hlocked
    apply hbusy
    refine ⟨?_, hidle (beq_iff_eq.mp hsweep) id hm lock hl hfree⟩
    simpa [Lock.locked] using hfree
  · exact hl

theorem getToken_atLocks {s : State} {flow : Ambient} {sweepAt checkAt recheckAt : Micros} (h : AtLocks s)
    (hidle : DropsIdleLocks s (.getToken flow sweepAt checkAt recheckAt)) :
    AtLocks (getToken s flow sweepAt checkAt recheckAt) := by
  unfold getToken
  dsimp only
  split
  · exact h.push _ _
  · rename_i hnamed
    simp only [Bool.or_eq_true, String.isEmpty_iff, not_or] at hnamed
    have hcounted := countCall_atLocks h (fun hs => hidle ⟨hnamed.1, hnamed.2, hs⟩)
    split
    · exact hcounted.push _ _
    · exact askForLock_atLocks hcounted _ _

theorem enterLock_atLocks {s s' : State} {i : Nat} {recheckAt : Micros} (h : AtLocks s)
    (he : enterLock s i recheckAt = some s') : AtLocks s' := by
  unfold enterLock at he
  split at he
  · rename_i caller lock hcall
    obtain ⟨held, hwake, rfl⟩ := Option.map_eq_some_iff.mp he
    obtain ⟨rest, hlock, rfl⟩ := Lock.wake_some hwake
    have ho : OthersAtLocks (s.setLock lock ⟨some i, rest⟩) i := by
      apply (h.others i).setLock
      · intro j hne hm
        rw [hlock] at hm
        exact (List.mem_cons.mp hm).resolve_left hne
      · intro j _ hj
        rw [hlock] at hj
        cases hj
    have hholder : ((s.setLock lock ⟨some i, rest⟩).lockObjects lock).holder = some i := by
      simp [State.setLock]
    exact OthersAtLocks.recheck (s := s.setLock lock ⟨some i, rest⟩) recheckAt h.created ho
      (h.atLock i _ hcall).1 hholder
  · cases he

/-- A call that has an exchange in flight moves: on to the next stage, or out of the lock. -/
theorem AtLocks.exchange {s s' : State} {i lock startedAt : Nat} {caller : Caller} {stage : Stage}
    (h : AtLocks s) (hcall : s.calls[i]? = some ⟨caller, .exchanging lock startedAt stage⟩)
    (hs : (∃ served, s' = s.leave i caller lock served) ∨
      ∃ next, s' = s.setCall i ⟨caller, .exchanging lock startedAt next⟩) : AtLocks s' := by
  have hat := h.atLock i _ hcall
  rcases hs with ⟨served, rfl⟩ | ⟨next, rfl⟩
  · exact (h.others i).leave caller served h.created hat.2
  · exact (h.others i).setCall h.created hat

theorem answerTenant_atLocks {out : Outside} {s s' : State} {i : Nat} (h : AtLocks s)
    (he : answerTenant out s i = some s') : AtLocks s' := by
  unfold answerTenant at he
  split at he
  · rename_i caller lock startedAt hcall
    apply h.exchange hcall
    split at he
    · cases he
      exact .inl ⟨_, rfl⟩
    · split at he
      · cases he
        exact .inl ⟨_, rfl⟩
      · cases he
        exact .inr ⟨_, rfl⟩
  · cases he

theorem answerEndpoint_atLocks {out : Outside} {s s' : State} {i : Nat} {endpoint : Except Exc String}
    {nonce : String} {ts : Micros} (h : AtLocks s)
    (he : answerEndpoint out s i endpoint nonce ts = some s') : AtLocks s' := by
  unfold answerEndpoint at he
  split at he
  · rename_i caller lock startedAt salt hcall
    apply h.exchange hcall
    split at he
    · cases he
      exact .inl ⟨_, rfl⟩
    · cases he
      exact .inr ⟨_, rfl⟩
  · cases he

theorem answerExchange_atLocks {out : Outside} {s s' : State} {i : Nat}
    {response : Except Exc (Int × String)} {readAt : Micros} (h : AtLocks s)
    (he : answerExchange out s i response readAt = some s') : AtLocks s' := by
  unfold answerExchange at he
  split at he
  · rename_i caller lock startedAt request hcall
    have hat := h.atLock i _ hcall
    split at he
    · cases he
      exact (h.others i).leave caller _ h.created hat.2
    · cases he
      exact OthersAtLocks.leave (s := { s with tokens := s.tokens.set caller.delegationId _ }) caller _
        h.created (h.others i) hat.2
  · cases he

theorem invalidate_atLocks {s : State} {delegationGrantId : Option String} (h : AtLocks s)
    (hidle : DropsIdleLocks s (.invalidate delegationGrantId)) : AtLocks (invalidate s delegationGrantId) := by
  apply h.pruned (invalidate_pruned s delegationGrantId)
  intro id lock hl hbusy
  unfold invalidate
  split
  · exact hl
  · rename_i dropped hgiven
    apply (Dict.lookup_pop_of_ne ?_).trans hl
    rintro rfl
    exact hbusy (hidle _ _ hgiven hl)

theorem act_atLocks {out : Outside} {s s' : State} {e : Event} (h : AtLocks s) (hidle : DropsIdleLocks s e)
    (he : act out s e = some s') : AtLocks s' := by
  cases e with
  | getToken flow sweepAt checkAt recheckAt =>
    cases he
    exact getToken_atLocks h hidle
  | enterLock i recheckAt => exact enterLock_atLocks h he
  | answerTenant i => exact answerTenant_atLocks h he
  | answerEndpoint i endpoint nonce ts => exact answerEndpoint_atLocks h he
  | answerExchange i response readAt => exact answerExchange_atLocks h he
  | invalidate delegationGrantId =>
    cases he
    exact invalidate_atLocks h hidle

theorem step_atLocks {out : Outside} {s s' : State} {e : Event} (h : AtLocks s) (hidle : DropsIdleLocks s e)
    (he : step out s e = some s') : AtLocks s' := by
  unfold step at he
  split at he
  · obtain ⟨next, hact, rfl⟩ := Option.map_eq_some_iff.mp he
    have hnext := act_atLocks h hidle hact
    exact ⟨hnext.created, hnext.atLock⟩
  · cases he

theorem initial_atLocks (time : Micros) : AtLocks { time } := by
  constructor
  · intro id lock h
    cases h
  · intro i call h
    cases h

/-! ## Every run -/

/-- As long as only idle locks are dropped, one exchange at most is in flight for each grant. -/
theorem single_flight {out : Outside} {time : Micros} {events : List Event} {s : State}
    (h : Machine.Run (step out) DropsIdleLocks { time } events s) : SingleFlight s :=
  (h.invariant (initial_atLocks time) step_atLocks).singleFlight

/-- Two callers of one grant, and one exchange. -/
theorem single_flight_two_callers :
    ∃ s, Machine.Run (step orderOutside) DropsIdleLocks { time := 0 }
      [.getToken (orderFlow "acme") 0 0 0, .getToken (orderFlow "acme") 0 0 0] s ∧ SingleFlight s := by
  have hrun : ∃ s, Machine.Run (step orderOutside) DropsIdleLocks { time := 0 }
      [.getToken (orderFlow "acme") 0 0 0, .getToken (orderFlow "acme") 0 0 0] s := by
    refine ⟨_, .cons ?_ rfl (.cons ?_ rfl .nil)⟩
    · exact fun hsweeps => absurd hsweeps.2.2 (by decide)
    · exact fun hsweeps => absurd hsweeps.2.2 (by decide)
  obtain ⟨s, hrun⟩ := hrun
  exact ⟨s, hrun, single_flight hrun⟩

/-- A message of the grant settles while the first caller's exchange is out. -/
theorem two_exchanges_in_flight :
    ¬ ∀ (events : List Event) (s : State),
      Machine.Run (step orderOutside) (fun _ _ => True) { time := 0 } events s → SingleFlight s := by
  intro h
  have hrun : Machine.Run (step orderOutside) (fun _ _ => True) { time := 0 }
      [.getToken (orderFlow "acme") 0 0 0, .invalidate (some orderGrant), .getToken (orderFlow "acme") 0 0 0] _ :=
    Machine.Run.of_exec (fun _ _ _ => trivial) rfl
  have hsame := h _ _ hrun orderGrant 0 1 ⟨_, _, _, _, rfl, rfl⟩ ⟨_, _, _, _, rfl, rfl⟩
  cases hsame

end BlocksGenesis.Delegation.TokenProvider
