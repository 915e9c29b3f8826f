import BlocksGenesis.Delegation.TokenProvider

namespace BlocksGenesis.Delegation.TokenProvider
open Python BlocksGenesis.Auth Asyncio State
open Jwt (Micros)

/-! What one step may make of a call, of the cache and of the record of invalidations. -/

/-- The call looks into the cache, at this reading of the clock. -/
def Looks (s : State) (e : Event) (i : Nat) (caller : Caller) (now : Micros) : Prop :=
  match e with
  | .getToken flow _ checkAt _ =>
    i = s.calls.length ∧ caller = callerOf s flow ∧ caller.tenantId ≠ "" ∧ now = checkAt
  | .enterLock call recheckAt =>
    i = call ∧ (∃ lock, s.calls[i]? = some ⟨caller, .waiting lock⟩) ∧ now = recheckAt
  | _ => False

/-- Either the call starts here or it was there before. -/
def Makes (s : State) (i : Nat) (caller : Caller) : Prop :=
  caller.startedAt = s.clock ∨ ∃ progress, s.calls[i]? = some ⟨caller, progress⟩

/-- What a call that a step changes is afterwards. -/
inductive CallStep (out : Outside) (s : State) (e : Event) (i : Nat) : Call → Prop where
  | nothing {caller} : Makes s i caller → CallStep out s e i ⟨caller, .returned none⟩
  | found {caller token now} : Looks s e i caller now →
      s.tokens.lookup caller.delegationId = some token → token.isUsable now = true →
      CallStep out s e i ⟨caller, .returned (some (.cached token now))⟩
  | waits {caller lock} : Makes s i caller → CallStep out s e i ⟨caller, .waiting lock⟩
  | began {caller lock} : Makes s i caller → CallStep out s e i ⟨caller, .exchanging lock s.clock .tenant⟩
  | salted {caller lock startedAt tenant salt} :
      s.calls[i]? = some ⟨caller, .exchanging lock startedAt .tenant⟩ →
      out.getTenant s.clock caller.tenantId = .ok (some tenant) →
      given (some tenant.tenantSalt) = some salt →
      CallStep out s e i ⟨caller, .exchanging lock startedAt (.endpoint salt)⟩
  | sent {caller lock startedAt salt} (url nonce : String) (ts : Micros) :
      s.calls[i]? = some ⟨caller, .exchanging lock startedAt (.endpoint salt)⟩ →
      CallStep out s e i ⟨caller, .exchanging lock startedAt
        (.response (exchangeRequest out url caller.tenantId caller.delegationId nonce ts salt))⟩
  | exchanged {caller lock token} :
      s.calls[i]? = some ⟨caller, .exchanging lock token.startedAt (.response token.request)⟩ →
      token.tenantId = caller.tenantId → CallStep out s e i ⟨caller, .returned (some (.exchanged token))⟩

/-- The step is the end of an exchange that got the token. -/
def Stored (out : Outside) (s : State) (e : Event) (id : String) (token : CachedToken) : Prop :=
  ∃ i response readAt caller lock, e = .answerExchange i response readAt ∧
    s.calls[i]? = some ⟨caller, .exchanging lock token.startedAt (.response token.request)⟩ ∧
    tokenOf out response readAt = some (token.accessToken, token.expiresAt) ∧
    id = caller.delegationId ∧ token.tenantId = caller.tenantId

/-- Whatever is new after a step, the step accounts for. -/
structure Advanced (out : Outside) (s : State) (e : Event) (s' : State) : Prop where
  calls : ∀ i call, s'.calls[i]? = some call → s.calls[i]? = some call ∨ CallStep out s e i call
  tokens : ∀ id token, s'.tokens.lookup id = some token →
    s.tokens.lookup id = some token ∨ Stored out s e id token
  invalidations : ∀ id n, (id, n) ∈ s'.invalidations →
    (id, n) ∈ s.invalidations ∨ n = s.clock ∧ s'.tokens.lookup id = none

/-! ## The parts of a step -/

theorem lockFor_kept {s next : State} {id : String} {lock : Nat} (he : s.lockFor id = (lock, next)) :
    next.calls = s.calls ∧ next.tokens = s.tokens ∧ next.clock = s.clock ∧
      next.invalidations = s.invalidations := by
  unfold State.lockFor at he
  split at he <;> cases he <;> exact ⟨rfl, rfl, rfl, rfl⟩

theorem sweepKeys_invalidations (keys : List String) (s : State) :
    (keys.foldl sweepKey s).invalidations = s.invalidations := by
  induction keys generalizing s with
  | nil => rfl
  | cons key keys ih => exact ih (s.sweepKey key)

theorem countCall_invalidations (s : State) (now : Micros) :
    (s.countCall now).invalidations = s.invalidations := by
  unfold State.countCall
  dsimp only
  split
  · exact sweepKeys_invalidations _ _
  · rfl

theorem recheck_invalidations (s : State) (i : Nat) (caller : Caller) (lock : Nat) (now : Micros) :
    (s.recheck i caller lock now).invalidations = s.invalidations := by
  unfold State.recheck
  split <;> rfl

theorem recheck_tokens {s : State} {i lock : Nat} {caller : Caller} {now : Micros} {id : String}
    {token : CachedToken} (h : (s.recheck i caller lock now).tokens.lookup id = some token) :
    s.tokens.lookup id = some token := by
  unfold State.recheck at h
  split at h
  · exact h
  · exact (Dict.lookup_pop h).2

/-- Inside the lock a call is served from the cache or starts an exchange. -/
theorem recheck_calls {s : State} {i j lock : Nat} {caller : Caller} {now : Micros} {call : Call}
    (h : (s.recheck i caller lock now).calls[j]? = some call) :
    j ≠ i ∧ s.calls[j]? = some call ∨
      j = i ∧ ((∃ token, s.usableToken caller.delegationId now = some token ∧
          call = ⟨caller, .returned (some (.cached token now))⟩) ∨
        s.usableToken caller.delegationId now = none ∧ call = ⟨caller, .exchanging lock s.clock .tenant⟩) := by
  unfold State.recheck at h
  split at h
  · rename_i token htoken
    rcases Machine.slot_of_set h with ⟨hj, rfl⟩ | hold
    · exact .inr ⟨hj, .inl ⟨token, htoken, rfl⟩⟩
    · exact .inl hold
  · rename_i hnone
    rcases Machine.slot_of_set h with ⟨hj, rfl⟩ | hold
    · exact .inr ⟨hj, .inr ⟨hnone, rfl⟩⟩
    · exact .inl hold

/-- Whoever finds nothing in the cache waits, or starts an exchange: a later look finds no more. -/
theorem askForLock_calls {s : State} {caller : Caller} {recheckAt : Micros} {j : Nat} {call : Call}
    (hmiss : s.usableToken caller.delegationId recheckAt = none)
    (h : (askForLock s caller recheckAt).calls[j]? = some call) :
    s.calls[j]? = some call ∨ ∃ lock, call = ⟨caller, .waiting lock⟩ ∨
      call = ⟨caller, .exchanging lock s.clock .tenant⟩ := by
  unfold askForLock at h
  rcases he : s.lockFor caller.delegationId with ⟨lock, next⟩
  obtain ⟨hcalls, htokens, hclock, _⟩ := lockFor_kept he
  rw [he] at h
  dsimp only at h
  have hpushed : ∀ (k : Nat) (call : Call),
      ((next.setLock lock ((next.lockObjects lock).acquire s.calls.length)).push
        ⟨caller, .waiting lock⟩).calls[k]? = some call →
      s.calls[k]? = some call ∨ call = ⟨caller, .waiting lock⟩ := by
    intro k call hk
    rcases Machine.slot_of_append hk with ⟨_, rfl⟩ | ⟨_, hold⟩
    · exact .inr rfl
    · rw [← hcalls]
      exact .inl hold
  split at h
  · rcases recheck_calls h with ⟨_, hold⟩ | ⟨_, ⟨token, htoken, _⟩ | ⟨_, rfl⟩⟩
    · rcases hpushed j call hold with hold | hw
      · exact .inl hold
      · exact .inr ⟨lock, .inl hw⟩
    · have hfound : s.usableToken caller.delegationId recheckAt = some token := by
        rw [← htoken]
        simp only [State.usableToken, State.push, State.setLock, htokens]
      rw [hmiss] at hfound
      cases hfound
    · exact .inr ⟨lock, .inr (by rw [← hclock]; rfl)⟩
  · rcases hpushed j call h with hold | hw
    · exact .inl hold
    · exact .inr ⟨lock, .inl hw⟩

theorem askForLock_tokens {s : State} {caller : Caller} {recheckAt : Micros} {id : String}
    {token : CachedToken} (h : (askForLock s caller recheckAt).tokens.lookup id = some token) :
    s.tokens.lookup id = some token := by
  unfold askForLock at h
  rcases he : s.lockFor caller.delegationId with ⟨lock, next⟩
  obtain ⟨_, htokens, _⟩ := lockFor_kept he
  rw [he] at h
  dsimp only at h
  rw [← htokens]
  split at h
  · have hl := recheck_tokens h
    exact hl
  · exact h

theorem askForLock_invalidations (s : State) (caller : Caller) (recheckAt : Micros) :
    (askForLock s caller recheckAt).invalidations = s.invalidations := by
  unfold askForLock
  rcases he : s.lockFor caller.delegationId with ⟨lock, next⟩
  obtain ⟨_, _, _, hinvalidations⟩ := lockFor_kept he
  dsimp only
  split
  · exact (recheck_invalidations _ _ _ _ _).trans hinvalidations
  · exact hinvalidations

theorem usableToken_mono {s : State} {id : String} {now later : Micros} (hle : now ≤ later)
    (h : s.usableToken id now = none) : s.usableToken id later = none := by
  cases hlater : s.usableToken id later with
  | none => rfl
  | some token =>
    obtain ⟨hl, husable⟩ := usableToken_some hlater
    have hnow : s.usableToken id now = some token :=
      Option.filter_eq_some_iff.mpr ⟨hl, CachedToken.isUsable_mono hle husable⟩
    rw [h] at hnow
    cases hnow

/-! ## Each step -/

theorem getToken_advanced {out : Outside} {s : State} {flow : Ambient} {sweepAt checkAt recheckAt : Micros}
    (hle : checkAt ≤ recheckAt) :
    Advanced out s (.getToken flow sweepAt checkAt recheckAt) (getToken s flow sweepAt checkAt recheckAt) := by
  have hpruned := countCall_pruned s sweepAt
  have hinvalidations := countCall_invalidations s sweepAt
  unfold getToken
  dsimp only
  split
  · refine ⟨?_, fun _ _ hl => .inl hl, fun _ _ hm => .inl hm⟩
    intro i call hi
    rcases Machine.slot_of_append hi with ⟨_, rfl⟩ | ⟨_, hold⟩
    · exact .inr (.nothing (.inl rfl))
    · exact .inl hold
  · rename_i hnamed
    simp only [Bool.or_eq_true, String.isEmpty_iff, not_or] at hnamed
    split
    · rename_i token htoken
      obtain ⟨hl, husable⟩ := usableToken_some htoken
      refine ⟨?_, fun id token hl => .inl (hpruned.tokens id token hl), ?_⟩
      · intro i call hi
        rcases Machine.slot_of_append hi with ⟨rfl, rfl⟩ | ⟨_, hold⟩
        · rw [hpruned.calls]
          exact .inr (.found ⟨rfl, rfl, hnamed.2, rfl⟩ (hpruned.tokens _ _ hl) husable)
        · rw [hpruned.calls] at hold
          exact .inl hold
      · intro id n hm
        rw [← hinvalidations]
        exact .inl hm
    · rename_i hmiss
      refine ⟨?_, ?_, ?_⟩
      · intro i call hi
        rcases askForLock_calls (usableToken_mono hle hmiss) hi with hold | ⟨lock, rfl | rfl⟩
        · rw [hpruned.calls] at hold
          exact .inl hold
        · exact .inr (.waits (.inl rfl))
        · rw [hpruned.clock]
          exact .inr (.began (.inl rfl))
      · intro id token hl
        exact .inl (hpruned.tokens id token (askForLock_tokens hl))
      · intro id n hm
        rw [askForLock_invalidations, hinvalidations] at hm
        exact .inl hm

theorem enterLock_advanced {out : Outside} {s s' : State} {i : Nat} {recheckAt : Micros}
    (he : enterLock s i recheckAt = some s') : Advanced out s (.enterLock i recheckAt) s' := by
  unfold enterLock at he
  split at he
  · rename_i caller lock hcall
    obtain ⟨held, _, rfl⟩ := Option.map_eq_some_iff.mp he
    refine ⟨?_, ?_, ?_⟩
    · intro j call hj
      rcases recheck_calls hj with ⟨_, hold⟩ | ⟨rfl, ⟨token, htoken, rfl⟩ | ⟨_, rfl⟩⟩
      · exact .inl hold
      · obtain ⟨hl, husable⟩ := usableToken_some htoken
        exact .inr (.found ⟨rfl, ⟨lock, hcall⟩, rfl⟩ hl husable)
      · exact .inr (.began (.inr ⟨_, hcall⟩))
    · intro id token h
      have hl := recheck_tokens h
      exact .inl hl
    · intro id n hm
      rw [recheck_invalidations] at hm
      exact .inl hm
  · cases he

/-- A call that leaves with nothing changes nothing else that counts. -/
theorem leave_advanced {out : Outside} {s : State} {e : Event} {i lock : Nat} {caller : Caller}
    (hcaller : Makes s i caller) : Advanced out s e (s.leave i caller lock none) where
  calls j call hj := by
    rcases Machine.slot_of_set hj with ⟨rfl, rfl⟩ | ⟨_, hold⟩
    · exact .inr (.nothing hcaller)
    · exact .inl hold
  tokens _ _ hl := .inl hl
  invalidations _ _ hm := .inl hm

theorem setCall_advanced {out : Outside} {s : State} {e : Event} {i : Nat} {call : Call}
    (hcall : CallStep out s e i call) : Advanced out s e (s.setCall i call) where
  calls j other hj := by
    rcases Machine.slot_of_set hj with ⟨rfl, rfl⟩ | ⟨_, hold⟩
    · exact .inr hcall
    · exact .inl hold
  tokens _ _ hl := .inl hl
  invalidations _ _ hm := .inl hm

theorem answerTenant_advanced {out : Outside} {s s' : State} {i : Nat}
    (he : answerTenant out s i = some s') : Advanced out s (.answerTenant i) s' := by
  unfold answerTenant at he
  split at he
  · rename_i caller lock startedAt hcall
    split at he
    · cases he
      exact leave_advanced (.inr ⟨_, hcall⟩)
    · rename_i tenant hanswer
      split at he
      · cases he
        exact leave_advanced (.inr ⟨_, hcall⟩)
      · rename_i salt hsalt
        cases he
        obtain ⟨found, rfl, hgiven⟩ := Option.bind_eq_some_iff.mp hsalt
        exact setCall_advanced (.salted hcall hanswer hgiven)
  · cases he

theorem answerEndpoint_advanced {out : Outside} {s s' : State} {i : Nat} {endpoint : Except Exc String}
    {nonce : String} {ts : Micros} (he : answerEndpoint out s i endpoint nonce ts = some s') :
    Advanced out s (.answerEndpoint i endpoint nonce ts) s' := by
  unfold answerEndpoint at he
  split at he
  · rename_i caller lock startedAt salt hcall
    split at he
    · cases he
      exact leave_advanced (.inr ⟨_, hcall⟩)
    · rename_i url
      cases he
      exact setCall_advanced (.sent url nonce ts hcall)
  · cases he

theorem answerExchange_advanced {out : Outside} {s s' : State} {i : Nat}
    {response : Except Exc (Int × String)} {readAt : Micros}
    (he : answerExchange out s i response readAt = some s') :
    Advanced out s (.answerExchange i response readAt) s' := by
  unfold answerExchange at he
  split at he
  · rename_i caller lock startedAt request hcall
    split at he
    · cases he
      exact leave_advanced (.inr ⟨_, hcall⟩)
    · rename_i accessToken expiresAt htoken
      cases he
      refine ⟨?_, ?_, fun _ _ hm => .inl hm⟩
      · intro j call hj
        rcases Machine.slot_of_set hj with ⟨rfl, rfl⟩ | ⟨_, hold⟩
        · exact .inr (.exchanged hcall rfl)
        · exact .inl hold
      · intro id token hl
        change (s.tokens.set caller.delegationId _).lookup id = some token at hl
        rcases Dict.lookup_of_set hl with ⟨rfl, rfl⟩ | ⟨_, hold⟩
        · exact .inr ⟨i, response, readAt, caller, lock, rfl, hcall, htoken, rfl, rfl⟩
        · exact .inl hold
  · cases he

theorem invalidate_advanced {out : Outside} {s : State} {delegationGrantId : Option String} :
    Advanced out s (.invalidate delegationGrantId) (invalidate s delegationGrantId) := by
  unfold invalidate
  split
  · exact ⟨fun _ _ h => .inl h, fun _ _ h => .inl h, fun _ _ h => .inl h⟩
  · rename_i dropped hgiven
    refine ⟨fun _ _ h => .inl h, fun _ _ h => .inl (Dict.lookup_pop h).2, ?_⟩
    intro id n hm
    rcases List.mem_cons.mp hm with hnew | hm
    · cases hnew
      refine .inr ⟨rfl, ?_⟩
      by_contra hfound
      obtain ⟨token, hl⟩ := Option.ne_none_iff_exists'.mp hfound
      exact (Dict.lookup_pop hl).1 rfl
    · exact .inl hm

/-- Every step only does what it accounts for, at its own number. -/
theorem step_advanced {out : Outside} {s s' : State} {e : Event} (he : step out s e = some s') :
    Advanced out s e s' ∧ s'.clock = s.clock + 1 := by
  unfold step at he
  split at he
  · rename_i hsorted
    obtain ⟨next, hact, rfl⟩ := Option.map_eq_some_iff.mp he
    have hnext : Advanced out s e next := by
      cases e with
      | getToken flow sweepAt checkAt recheckAt =>
        cases hact
        apply getToken_advanced
        simp only [Event.readings, List.pairwise_cons] at hsorted
        exact hsorted.2.2.1 recheckAt List.mem_cons_self
      | enterLock i recheckAt => exact enterLock_advanced hact
      | answerTenant i => exact answerTenant_advanced hact
      | answerEndpoint i endpoint nonce ts => exact answerEndpoint_advanced hact
      | answerExchange i response readAt => exact answerExchange_advanced hact
      | invalidate delegationGrantId =>
        cases hact
        exact invalidate_advanced
    exact ⟨⟨hnext.calls, hnext.tokens, hnext.invalidations⟩, rfl⟩
  · cases he

end BlocksGenesis.Delegation.TokenProvider
