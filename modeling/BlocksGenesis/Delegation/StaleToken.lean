import BlocksGenesis.Delegation.TokenSteps

namespace BlocksGenesis.Delegation.TokenProvider
open Python BlocksGenesis.Auth State
open Jwt (Micros)

/-- A token served from the cache has more than the margin left. No served token is from an
exchange that started before an invalidation of its grant that the call started after. -/
structure NoStaleToken (s : State) : Prop where
  margin : ∀ (i : Nat) caller token now, s.calls[i]? = some ⟨caller, .returned (some (.cached token now))⟩ →
    now + seconds tokenRenewalMarginSeconds < token.expiresAt
  renewed : ∀ (i : Nat) caller served n, s.calls[i]? = some ⟨caller, .returned (some served)⟩ →
    (caller.delegationId, n) ∈ s.invalidations → n < caller.startedAt → n < served.token.startedAt

/-- An exchange ends with a token only if its grant was not invalidated since it started. -/
def EndsUninvalidated (out : Outside) (s : State) : Event → Prop
  | .answerExchange i response readAt =>
    ∀ caller lock startedAt request,
      s.calls[i]? = some ⟨caller, .exchanging lock startedAt (.response request)⟩ →
      tokenOf out response readAt ≠ none → ∀ n, (caller.delegationId, n) ∈ s.invalidations → n < startedAt
  | _ => True

/-! ## What a run keeps -/

def CallRenewed (s : State) (call : Call) : Prop :=
  call.caller.startedAt < s.clock ∧
    match call.progress with
    | .exchanging _ startedAt _ => call.caller.startedAt ≤ startedAt
    | .returned (some served) =>
      (∀ n, (call.caller.delegationId, n) ∈ s.invalidations → n < call.caller.startedAt →
        n < served.token.startedAt) ∧
      (∀ token now, served = .cached token now → token.isUsable now = true)
    | _ => True

structure Renewed (s : State) : Prop where
  past : ∀ id n, (id, n) ∈ s.invalidations → n < s.clock
  calls : ∀ (i : Nat) call, s.calls[i]? = some call → CallRenewed s call
  tokens : ∀ id token n, s.tokens.lookup id = some token → (id, n) ∈ s.invalidations → n < token.startedAt

theorem CachedToken.margin_left {token : CachedToken} {now : Micros} (h : token.isUsable now = true) :
    now + seconds tokenRenewalMarginSeconds < token.expiresAt := by
  have hlt : now < token.expiresAt - seconds tokenRenewalMarginSeconds := by
    simpa [CachedToken.isUsable] using h
  exact Int.add_lt_of_lt_sub_right hlt

theorem Renewed.noStaleToken {s : State} (h : Renewed s) : NoStaleToken s where
  margin i _ token now hi := CachedToken.margin_left ((h.calls i _ hi).2.2 token now rfl)
  renewed i _ _ n hi := (h.calls i _ hi).2.1 n

theorem Looks.startedAt {s : State} {e : Event} {i : Nat} {caller : Caller} {now : Micros} (h : Renewed s)
    (hlooks : Looks s e i caller now) : caller.startedAt ≤ s.clock := by
  cases e with
  | getToken flow sweepAt checkAt recheckAt =>
    obtain ⟨_, rfl, _⟩ := hlooks
    exact Nat.le_refl _
  | enterLock call recheckAt =>
    obtain ⟨_, ⟨lock, hcall⟩, _⟩ := hlooks
    exact Nat.le_of_lt (h.calls i _ hcall).1
  | _ => exact hlooks.elim

theorem Makes.startedAt {s : State} {i : Nat} {caller : Caller} (h : Renewed s) (hmakes : Makes s i caller) :
    caller.startedAt ≤ s.clock := by
  rcases hmakes with hnew | ⟨progress, hcall⟩
  · exact Nat.le_of_eq hnew
  · exact Nat.le_of_lt (h.calls i _ hcall).1

/-- A call the step leaves alone started before any invalidation the step makes. -/
theorem CallRenewed.kept {out : Outside} {s s' : State} {e : Event} {call : Call} (h : CallRenewed s call)
    (ha : Advanced out s e s') (hclock : s'.clock = s.clock + 1) : CallRenewed s' call := by
  obtain ⟨caller, progress⟩ := call
  obtain ⟨hstarted, hprogress⟩ := h
  refine ⟨by omega, ?_⟩
  cases progress with
  | waiting lock => trivial
  | exchanging lock startedAt stage => exact hprogress
  | returned served =>
    cases served with
    | none => trivial
    | some served =>
      refine ⟨?_, hprogress.2⟩
      intro n hn hlt
      rcases ha.invalidations _ n hn with hold | ⟨rfl, _⟩
      · exact hprogress.1 n hold hlt
      · exact absurd hlt (Nat.lt_asymm hstarted)

theorem CallStep.renewed {out : Outside} {s s' : State} {e : Event} {i : Nat} {call : Call} (h : Renewed s)
    (ha : Advanced out s e s') (hclock : s'.clock = s.clock + 1) (hcall : CallStep out s e i call) :
    CallRenewed s' call := by
  cases hcall with
  | nothing hmakes => exact ⟨Nat.lt_of_le_of_lt (hmakes.startedAt h) (by omega), trivial⟩
  | waits hmakes => exact ⟨Nat.lt_of_le_of_lt (hmakes.startedAt h) (by omega), trivial⟩
  | began hmakes => exact ⟨Nat.lt_of_le_of_lt (hmakes.startedAt h) (by omega), hmakes.startedAt h⟩
  | found hlooks hl husable =>
    rename_i caller token now
    have hstarted := hlooks.startedAt h
    refine ⟨Nat.lt_of_le_of_lt hstarted (by omega), ?_, ?_⟩
    · intro n hn hlt
      rcases ha.invalidations _ n hn with hold | ⟨rfl, _⟩
      · exact h.tokens _ token n hl hold
      · exact absurd hlt (Nat.not_lt_of_le hstarted)
    · intro found at_ he
      cases he
      exact husable
  | salted hold =>
    obtain ⟨hstarted, hle⟩ := h.calls i _ hold
    exact ⟨Nat.lt_of_lt_of_le hstarted (by omega), hle⟩
  | sent _ _ _ hold =>
    obtain ⟨hstarted, hle⟩ := h.calls i _ hold
    exact ⟨Nat.lt_of_lt_of_le hstarted (by omega), hle⟩
  | exchanged hold =>
    -- its own exchange started after the call did
    obtain ⟨hstarted, hle⟩ := h.calls i _ hold
    refine ⟨Nat.lt_of_lt_of_le hstarted (by omega), ?_, ?_⟩
    · exact fun n _ hlt => Nat.lt_of_lt_of_le hlt hle
    · intro found now he
      cases he

theorem step_renewed {out : Outside} {s s' : State} {e : Event} (h : Renewed s)
    (hends : EndsUninvalidated out s e) (he : step out s e = some s') : Renewed s' := by
  obtain ⟨ha, hclock⟩ := step_advanced he
  refine ⟨?_, ?_, ?_⟩
  · intro id n hn
    rcases ha.invalidations id n hn with hold | ⟨rfl, _⟩
    · have hlt := h.past id n hold
      omega
    · omega
  · intro i call hi
    rcases ha.calls i call hi with hold | hstep
    · exact (h.calls i call hold).kept ha hclock
    · exact hstep.renewed h ha hclock
  · intro id token n hl hn
    rcases ha.invalidations id n hn with hold | ⟨_, hdropped⟩
    · rcases ha.tokens id token hl with hkept | ⟨i, response, readAt, caller, lock, rfl, hcall, htoken, rfl, _⟩
      · exact h.tokens id token n hkept hold
      · apply hends caller lock token.startedAt token.request hcall ?_ n hold
        rw [htoken]
        exact Option.some_ne_none _
    · rw [hdropped] at hl
      cases hl

theorem initial_renewed (time : Micros) : Renewed { time } where
  past id n h := by cases h
  calls i call h := by cases h
  tokens id token n h := by cases h

/-! ## Every run -/

/-- As long as no exchange outlives an invalidation of its grant and still gets a token, no stale
token is served. -/
theorem no_stale_token {out : Outside} {time : Micros} {events : List Event} {s : State}
    (h : Machine.Run (step out) (EndsUninvalidated out) { time } events s) : NoStaleToken s :=
  (h.invariant (initial_renewed time) step_renewed).noStaleToken

def tokenUrl : String := "https://iam/token"

/-- The first call exchanges the grant, the second is served from the cache. -/
theorem no_stale_token_second_caller :
    ∃ s, Machine.Run (step orderOutside) (EndsUninvalidated orderOutside) { time := 0 }
      [.getToken (orderFlow "acme") 0 0 0, .answerTenant 0, .answerEndpoint 0 (.ok tokenUrl) "n1" 0,
        .answerExchange 0 (.ok (200, hourBody)) 0, .getToken (orderFlow "acme") 0 0 0] s ∧
      NoStaleToken s := by
  have hrun : ∃ s, Machine.Run (step orderOutside) (EndsUninvalidated orderOutside) { time := 0 }
      [.getToken (orderFlow "acme") 0 0 0, .answerTenant 0, .answerEndpoint 0 (.ok tokenUrl) "n1" 0,
        .answerExchange 0 (.ok (200, hourBody)) 0, .getToken (orderFlow "acme") 0 0 0] s := by
    refine ⟨_, .cons trivial rfl (.cons trivial rfl (.cons trivial rfl (.cons ?_ rfl
      (.cons trivial rfl .nil))))⟩
    intro caller lock startedAt request _ _ n hn
    cases hn
  obtain ⟨s, hrun⟩ := hrun
  exact ⟨s, hrun, no_stale_token hrun⟩

/-- The message of the grant settles while its exchange is out: the token is cached all the same. -/
theorem stale_token_served :
    ¬ ∀ (events : List Event) (s : State),
      Machine.Run (step orderOutside) (fun _ _ => True) { time := 0 } events s → NoStaleToken s := by
  intro h
  have hrun : Machine.Run (step orderOutside) (fun _ _ => True) { time := 0 }
      [.getToken (orderFlow "acme") 0 0 0, .answerTenant 0, .answerEndpoint 0 (.ok tokenUrl) "n1" 0,
        .invalidate (some orderGrant), .answerExchange 0 (.ok (200, hourBody)) 0,
        .getToken (orderFlow "acme") 0 0 0] _ :=
    Machine.Run.of_exec (fun _ _ _ => trivial) rfl
  have hstale := (h _ _ hrun).renewed 1 _ _ 3 rfl List.mem_cons_self (by decide)
  exact absurd hstale (by decide)

end BlocksGenesis.Delegation.TokenProvider
