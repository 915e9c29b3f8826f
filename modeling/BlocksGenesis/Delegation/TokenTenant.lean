import BlocksGenesis.Delegation.StaleToken

namespace BlocksGenesis.Delegation.TokenProvider
open Python BlocksGenesis.Auth State
open Jwt (Micros)

/-! ## The headers of an outbound call -/

/-- `delegated_auth_headers`, given what `get_token_async` returns if it is asked. -/
def delegatedAuthHeaders (rt : Runtime) (existing : Option (Dict String String)) (flow : Ambient)
    (token : Option String) : Dict String String :=
  let headers := existing.getD []
  if headers.any (fun header => rt.lower header.1 == "authorization") then headers
  else if (given flow.grant).isNone then headers
  else
    match given token with
    | none => headers
    | some token =>
      let headers := headers.set "Authorization" ("Bearer " ++ token)
      match given (flow.context.map BlocksContext.tenantId) with
      | none => headers
      | some tenantId =>
        if headers.any (fun header => rt.lower header.1 == blocksKeyHeader) then headers
        else headers.set blocksKeyHeader tenantId

theorem delegatedAuthHeaders_unchanged {rt : Runtime} {existing : Option (Dict String String)}
    (flow : Ambient) (token : Option String)
    (h : (existing.getD []).any (fun header => rt.lower header.1 == "authorization") = true) :
    delegatedAuthHeaders rt existing flow token = existing.getD [] := by
  unfold delegatedAuthHeaders
  exact if_pos h

/-- An `Authorization` header that was not there holds the token of the call. -/
theorem delegatedAuthHeaders_attached {rt : Runtime} {existing : Option (Dict String String)}
    {flow : Ambient} {token : Option String} {value : String}
    (h : (delegatedAuthHeaders rt existing flow token).lookup "Authorization" = some value)
    (hnew : (existing.getD []).lookup "Authorization" ≠ some value) :
    ∃ t, token = some t ∧ value = "Bearer " ++ t := by
  unfold delegatedAuthHeaders at h
  dsimp only at h
  split at h
  · exact absurd h hnew
  split at h
  · exact absurd h hnew
  split at h
  · exact absurd h hnew
  · rename_i t ht
    have hvalue : value = "Bearer " ++ t := by
      split at h
      · rw [Dict.lookup_set_self] at h
        exact (Option.some.inj h).symm
      · split at h
        · rw [Dict.lookup_set_self] at h
          exact (Option.some.inj h).symm
        · rw [Dict.lookup_set_of_ne (by decide), Dict.lookup_set_self] at h
          exact (Option.some.inj h).symm
    refine ⟨t, ?_, hvalue⟩
    cases token with
    | none => cases ht
    | some text =>
      simp only [given] at ht
      split at ht <;> cases ht
      rfl

/-! ## Whose salt signed the exchange -/

/-- The request was sent under the tenant's key and signed with a salt the tenant service gave. -/
def SignedFor (out : Outside) (tenantId delegationId : String) (request : ExchangeRequest) : Prop :=
  ∃ clock tenant salt endpoint nonce ts, out.getTenant clock tenantId = .ok (some tenant) ∧
    given (some tenant.tenantSalt) = some salt ∧
    request = exchangeRequest out endpoint tenantId delegationId nonce ts salt

theorem SignedFor.blocksKey {out : Outside} {tenantId delegationId : String} {request : ExchangeRequest}
    (h : SignedFor out tenantId delegationId request) : request.headers = [(blocksKeyHeader, tenantId)] := by
  obtain ⟨clock, tenant, salt, endpoint, nonce, ts, _, _, rfl⟩ := h
  rfl

/-- A token a call finds in the cache was exchanged for the tenant of that call's own flow. -/
def FindsOwnTenant (s : State) (e : Event) : Prop :=
  ∀ i caller now token, Looks s e i caller now → s.tokens.lookup caller.delegationId = some token →
    token.isUsable now = true → token.tenantId = caller.tenantId

def CallSigned (out : Outside) (call : Call) : Prop :=
  match call.progress with
  | .exchanging _ _ (.endpoint salt) =>
    ∃ clock tenant, out.getTenant clock call.caller.tenantId = .ok (some tenant) ∧
      given (some tenant.tenantSalt) = some salt
  | .exchanging _ _ (.response request) =>
    SignedFor out call.caller.tenantId call.caller.delegationId request
  | .returned (some served) =>
    SignedFor out call.caller.tenantId call.caller.delegationId served.token.request
  | _ => True

structure Signed (out : Outside) (s : State) : Prop where
  calls : ∀ (i : Nat) call, s.calls[i]? = some call → CallSigned out call
  tokens : ∀ id token, s.tokens.lookup id = some token → SignedFor out token.tenantId id token.request

theorem CallStep.signed {out : Outside} {s : State} {e : Event} {i : Nat} {call : Call} (h : Signed out s)
    (hown : FindsOwnTenant s e) (hcall : CallStep out s e i call) : CallSigned out call := by
  cases hcall with
  | nothing hmakes => trivial
  | waits hmakes => trivial
  | began hmakes => trivial
  | found hlooks hl husable =>
    rename_i caller token now
    have hsigned := h.tokens _ token hl
    rw [hown i caller now token hlooks hl husable] at hsigned
    exact hsigned
  | salted hold htenant hsalt => exact ⟨_, _, htenant, hsalt⟩
  | sent url nonce ts hold =>
    obtain ⟨clock, tenant, htenant, hsalt⟩ := h.calls i _ hold
    exact ⟨clock, tenant, _, url, nonce, ts, htenant, hsalt, rfl⟩
  | exchanged hold htenant =>
    have hsigned := h.calls i _ hold
    exact hsigned

theorem step_signed {out : Outside} {s s' : State} {e : Event} (h : Signed out s) (hown : FindsOwnTenant s e)
    (he : step out s e = some s') : Signed out s' := by
  obtain ⟨ha, _⟩ := step_advanced he
  refine ⟨?_, ?_⟩
  · intro i call hi
    rcases ha.calls i call hi with hold | hstep
    · exact h.calls i call hold
    · exact hstep.signed h hown
  · intro id token hl
    rcases ha.tokens id token hl with hkept | ⟨i, response, readAt, caller, lock, _, hcall, _, rfl, htenant⟩
    · exact h.tokens id token hkept
    · rw [htenant]
      exact h.calls i _ hcall

/-! ## Every run -/

/-- What a call of `delegated_auth_headers` returns, once its `get_token_async` has returned. -/
def headersOf (rt : Runtime) (existing : Option (Dict String String)) (caller : Caller)
    (served : Option Served) : Dict String String :=
  delegatedAuthHeaders rt existing caller.flow (served.map (fun served => served.token.accessToken))

/-- Every attached token was exchanged under the key and the salt of the caller's own tenant, and a
header the caller set is left alone. -/
structure TokensStayInTenant (out : Outside) (s : State) : Prop where
  attached : ∀ (i : Nat) caller served existing value, s.calls[i]? = some ⟨caller, .returned served⟩ →
    (headersOf out.runtime existing caller served).lookup "Authorization" = some value →
    (existing.getD []).lookup "Authorization" ≠ some value →
    ∃ token, served.map Served.token = some token ∧ value = "Bearer " ++ token.accessToken ∧
      SignedFor out caller.tenantId caller.delegationId token.request
  unchanged : ∀ caller served existing,
    (existing.getD []).any (fun header => out.runtime.lower header.1 == "authorization") = true →
    headersOf out.runtime existing caller served = existing.getD []

theorem Signed.staysInTenant {out : Outside} {s : State} (h : Signed out s) : TokensStayInTenant out s where
  attached i caller served existing value hi hvalue hnew := by
    obtain ⟨t, ht, hbearer⟩ := delegatedAuthHeaders_attached hvalue hnew
    cases served with
    | none => cases ht
    | some served =>
      cases ht
      exact ⟨served.token, rfl, hbearer, h.calls i _ hi⟩
  unchanged caller _ _ hset := delegatedAuthHeaders_unchanged caller.flow _ hset

/-- As long as no call finds a token of another tenant in the cache, tokens stay in their tenant. -/
theorem tokens_stay_in_tenant {out : Outside} {time : Micros} {events : List Event} {s : State}
    (h : Machine.Run (step out) FindsOwnTenant { time } events s) : TokensStayInTenant out s := by
  apply Signed.staysInTenant
  apply h.invariant _ step_signed
  constructor
  · intro i call hi
    cases hi
  · intro id token hl
    cases hl

/-- One flow of acme calls out twice. -/
theorem tokens_stay_in_acme :
    ∃ s, Machine.Run (step orderOutside) FindsOwnTenant { time := 0 }
      [.getToken (orderFlow "acme") 0 0 0, .answerTenant 0, .answerEndpoint 0 (.ok tokenUrl) "n1" 0,
        .answerExchange 0 (.ok (200, hourBody)) 0, .getToken (orderFlow "acme") 0 0 0] s ∧
      TokensStayInTenant orderOutside s := by
  have hrun : ∃ s, Machine.Run (step orderOutside) FindsOwnTenant { time := 0 }
      [.getToken (orderFlow "acme") 0 0 0, .answerTenant 0, .answerEndpoint 0 (.ok tokenUrl) "n1" 0,
        .answerExchange 0 (.ok (200, hourBody)) 0, .getToken (orderFlow "acme") 0 0 0] s := by
    refine ⟨_, .cons ?_ rfl (.cons ?_ rfl (.cons ?_ rfl (.cons ?_ rfl (.cons ?_ rfl .nil))))⟩
    · rintro i caller now token ⟨_, rfl, _⟩ hl _
      cases hl
    · exact fun _ _ _ _ hlooks => hlooks.elim
    · exact fun _ _ _ _ hlooks => hlooks.elim
    · exact fun _ _ _ _ hlooks => hlooks.elim
    · rintro i caller now token ⟨_, rfl, _⟩ hl _
      cases hl
      rfl
  obtain ⟨s, hrun⟩ := hrun
  exact ⟨s, hrun, tokens_stay_in_tenant hrun⟩

/-- A flow of globex that holds the grant is served the token that was exchanged for acme. -/
theorem token_crosses_tenants :
    ¬ ∀ (events : List Event) (s : State),
      Machine.Run (step orderOutside) (fun _ _ => True) { time := 0 } events s →
      TokensStayInTenant orderOutside s := by
  intro h
  have hrun : Machine.Run (step orderOutside) (fun _ _ => True) { time := 0 }
      [.getToken (orderFlow "acme") 0 0 0, .answerTenant 0, .answerEndpoint 0 (.ok tokenUrl) "n1" 0,
        .answerExchange 0 (.ok (200, hourBody)) 0, .getToken (orderFlow "globex") 0 0 0] _ :=
    Machine.Run.of_exec (fun _ _ _ => trivial) rfl
  obtain ⟨token, htoken, _, hsigned⟩ :=
    (h _ _ hrun).attached 1 _ _ none "Bearer t1" rfl (by decide) (by decide)
  cases htoken
  exact absurd hsigned.blocksKey (by decide)

end BlocksGenesis.Delegation.TokenProvider
