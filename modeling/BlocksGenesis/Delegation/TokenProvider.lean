import BlocksGenesis.Asyncio.Lock
import BlocksGenesis.Auth.Jwt
import BlocksGenesis.Auth.Request
import BlocksGenesis.Delegation.Grant
import BlocksGenesis.Machine.Run
import BlocksGenesis.Machine.Slots
import BlocksGenesis.Python.Dict
import Mathlib.Logic.Function.Basic

namespace BlocksGenesis.Delegation.TokenProvider
open Python BlocksGenesis.Auth Asyncio
open Jwt (Micros)

/-! ## The exchange -/

def sweepIntervalCalls : Nat := 64

def tokenRenewalMarginSeconds : Int := 60

def seconds (n : Int) : Micros := n * 1000000

def blocksKeyHeader : String := "x-blocks-key"

/-- What of an exchange is left open: `int` of a text, HMAC-SHA256 over an input under a salt, and
what the tenant service answers at each step. -/
structure Outside where
  runtime : Runtime
  parseInt : String → Option Int
  compute : String → String → String
  getTenant : Nat → String → Except Exc (Option Tenant)

/-- The pipe-delimited signature input. -/
def buildSignatureInput (tenantId delegationId nonce : String) (ts : Int) : String :=
  tenantId ++ "|" ++ delegationId ++ "|" ++ nonce ++ "|" ++ toString ts

def sign (out : Outside) (tenantId delegationId nonce : String) (ts : Int) (tenantSalt : String) : String :=
  out.compute (buildSignatureInput tenantId delegationId nonce ts) tenantSalt

structure ExchangeRequest where
  endpoint : String
  form : List (String × String)
  headers : List (String × String)
deriving DecidableEq, Repr

def exchangeRequest (out : Outside) (endpoint tenantId delegationId nonce : String) (now : Micros)
    (salt : String) : ExchangeRequest :=
  let ts := now.tdiv 1000000
  { endpoint
    form := [("grant_type", "urn:ietf:params:oauth:grant-type:token-exchange"),
      ("subject_token", delegationId),
      ("subject_token_type", "urn:blocks:params:oauth:token-type:delegation-grant"),
      ("nonce", nonce), ("ts", toString ts), ("sig", sign out tenantId delegationId nonce ts salt)]
    headers := [(blocksKeyHeader, tenantId)] }

/-- `int(value)`. -/
def intOf (out : Outside) : Json → Except Exc Int
  | .int n => .ok n
  | .bool b => .ok (if b then 1 else 0)
  | .float x =>
    match x.whole with
    | some n => .ok n
    | none => .error (if x.repr == "nan" then .valueError "cannot convert float NaN to integer" else .overflow)
  | .str s =>
    match out.parseInt s with
    | some n => .ok n
    | none => .error (.valueError "invalid literal for int() with base 10")
  | _ => .error (.typeError "int() argument must be a string, a bytes-like object or a real number")

/-- The first of the names that is there. -/
def firstOf (payload : Json) : List String → Except Exc Json
  | [] => .ok .null
  | name :: names => do
    match ← payloadItem payload name with
    | some value => return value
    | none => firstOf payload names

/-- The lifetime a response gives, twice the renewal margin when it gives none. -/
def lifetimeSeconds (out : Outside) (expiresIn : Json) : Except Exc Int := do
  let lifetime ← match intOf out expiresIn with
    | .ok n => pure n
    | .error (.typeError _) => pure 0
    | .error e => if e.isValueError then pure 0 else throw e
  return if lifetime ≤ 0 then tokenRenewalMarginSeconds * 2 else lifetime

/-- From `(2 ^ 54 - 1) * 2 ^ 970` on an int is rounded past the largest float. -/
def firstPastFloats : Nat := (2 ^ 54 - 1) * (2 ^ 194) ^ 5

/-- `time + n`, where the int becomes a float first. -/
def addSeconds (time : Micros) (n : Int) : Except Exc Micros :=
  if firstPastFloats ≤ n.natAbs then .error .overflow else .ok (time + seconds n)

/-- The access token of a response and when it expires, if there is one. -/
def readToken (out : Outside) (body : String) (now : Micros) : Except Exc (Option (String × Micros)) :=
  match out.runtime.loads body with
  | .error _ => .ok none
  | .ok payload => do
    let accessToken ← firstOf payload ["access_token", "accessToken", "AccessToken"]
    if !accessToken.truthy then return none
    let expiresIn ← firstOf payload ["expires_in", "expiresIn", "ExpiresIn"]
    let lifetime ← lifetimeSeconds out expiresIn
    let expiresAt ← addSeconds now lifetime
    return some (accessToken.toStr out.runtime, expiresAt)

/-! ## The provider -/

/-- A cached token. The last three fields are kept for the proofs alone: the exchange it is from,
by the tenant of the call that made it, the step it started at and the request sent. -/
structure CachedToken where
  accessToken : String
  expiresAt : Micros
  tenantId : String
  startedAt : Nat
  request : ExchangeRequest
deriving DecidableEq, Repr

/-- Servable until one minute before expiry. -/
def CachedToken.isUsable (token : CachedToken) (now : Micros) : Bool :=
  now < token.expiresAt - seconds tokenRenewalMarginSeconds

/-- Where an exchange is suspended: the tenant is asked for, the endpoint is, or the request is out. -/
inductive Stage where
  | tenant
  | endpoint (salt : String)
  | response (request : ExchangeRequest)

/-- A token a call returns: one found in the cache at some reading of the clock, or one its own
exchange got. -/
inductive Served where
  | cached (token : CachedToken) (now : Micros)
  | exchanged (token : CachedToken)

def Served.token : Served → CachedToken
  | .cached token _ => token
  | .exchanged token => token

/-- Who calls `get_token_async`: the flow, and the step the call started at. -/
structure Caller where
  flow : Ambient
  startedAt : Nat

def Caller.delegationId (caller : Caller) : String := caller.flow.grant.getD ""

def Caller.tenantId (caller : Caller) : String := (caller.flow.context.map BlocksContext.tenantId).getD ""

inductive Progress where
  | waiting (lock : Nat)
  | exchanging (lock startedAt : Nat) (stage : Stage)
  | returned (served : Option Served)

structure Call where
  caller : Caller
  progress : Progress

/-- The provider and the calls made of it. Lock objects are numbered as they are created. The clock
counts the steps, `time` is the last reading of `time.time`. -/
structure State where
  tokens : Dict String CachedToken := []
  locks : Dict String Nat := []
  callCount : Nat := 0
  lockObjects : Nat → Lock := fun _ => {}
  lockCount : Nat := 0
  calls : List Call := []
  time : Micros := 0
  clock : Nat := 0
  invalidations : List (String × Nat) := []

/-- One step of anything: a call starts, or goes on where it was suspended, or a message settles.
The times are the readings of the clock the step makes, in order. -/
inductive Event where
  | getToken (flow : Ambient) (sweepAt checkAt recheckAt : Micros)
  | enterLock (call : Nat) (recheckAt : Micros)
  | answerTenant (call : Nat)
  | answerEndpoint (call : Nat) (endpoint : Except Exc String) (nonce : String) (ts : Micros)
  | answerExchange (call : Nat) (response : Except Exc (Int × String)) (readAt : Micros)
  | invalidate (delegationGrantId : Option String)

def Event.readings : Event → List Micros
  | .getToken _ sweepAt checkAt recheckAt => [sweepAt, checkAt, recheckAt]
  | .enterLock _ recheckAt => [recheckAt]
  | .answerEndpoint _ _ _ ts => [ts]
  | .answerExchange _ _ readAt => [readAt]
  | .answerTenant _ | .invalidate _ => []

namespace State

def setLock (s : State) (lock : Nat) (value : Lock) : State :=
  { s with lockObjects := Function.update s.lockObjects lock value }

def setCall (s : State) (i : Nat) (call : Call) : State := { s with calls := s.calls.set i call }

def push (s : State) (call : Call) : State := { s with calls := s.calls ++ [call] }

/-- The cached token of a grant, if it may still be served. -/
def usableToken (s : State) (delegationId : String) (now : Micros) : Option CachedToken :=
  (s.tokens.lookup delegationId).filter (fun token => token.isUsable now)

/-- A stale key of the sweep. Only an unlocked lock is dropped. -/
def sweepKey (s : State) (key : String) : State :=
  { s with
    tokens := s.tokens.pop key
    locks :=
      match s.locks.lookup key with
      | some lock => if (s.lockObjects lock).locked then s.locks else s.locks.pop key
      | none => s.locks }

def staleKeys (s : State) (now : Micros) : List String :=
  (s.tokens.filter (fun entry => !entry.2.isUsable now)).map Prod.fst

def sweepExpired (s : State) (now : Micros) : State := (s.staleKeys now).foldl sweepKey s

def countCall (s : State) (now : Micros) : State :=
  let counted := { s with callCount := s.callCount + 1 }
  if counted.callCount % sweepIntervalCalls == 0 then counted.sweepExpired now else counted

/-- The lock of a grant, `setdefault`. -/
def lockFor (s : State) (delegationId : String) : Nat × State :=
  match s.locks.lookup delegationId with
  | some lock => (lock, s)
  | none =>
    (s.lockCount,
      { s.setLock s.lockCount {} with
        locks := s.locks.set delegationId s.lockCount
        lockCount := s.lockCount + 1 })

/-- The call leaves the lock with its result. -/
def leave (s : State) (i : Nat) (caller : Caller) (lock : Nat) (served : Option Served) : State :=
  (s.setLock lock (s.lockObjects lock).release).setCall i ⟨caller, .returned served⟩

/-- Just inside the lock: look again, and start an exchange if there is still nothing to serve. -/
def recheck (s : State) (i : Nat) (caller : Caller) (lock : Nat) (now : Micros) : State :=
  match s.usableToken caller.delegationId now with
  | some token => s.leave i caller lock (some (.cached token now))
  | none =>
    { s with tokens := s.tokens.pop caller.delegationId }.setCall i
      ⟨caller, .exchanging lock s.clock .tenant⟩

end State

open State

def callerOf (s : State) (flow : Ambient) : Caller := { flow, startedAt := s.clock }

/-- Ask for the lock of the grant, and go on inside it when it is free. -/
def askForLock (s : State) (caller : Caller) (recheckAt : Micros) : State :=
  let i := s.calls.length
  let (lock, s) := s.lockFor caller.delegationId
  let s := (s.setLock lock ((s.lockObjects lock).acquire i)).push ⟨caller, .waiting lock⟩
  if (s.lockObjects lock).holder = some i then s.recheck i caller lock recheckAt else s

/-- `get_token_async` up to where it is first suspended, if it is. -/
def getToken (s : State) (flow : Ambient) (sweepAt checkAt recheckAt : Micros) : State :=
  let caller := callerOf s flow
  if caller.delegationId.isEmpty || caller.tenantId.isEmpty then s.push ⟨caller, .returned none⟩
  else
    let s := s.countCall sweepAt
    match s.usableToken caller.delegationId checkAt with
    | some token => s.push ⟨caller, .returned (some (.cached token checkAt))⟩
    | none => askForLock s caller recheckAt

/-- A waiting call gets the lock. -/
def enterLock (s : State) (i : Nat) (recheckAt : Micros) : Option State :=
  match s.calls[i]? with
  | some ⟨caller, .waiting lock⟩ =>
    ((s.lockObjects lock).wake i).map (fun held => (s.setLock lock held).recheck i caller lock recheckAt)
  | _ => none

/-- The tenant service answers an exchange. Without a salt nothing can be signed. -/
def answerTenant (out : Outside) (s : State) (i : Nat) : Option State :=
  match s.calls[i]? with
  | some ⟨caller, .exchanging lock startedAt .tenant⟩ =>
    match out.getTenant s.clock caller.tenantId with
    | .error _ => some (s.leave i caller lock none)
    | .ok tenant =>
      match tenant.bind (fun t => given (some t.tenantSalt)) with
      | none => some (s.leave i caller lock none)
      | some salt => some (s.setCall i ⟨caller, .exchanging lock startedAt (.endpoint salt)⟩)
  | _ => none

/-- The endpoint is known: the request is signed and sent. -/
def answerEndpoint (out : Outside) (s : State) (i : Nat) (endpoint : Except Exc String) (nonce : String)
    (ts : Micros) : Option State :=
  match s.calls[i]? with
  | some ⟨caller, .exchanging lock startedAt (.endpoint salt)⟩ =>
    match endpoint with
    | .error _ => some (s.leave i caller lock none)
    | .ok url =>
      let request := exchangeRequest out url caller.tenantId caller.delegationId nonce ts salt
      some (s.setCall i ⟨caller, .exchanging lock startedAt (.response request)⟩)
  | _ => none

/-- The token of a response, none when it is no success or holds no token. -/
def tokenOf (out : Outside) (response : Except Exc (Int × String)) (readAt : Micros) :
    Option (String × Micros) :=
  match response with
  | .error _ => none
  | .ok (status, body) =>
    if status < 200 || status ≥ 300 then none
    else match readToken out body readAt with
      | .ok token => token
      | .error _ => none

/-- The exchange ends: its token is cached and returned. -/
def answerExchange (out : Outside) (s : State) (i : Nat) (response : Except Exc (Int × String))
    (readAt : Micros) : Option State :=
  match s.calls[i]? with
  | some ⟨caller, .exchanging lock startedAt (.response request)⟩ =>
    match tokenOf out response readAt with
    | none => some (s.leave i caller lock none)
    | some (accessToken, expiresAt) =>
      let token : CachedToken := { accessToken, expiresAt, tenantId := caller.tenantId, startedAt, request }
      some ({ s with tokens := s.tokens.set caller.delegationId token }.leave i caller lock
        (some (.exchanged token)))
  | _ => none

def invalidate (s : State) (delegationGrantId : Option String) : State :=
  match given delegationGrantId with
  | none => s
  | some id =>
    { s with
      tokens := s.tokens.pop id
      locks := s.locks.pop id
      invalidations := (id, s.clock) :: s.invalidations }

def act (out : Outside) (s : State) : Event → Option State
  | .getToken flow sweepAt checkAt recheckAt => some (getToken s flow sweepAt checkAt recheckAt)
  | .enterLock i recheckAt => enterLock s i recheckAt
  | .answerTenant i => answerTenant out s i
  | .answerEndpoint i endpoint nonce ts => answerEndpoint out s i endpoint nonce ts
  | .answerExchange i response readAt => answerExchange out s i response readAt
  | .invalidate delegationGrantId => some (invalidate s delegationGrantId)

/-- A step whose readings of the clock follow the last one before it. -/
def step (out : Outside) (s : State) (e : Event) : Option State :=
  if (s.time :: e.readings).Pairwise (· ≤ ·) then
    (act out s e).map (fun next =>
      { next with clock := s.clock + 1, time := e.readings.getLastD s.time })
  else none

/-! ## What is dropped -/

/-- Tokens and locks may be dropped, nothing else changes but the count of calls. -/
structure Pruned (s s' : State) : Prop where
  calls : s'.calls = s.calls
  lockObjects : s'.lockObjects = s.lockObjects
  lockCount : s'.lockCount = s.lockCount
  clock : s'.clock = s.clock
  tokens : ∀ id token, s'.tokens.lookup id = some token → s.tokens.lookup id = some token
  locks : ∀ id lock, s'.locks.lookup id = some lock → s.locks.lookup id = some lock

theorem pruned_refl (s : State) : Pruned s s :=
  ⟨rfl, rfl, rfl, rfl, fun _ _ h => h, fun _ _ h => h⟩

theorem Pruned.trans {s s' s'' : State} (h : Pruned s s') (h' : Pruned s' s'') : Pruned s s'' where
  calls := h'.calls.trans h.calls
  lockObjects := h'.lockObjects.trans h.lockObjects
  lockCount := h'.lockCount.trans h.lockCount
  clock := h'.clock.trans h.clock
  tokens id token hl := h.tokens id token (h'.tokens id token hl)
  locks id lock hl := h.locks id lock (h'.locks id lock hl)

theorem sweepKey_pruned (s : State) (key : String) : Pruned s (s.sweepKey key) where
  calls := rfl
  lockObjects := rfl
  lockCount := rfl
  clock := rfl
  tokens id token h := (Dict.lookup_pop h).2
  locks id lock h := by
    unfold sweepKey at h
    dsimp only at h
    split at h
    · split at h
      · exact h
      · exact (Dict.lookup_pop h).2
    · exact h

theorem sweepKeys_pruned (keys : List String) (s : State) : Pruned s (keys.foldl sweepKey s) := by
  induction keys generalizing s with
  | nil => exact pruned_refl s
  | cons key keys ih => exact (sweepKey_pruned s key).trans (ih (s.sweepKey key))

theorem countCall_pruned (s : State) (now : Micros) : Pruned s (s.countCall now) := by
  have hcount : Pruned s { s with callCount := s.callCount + 1 } :=
    ⟨rfl, rfl, rfl, rfl, fun _ _ h => h, fun _ _ h => h⟩
  unfold countCall
  dsimp only
  split
  · exact hcount.trans (sweepKeys_pruned _ _)
  · exact hcount

theorem invalidate_pruned (s : State) (delegationGrantId : Option String) :
    Pruned s (invalidate s delegationGrantId) := by
  unfold invalidate
  split
  · exact pruned_refl s
  · exact ⟨rfl, rfl, rfl, rfl, fun _ _ h => (Dict.lookup_pop h).2, fun _ _ h => (Dict.lookup_pop h).2⟩

theorem usableToken_some {s : State} {id : String} {now : Micros} {token : CachedToken}
    (h : s.usableToken id now = some token) :
    s.tokens.lookup id = some token ∧ token.isUsable now = true :=
  Option.filter_eq_some_iff.mp h

theorem CachedToken.isUsable_mono {token : CachedToken} {now later : Micros} (hle : now ≤ later)
    (h : token.isUsable later = true) : token.isUsable now = true := by
  simp only [CachedToken.isUsable, decide_eq_true_eq] at h ⊢
  exact Int.lt_of_le_of_lt hle h

/-! ## Flows that hold one grant, and an endpoint that answers them -/

def orderGrant : String := newGrantId (grantToken 'c' (by decide))

def orderFlow (tenantId : String) : Ambient :=
  { context := some { tenantId }, grant := some orderGrant }

def hourBody : String := "\x7b\"access_token\": \"t1\", \"expires_in\": 3600\x7d"

def orderOutside : Outside where
  runtime :=
    { asciiRuntime with
      loads := fun text =>
        if text = hourBody then .ok (.obj [("access_token", .str "t1"), ("expires_in", .int 3600)])
        else .error .jsonDecode }
  parseInt _ := none
  compute input salt := salt ++ "|" ++ input
  getTenant _ tenantId := .ok (some { tenantId := some tenantId, tenantSalt := "salt of " ++ tenantId })

end BlocksGenesis.Delegation.TokenProvider
