import BlocksGenesis.Auth.Request
import BlocksGenesis.Delegation.Grant

namespace BlocksGenesis.Delegation
open Python BlocksGenesis.Auth

def tokenVersionClaim : String := "token_version"

def securityStampClaim : String := "security_stamp"

/-- `None if value is None else str(value)`. -/
def versionText (rt : Runtime) : Json → Option String
  | .null => none
  | v => some (v.toStr rt)

def versionMaterial (rt : Runtime) (claims : Option Fields) : Option String × Option String :=
  match claims with
  | none | some [] => (none, none)
  | some claims => (versionText rt (claims.get tokenVersionClaim), versionText rt (claims.get securityStampClaim))

/-- The grant the flow holds, if it belongs to the current tenant. -/
def readHeldGrant (ambient : Ambient) (s : SendWorld) (tenantId : String) :
    Except Exc (Option DelegationGrantRecord) :=
  match given ambient.grant with
  | none => .ok none
  | some heldGrantId => do
    match ← getGrant s heldGrantId with
    | none => return none
    | some record => return if record.tenantId != tenantId then none else some record

/-- Version material of the held grant: it must be a user grant of the same user and
organization. No other field of it is looked at. -/
def readFromHeldGrant (ambient : Ambient) (s : SendWorld) (context : BlocksContext) :
    Except Exc (Option String × Option String) := do
  match ← readHeldGrant ambient s context.tenantId with
  | none => return (none, none)
  | some record =>
    if record.isClientGrant then
      return (none, none)
    else if record.userId != context.userId || record.organizationId != context.organizationId then
      return (none, none)
    else return (some record.tokenVersion, some record.securityStamp)

/-- A write that fails is a send without a grant. -/
def grantOrNone (redis : Redis) : Except Exc (String × Redis) → Option String × Redis
  | .ok (delegationId, redis') => (some delegationId, redis')
  | .error _ => (none, redis)

/-- The validated claims count first, the held grant when they have neither value. -/
def sendMaterial (rt : Runtime) (ambient : Ambient) (s : SendWorld) (context : BlocksContext) :
    Except Exc (Option String × Option String) :=
  let material := versionMaterial rt ambient.authClaims
  if (given material.1).isNone && (given material.2).isNone then readFromHeldGrant ambient s context
  else .ok material

/-- A grant needs both values: without one of them it could not be redeemed. -/
def grantFor (s : SendWorld) (context : BlocksContext) (material : Option String × Option String) :
    Option String × Redis :=
  match given material.1, given material.2 with
  | some tokenVersion, some securityStamp =>
    grantOrNone s.redis (createGrant s context tokenVersion securityStamp)
  | _, _ => (none, s.redis)

def createForUser (rt : Runtime) (ambient : Ambient) (s : SendWorld) (context : BlocksContext) :
    Except Exc (Option String × Redis) := do
  return grantFor s context (← sendMaterial rt ambient s context)

def claimsClientId (ambient : Ambient) : Json :=
  let claims := ambient.authClaims.getD []
  if (claims.get "user_id").truthy then .null else claims.get "client_id"

def createForClient (rt : Runtime) (ambient : Ambient) (s : SendWorld) (context : BlocksContext) :
    Except Exc (Option String × Redis) :=
  let clientId := claimsClientId ambient
  if clientId.truthy then
    .ok (grantOrNone s.redis
      (createGrantForClient s context.tenantId (clientId.toStr rt) context.organizationId))
  else do
    match ← readHeldGrant ambient s context.tenantId with
    | none => return (none, s.redis)
    | some held =>
      if !held.isClientGrant then
        return (none, s.redis)
      else if held.clientId != context.clientId then
        return (none, s.redis)
      else
        return grantOrNone s.redis
          (createGrantForClient s context.tenantId held.clientId held.organizationId)

/-- The grant a send attaches to its message, and the database after it. -/
def createForSend (rt : Runtime) (ambient : Ambient) (s : SendWorld) :
    Except Exc (Option String × Redis) :=
  match ambient.context with
  | none => .ok (none, s.redis)
  | some context =>
    if !context.isAuthenticated || context.tenantId.isEmpty then .ok (none, s.redis)
    else if !context.userId.isEmpty then createForUser rt ambient s context
    else if !context.clientId.isEmpty then createForClient rt ambient s context
    else .ok (none, s.redis)

/-! ## What a send writes -/

/-- A send that got an id wrote this record under it. -/
structure Wrote (s : SendWorld) (record : DelegationGrantRecord) (delegationId : String) (redis : Redis) :
    Prop where
  id : delegationId = newGrantId s.random
  redis : redis = s.redis.setex (grantKey delegationId) (grantLifetime s.ttlSeconds) record.toWireJson

theorem writeGrant_ok {s : SendWorld} {record : DelegationGrantRecord} {delegationId : String}
    {redis : Redis} (h : writeGrant s record = .ok (delegationId, redis)) :
    Wrote s record delegationId redis := by
  unfold writeGrant at h
  split at h
  · cases h
  · cases h
    exact ⟨rfl, rfl⟩

theorem Wrote.get {s : SendWorld} {record : DelegationGrantRecord} {delegationId : String}
    {redis : Redis} (h : Wrote s record delegationId redis) :
    redis.get (grantKey delegationId) = some ⟨.ok record.toWireJson, grantLifetime s.ttlSeconds⟩ := by
  rw [h.redis, Redis.get_setex]

theorem Wrote.unique {s : SendWorld} {r r' : DelegationGrantRecord} {delegationId : String}
    {redis : Redis} (h : Wrote s r delegationId redis) (h' : Wrote s r' delegationId redis) : r = r' := by
  have hget := h.get.symm.trans h'.get
  simp only [Option.some.injEq, Entry.mk.injEq, Except.ok.injEq, and_true] at hget
  exact DelegationGrantRecord.toWireJson_injective hget

theorem grantOrNone_some {redis redis' : Redis} {written : Except Exc (String × Redis)}
    {delegationId : String} (h : grantOrNone redis written = (some delegationId, redis')) :
    written = .ok (delegationId, redis') := by
  unfold grantOrNone at h
  split at h
  · cases h
    rfl
  · cases h

theorem createGrant_ok {s : SendWorld} {context : BlocksContext} {tokenVersion securityStamp : String}
    {delegationId : String} {redis : Redis}
    (h : createGrant s context tokenVersion securityStamp = .ok (delegationId, redis)) :
    Wrote s (userRecord context tokenVersion securityStamp) delegationId redis := by
  unfold createGrant at h
  split at h
  · cases h
  · exact writeGrant_ok h

theorem createGrant_writes {s : SendWorld} {context : BlocksContext} {tokenVersion securityStamp : String}
    (hs : s.outage.write = none) (htenant : context.tenantId ≠ "") (huser : context.userId ≠ "") :
    ∃ delegationId redis, createGrant s context tokenVersion securityStamp = .ok (delegationId, redis) ∧
      Wrote s (userRecord context tokenVersion securityStamp) delegationId redis := by
  refine ⟨newGrantId s.random, _, ?_, rfl, rfl⟩
  simp [createGrant, writeGrant, hs, htenant, huser]

theorem createGrantForClient_ok {s : SendWorld} {tenantId clientId organizationId : String}
    {delegationId : String} {redis : Redis}
    (h : createGrantForClient s tenantId clientId organizationId = .ok (delegationId, redis)) :
    Wrote s (clientRecord tenantId clientId organizationId) delegationId redis := by
  unfold createGrantForClient at h
  split at h
  · cases h
  · exact writeGrant_ok h

def Holds (ambient : Ambient) (s : SendWorld) (held : DelegationGrantRecord) : Prop :=
  ∃ heldGrantId, ambient.grant = some heldGrantId ∧ getGrant s heldGrantId = .ok (some held)

theorem readHeldGrant_some {ambient : Ambient} {s : SendWorld} {tenantId : String}
    {held : DelegationGrantRecord} (h : readHeldGrant ambient s tenantId = .ok (some held)) :
    Holds ambient s held ∧ held.tenantId = tenantId := by
  unfold readHeldGrant at h
  split at h
  · cases h
  · rename_i heldGrantId hid
    obtain ⟨found, hfound, h⟩ := bind_ok_iff.mp h
    cases found with
    | none => cases h
    | some record =>
      dsimp only at h
      have h := pure_ok_iff.mp h
      split at h
      · cases h
      · rename_i ht
        cases h
        exact ⟨⟨heldGrantId, given_some hid, hfound⟩, by simpa using ht⟩

/-- What a send may write a record on: the version material of validated claims, a validated
client token, or the grant the flow holds. -/
inductive Grounds (rt : Runtime) (ambient : Ambient) (s : SendWorld) (c : BlocksContext) :
    DelegationGrantRecord → Prop where
  | userClaims {tokenVersion securityStamp} : c.userId ≠ "" →
      given (versionMaterial rt ambient.authClaims).1 = some tokenVersion →
      given (versionMaterial rt ambient.authClaims).2 = some securityStamp →
      Grounds rt ambient s c (userRecord c tokenVersion securityStamp)
  | userHeld {held} : c.userId ≠ "" → given (versionMaterial rt ambient.authClaims).1 = none →
      given (versionMaterial rt ambient.authClaims).2 = none → Holds ambient s held →
      held.tenantId = c.tenantId → held.isClientGrant = false → held.userId = c.userId →
      held.organizationId = c.organizationId →
      Grounds rt ambient s c (userRecord c held.tokenVersion held.securityStamp)
  | clientClaims : c.userId = "" → (claimsClientId ambient).truthy = true →
      Grounds rt ambient s c (clientRecord c.tenantId ((claimsClientId ambient).toStr rt) c.organizationId)
  | clientHeld {held} : c.userId = "" → Holds ambient s held → held.tenantId = c.tenantId →
      held.isClientGrant = true → held.clientId = c.clientId →
      Grounds rt ambient s c (clientRecord c.tenantId held.clientId held.organizationId)

theorem readFromHeldGrant_ok {ambient : Ambient} {s : SendWorld} {c : BlocksContext}
    {found : Option String × Option String} (h : readFromHeldGrant ambient s c = .ok found) :
    found = (none, none) ∨ ∃ held, found = (some held.tokenVersion, some held.securityStamp) ∧
      Holds ambient s held ∧ held.tenantId = c.tenantId ∧ held.isClientGrant = false ∧
      held.userId = c.userId ∧ held.organizationId = c.organizationId := by
  obtain ⟨read, hread, h⟩ := bind_ok_iff.mp h
  cases read with
  | none => exact .inl (pure_ok_iff.mp h).symm
  | some held =>
    obtain ⟨hholds, htenant⟩ := readHeldGrant_some hread
    dsimp only at h
    split at h
    · exact .inl (pure_ok_iff.mp h).symm
    · rename_i hclient
      split at h
      · exact .inl (pure_ok_iff.mp h).symm
      · rename_i hsame
        simp only [Bool.or_eq_true, bne_iff_ne, ne_eq, not_or, Decidable.not_not] at hsame
        exact .inr ⟨held, (pure_ok_iff.mp h).symm, hholds, htenant, eq_false_of_ne_true hclient,
          hsame.1, hsame.2⟩

/-- A user grant is written on both values, wherever they come from. -/
theorem grantFor_some {s : SendWorld} {c : BlocksContext} {material : Option String × Option String}
    {delegationId : String} {redis : Redis} (h : grantFor s c material = (some delegationId, redis)) :
    ∃ tokenVersion securityStamp, given material.1 = some tokenVersion ∧ given material.2 = some securityStamp ∧
      Wrote s (userRecord c tokenVersion securityStamp) delegationId redis := by
  unfold grantFor at h
  split at h
  · rename_i tokenVersion securityStamp hversion hstamp
    exact ⟨tokenVersion, securityStamp, hversion, hstamp, createGrant_ok (grantOrNone_some h)⟩
  · cases h

theorem createForUser_some {rt : Runtime} {ambient : Ambient} {s : SendWorld} {c : BlocksContext}
    {delegationId : String} {redis : Redis} (hc : c.userId ≠ "")
    (h : createForUser rt ambient s c = .ok (some delegationId, redis)) :
    ∃ record, Grounds rt ambient s c record ∧ Wrote s record delegationId redis := by
  obtain ⟨⟨tv, ss⟩, hmaterial, h⟩ := bind_ok_iff.mp h
  obtain ⟨tokenVersion, securityStamp, htv, hss, hwrote⟩ := grantFor_some (pure_ok_iff.mp h)
  refine ⟨_, ?_, hwrote⟩
  unfold sendMaterial at hmaterial
  dsimp only at hmaterial
  split at hmaterial
  · rename_i hno
    rcases readFromHeldGrant_ok hmaterial with hnone | ⟨held, hfound, hholds, ht, hcl, hu, ho⟩
    · cases hnone
      cases htv
    · cases hfound
      rw [← Option.some.inj (given_some htv), ← Option.some.inj (given_some hss)]
      simp only [Bool.and_eq_true, Option.isNone_iff_eq_none] at hno
      exact .userHeld hc hno.1 hno.2 hholds ht hcl hu ho
  · have hm := Except.ok.inj hmaterial
    refine .userClaims hc ?_ ?_
    · rw [hm]
      exact htv
    · rw [hm]
      exact hss

theorem createForClient_some {rt : Runtime} {ambient : Ambient} {s : SendWorld} {c : BlocksContext}
    {delegationId : String} {redis : Redis} (hc : c.userId = "")
    (h : createForClient rt ambient s c = .ok (some delegationId, redis)) :
    ∃ record, Grounds rt ambient s c record ∧ Wrote s record delegationId redis := by
  unfold createForClient at h
  dsimp only at h
  split at h
  · rename_i hclaims
    exact ⟨_, .clientClaims hc hclaims, createGrantForClient_ok (grantOrNone_some (Except.ok.inj h))⟩
  · obtain ⟨read, hread, h⟩ := bind_ok_iff.mp h
    cases read with
    | none => cases h
    | some held =>
      obtain ⟨hholds, htenant⟩ := readHeldGrant_some hread
      dsimp only at h
      split at h
      · cases h
      · rename_i hclient
        split at h
        · cases h
        · rename_i hsame
          have hwrote := createGrantForClient_ok (grantOrNone_some (pure_ok_iff.mp h))
          exact ⟨_, .clientHeld hc hholds htenant (by simpa using hclient) (by simpa using hsame), hwrote⟩

/-- Whatever a send writes, it writes on one of the grounds there are, for the context of the
flow it is made in. -/
theorem createForSend_some {rt : Runtime} {ambient : Ambient} {s : SendWorld}
    {delegationId : String} {redis : Redis}
    (h : createForSend rt ambient s = .ok (some delegationId, redis)) :
    ∃ c record, ambient.context = some c ∧ Grounds rt ambient s c record ∧
      Wrote s record delegationId redis := by
  unfold createForSend at h
  cases hc : ambient.context with
  | none => simp [hc] at h
  | some c =>
    simp only [hc] at h
    split at h
    · cases h
    · split at h
      · rename_i huser
        obtain ⟨record, hgrounds, hwrote⟩ := createForUser_some (by simpa using huser) h
        exact ⟨c, record, rfl, hgrounds, hwrote⟩
      · rename_i huser
        split at h
        · obtain ⟨record, hgrounds, hwrote⟩ := createForClient_some (by simpa using huser) h
          exact ⟨c, record, rfl, hgrounds, hwrote⟩
        · cases h

end BlocksGenesis.Delegation
