import BlocksGenesis.Auth.Context

namespace BlocksGenesis.Delegation
open Python BlocksGenesis.Auth

/-! ## Grant ids -/

def grantIdPrefix : String := "dg_"

def grantIdRandomBytes : Nat := 32

def isLowerHex (c : Char) : Bool := "0123456789abcdef".toList.contains c

/-- True only for `dg_` followed by exactly 64 lowercase hex characters. -/
def isWellFormed (delegationId : String) : Bool :=
  startsWith delegationId grantIdPrefix &&
    (dropChars 3 delegationId).toList.length == grantIdRandomBytes * 2 &&
    (dropChars 3 delegationId).toList.all isLowerHex

@[ext]
structure GrantToken where
  hex : List Char
  length : hex.length = grantIdRandomBytes * 2
  lower : ∀ c ∈ hex, isLowerHex c = true
deriving DecidableEq

/-- The token of one digit, over and over. -/
def grantToken (c : Char) (h : isLowerHex c = true) : GrantToken where
  hex := List.replicate (grantIdRandomBytes * 2) c
  length := List.length_replicate
  lower d hd := by
    rw [List.eq_of_mem_replicate hd]
    exact h

def newGrantId (random : GrantToken) : String := String.ofList (grantIdPrefix.toList ++ random.hex)

theorem newGrantId_wellFormed (random : GrantToken) : isWellFormed (newGrantId random) = true := by
  have hbody : (dropChars 3 (newGrantId random)).toList = random.hex := by
    simp [dropChars, newGrantId, grantIdPrefix]
  have hstart : startsWith (newGrantId random) grantIdPrefix = true := by
    simp [startsWith, newGrantId]
  unfold isWellFormed
  rw [hstart, hbody, random.length]
  simpa using random.lower

def grantKey (delegationId : String) : String := "delegation:" ++ delegationId

/-! ## Grant records -/

structure DelegationGrantRecord where
  tenantId : String := ""
  userId : String := ""
  organizationId : String := ""
  tokenVersion : String := ""
  securityStamp : String := ""
  clientId : String := ""
  impersonationSessionId : String := ""
  originalTenantId : String := ""
deriving DecidableEq, Repr

namespace DelegationGrantRecord

def isClientGrant (record : DelegationGrantRecord) : Bool :=
  record.userId.isEmpty && !record.clientId.isEmpty

/-- The document the other SDKs read, under its PascalCase names. -/
def toWireJson (record : DelegationGrantRecord) : Json :=
  .obj [("TenantId", .str record.tenantId), ("UserId", .str record.userId),
    ("OrganizationId", .str record.organizationId), ("TokenVersion", .str record.tokenVersion),
    ("SecurityStamp", .str record.securityStamp), ("ClientId", .str record.clientId),
    ("ImpersonationSessionId", .str record.impersonationSessionId),
    ("OriginalTenantId", .str record.originalTenantId)]

def field (payload : Fields) (wireName name : String) : Except Exc String :=
  match payload.lookup wireName with
  | some v => readStr wireName v
  | none => BlocksContext.strField payload name

/-- `DelegationGrantRecord(**payload)`. -/
def ofWireJson : Json → Except Exc DelegationGrantRecord
  | .obj payload => do
    return {
      tenantId := ← field payload "TenantId" "tenant_id"
      userId := ← field payload "UserId" "user_id"
      organizationId := ← field payload "OrganizationId" "organization_id"
      tokenVersion := ← field payload "TokenVersion" "token_version"
      securityStamp := ← field payload "SecurityStamp" "security_stamp"
      clientId := ← field payload "ClientId" "client_id"
      impersonationSessionId := ← field payload "ImpersonationSessionId" "impersonation_session_id"
      originalTenantId := ← field payload "OriginalTenantId" "original_tenant_id" }
  | _ => .error (.typeError "argument after ** must be a mapping")

theorem ofWireJson_toWireJson (record : DelegationGrantRecord) :
    ofWireJson record.toWireJson = .ok record := rfl

theorem toWireJson_injective {r r' : DelegationGrantRecord} (h : r.toWireJson = r'.toWireJson) :
    r = r' := by
  have hread := ofWireJson_toWireJson r
  rw [h, ofWireJson_toWireJson] at hread
  exact (Except.ok.inj hread).symm

end DelegationGrantRecord

/-! ## The store -/

/-- A value in Redis: what `json.loads` makes of its text, and the lifetime it was set with. -/
structure Entry where
  text : Except Exc Json
  lifetime : Int

/-- The keys of a Redis database. Other keys than the grants' are not touched here. -/
structure Redis where
  values : List (String × Entry) := []

def Redis.get (redis : Redis) (key : String) : Option Entry := redis.values.lookup key

def Redis.setex (redis : Redis) (key : String) (lifetime : Int) (value : Json) : Redis :=
  ⟨(key, ⟨.ok value, lifetime⟩) :: redis.values.filter (fun entry => entry.1 != key)⟩

@[simp] theorem Redis.get_setex (redis : Redis) (key : String) (lifetime : Int) (value : Json) :
    (redis.setex key lifetime value).get key = some ⟨.ok value, lifetime⟩ := by
  simp [Redis.setex, Redis.get]

/-- The errors Redis answers the commands of one send with, if it does. -/
structure Outage where
  read : Option Exc := none
  write : Option Exc := none

def defaultGrantTtlSeconds : Int := 172800

def grantLifetime : Option Int → Int
  | some ttlSeconds => if ttlSeconds > 0 then ttlSeconds else defaultGrantTtlSeconds
  | none => defaultGrantTtlSeconds

/-- What a send needs besides the flow it is made in: the database, the errors it gives, the
draw of `secrets` and the lifetime asked for. -/
structure SendWorld where
  redis : Redis := {}
  outage : Outage := {}
  random : GrantToken
  ttlSeconds : Option Int := none

def writeGrant (s : SendWorld) (record : DelegationGrantRecord) : Except Exc (String × Redis) :=
  match s.outage.write with
  | some e => .error e
  | none =>
    let delegationId := newGrantId s.random
    .ok (delegationId, s.redis.setex (grantKey delegationId) (grantLifetime s.ttlSeconds) record.toWireJson)

/-- The record of a user grant. The impersonation is carried for every caller that reaches here. -/
def userRecord (context : BlocksContext) (tokenVersion securityStamp : String) : DelegationGrantRecord where
  tenantId := context.tenantId
  userId := context.userId
  organizationId := context.organizationId
  tokenVersion
  securityStamp
  impersonationSessionId := if context.impersonated then context.impersonationSessionId else ""
  originalTenantId := if context.impersonated then context.originalTenantId else ""

def createGrant (s : SendWorld) (context : BlocksContext) (tokenVersion securityStamp : String) :
    Except Exc (String × Redis) :=
  if context.tenantId.isEmpty || context.userId.isEmpty then
    .error (.valueError "A delegation grant requires both a tenant and an authenticated user.")
  else writeGrant s (userRecord context tokenVersion securityStamp)

/-- The record of a `client_credentials` caller. It carries no version material. -/
def clientRecord (tenantId clientId organizationId : String) : DelegationGrantRecord :=
  { tenantId, clientId, organizationId }

def createGrantForClient (s : SendWorld) (tenantId clientId organizationId : String) :
    Except Exc (String × Redis) :=
  if tenantId.isEmpty || clientId.isEmpty then
    .error (.valueError "A client delegation grant requires both a tenant and a client id.")
  else writeGrant s (clientRecord tenantId clientId organizationId)

/-- Read a grant record. Only the read itself may raise: what cannot be read as a record is
no record. -/
def getGrant (s : SendWorld) (delegationId : String) : Except Exc (Option DelegationGrantRecord) :=
  if !isWellFormed delegationId then .ok none
  else match s.outage.read with
    | some e => .error e
    | none =>
      match s.redis.get (grantKey delegationId) with
      | none => .ok none
      | some entry =>
        match entry.text >>= DelegationGrantRecord.ofWireJson with
        | .ok record => .ok (some record)
        | .error _ => .ok none

end BlocksGenesis.Delegation
