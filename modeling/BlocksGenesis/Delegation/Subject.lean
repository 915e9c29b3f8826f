import BlocksGenesis.Delegation.Factory

/-! Whom a grant is about, and how long. -/

namespace BlocksGenesis.Delegation
open Python BlocksGenesis.Auth

/-- A user, with what a redemption compares. -/
structure NamesUser (record : DelegationGrantRecord) : Prop where
  userId : record.userId ≠ ""
  clientId : record.clientId = ""
  tokenVersion : record.tokenVersion ≠ ""
  securityStamp : record.securityStamp ≠ ""

/-- A client, without any of it. -/
structure NamesClient (record : DelegationGrantRecord) : Prop where
  clientId : record.clientId ≠ ""
  userId : record.userId = ""
  tokenVersion : record.tokenVersion = ""
  securityStamp : record.securityStamp = ""

def OneSubject (record : DelegationGrantRecord) : Prop :=
  (NamesUser record ∨ NamesClient record) ∧ ¬ (NamesUser record ∧ NamesClient record)

/-- The lifetime that was asked for, or the default. -/
def Expires (ttlSeconds : Option Int) (lifetime : Int) : Prop :=
  0 < lifetime ∧ (∀ ttl, ttlSeconds = some ttl → 0 < ttl → lifetime = ttl) ∧
    ((∀ ttl, ttlSeconds = some ttl → ttl ≤ 0) → lifetime = defaultGrantTtlSeconds)

theorem grantLifetime_expires (ttlSeconds : Option Int) : Expires ttlSeconds (grantLifetime ttlSeconds) := by
  unfold Expires grantLifetime defaultGrantTtlSeconds
  cases ttlSeconds with
  | none => simp
  | some ttl =>
    dsimp only
    split
    · rename_i hpositive
      refine ⟨hpositive, fun asked hasked _ => Option.some.inj hasked, fun hno => ?_⟩
      have hnot := hno ttl rfl
      omega
    · rename_i hnot
      refine ⟨by omega, fun asked hasked hpositive => ?_, fun _ => rfl⟩
      cases hasked
      omega

/-- The records there are to write for a context. -/
inductive Issued (context : BlocksContext) : DelegationGrantRecord → Prop where
  | user {tokenVersion securityStamp} : context.userId ≠ "" → tokenVersion ≠ "" → securityStamp ≠ "" →
      Issued context (userRecord context tokenVersion securityStamp)
  | client {clientId organizationId} : clientId ≠ "" →
      Issued context (clientRecord context.tenantId clientId organizationId)

namespace Issued
variable {context : BlocksContext} {record : DelegationGrantRecord}

theorem oneSubject (h : Issued context record) : OneSubject record := by
  cases h with
  | user huser hversion hstamp => exact ⟨.inl ⟨huser, rfl, hversion, hstamp⟩, fun h => h.2.clientId rfl⟩
  | client hclient => exact ⟨.inr ⟨hclient, rfl, rfl, rfl⟩, fun h => h.1.userId rfl⟩

theorem tenantId (h : Issued context record) : record.tenantId = context.tenantId := by
  cases h <;> rfl

theorem unimpersonated (h : Issued context record) (hno : context.impersonated = false) :
    record.impersonationSessionId = "" ∧ record.originalTenantId = "" := by
  cases h with
  | user => simp [userRecord, hno]
  | client => exact ⟨rfl, rfl⟩

end Issued

/-! ## What a send issues -/

section Send
variable {rt : Runtime} {ambient : Ambient} {s : SendWorld} {context : BlocksContext} {delegationId : String}
  {redis : Redis}

theorem createGrantForClient_named {tenantId clientId organizationId : String} {written : String × Redis}
    (h : createGrantForClient s tenantId clientId organizationId = .ok written) : clientId ≠ "" := by
  unfold createGrantForClient at h
  split at h
  · cases h
  · rename_i hnamed
    rintro rfl
    simp at hnamed

theorem grantForClient_issued {clientId organizationId : String}
    (h : grantOrNone s.redis (createGrantForClient s context.tenantId clientId organizationId) =
      (some delegationId, redis)) :
    ∃ record, Issued context record ∧ Wrote s record delegationId redis := by
  have hwritten := grantOrNone_some h
  exact ⟨_, .client (createGrantForClient_named hwritten), createGrantForClient_ok hwritten⟩

theorem createForUser_issued (huser : context.userId ≠ "")
    (h : createForUser rt ambient s context = .ok (some delegationId, redis)) :
    ∃ record, Issued context record ∧ Wrote s record delegationId redis := by
  obtain ⟨material, _, h⟩ := bind_ok_iff.mp h
  obtain ⟨tokenVersion, securityStamp, hversion, hstamp, hwrote⟩ := grantFor_some (pure_ok_iff.mp h)
  exact ⟨_, .user huser (given_ne_empty hversion) (given_ne_empty hstamp), hwrote⟩

theorem createForClient_issued (h : createForClient rt ambient s context = .ok (some delegationId, redis)) :
    ∃ record, Issued context record ∧ Wrote s record delegationId redis := by
  unfold createForClient at h
  dsimp only at h
  split at h
  · exact grantForClient_issued (Except.ok.inj h)
  · obtain ⟨held, _, h⟩ := bind_ok_iff.mp h
    cases held with
    | none => cases h
    | some held =>
      dsimp only at h
      split at h
      · cases h
      · split at h
        · cases h
        · exact grantForClient_issued (pure_ok_iff.mp h)

theorem createForSend_issued (h : createForSend rt ambient s = .ok (some delegationId, redis)) :
    ∃ context record, ambient.context = some context ∧ Issued context record ∧
      Wrote s record delegationId redis := by
  unfold createForSend at h
  cases hcontext : ambient.context with
  | none => simp [hcontext] at h
  | some context =>
    simp only [hcontext] at h
    refine ⟨context, ?_⟩
    split at h
    · cases h
    · split at h
      · rename_i huser
        obtain ⟨record, hrecord⟩ := createForUser_issued (by simpa using huser) h
        exact ⟨record, rfl, hrecord⟩
      · split at h
        · obtain ⟨record, hrecord⟩ := createForClient_issued h
          exact ⟨record, rfl, hrecord⟩
        · cases h

/-- What was written is what is read, by whoever asks next. -/
theorem Wrote.read {record : DelegationGrantRecord} (h : Wrote s record delegationId redis) {later : SendWorld}
    (hredis : later.redis = redis) (hup : later.outage.read = none) :
    getGrant later delegationId = .ok (some record) := by
  unfold getGrant
  rw [hup, hredis, h.get, h.id]
  simp only [newGrantId_wellFormed, Bool.not_true, Bool.false_eq_true, if_false]
  rfl

end Send

/-! ## Every grant -/

/-- The record stored under an id, for the context of the flow. -/
structure GrantStored (s : SendWorld) (context : BlocksContext) (delegationId : String) (redis : Redis)
    (record : DelegationGrantRecord) (lifetime : Int) : Prop where
  stored : redis.get (grantKey delegationId) = some ⟨.ok record.toWireJson, lifetime⟩
  subject : OneSubject record
  tenantId : record.tenantId = context.tenantId
  unimpersonated : context.impersonated = false →
    record.impersonationSessionId = "" ∧ record.originalTenantId = ""
  expires : Expires s.ttlSeconds lifetime
  read : ∀ later : SendWorld, later.redis = redis → later.outage.read = none →
    getGrant later delegationId = .ok (some record)

/-- Nobody is authenticated in a tenant. -/
def Callerless (context : Option BlocksContext) : Prop :=
  ∀ c, context = some c → c.isAuthenticated = false ∨ c.tenantId = ""

theorem createForSend_callerless {rt : Runtime} {ambient : Ambient} {s : SendWorld}
    (h : Callerless ambient.context) : createForSend rt ambient s = .ok (none, s.redis) := by
  unfold createForSend
  cases hcontext : ambient.context with
  | none => rfl
  | some context =>
    dsimp only
    rw [if_pos]
    rcases h context hcontext with hauth | htenant
    · simp [hauth]
    · simp [htenant]

theorem grant_one_subject (rt : Runtime) (ambient : Ambient) (s : SendWorld) :
    (∀ delegationId redis, createForSend rt ambient s = .ok (some delegationId, redis) →
      ∃ context record lifetime, ambient.context = some context ∧
        GrantStored s context delegationId redis record lifetime) ∧
      (Callerless ambient.context → createForSend rt ambient s = .ok (none, s.redis)) := by
  refine ⟨fun delegationId redis h => ?_, createForSend_callerless⟩
  obtain ⟨context, record, hcontext, hissued, hwrote⟩ := createForSend_issued h
  refine ⟨context, record, _, hcontext, hwrote.get, hissued.oneSubject, hissued.tenantId,
    hissued.unimpersonated, grantLifetime_expires _, ?_⟩
  intro later hredis hup
  exact hwrote.read hredis hup

/-- A validated token, and ada in acme. -/
def adaSender : Ambient where
  context := some { tenantId := "acme", userId := "ada", isAuthenticated := true }
  authClaims := some [("user_id", .str "ada"), ("token_version", .int 1), ("security_stamp", .str "s")]

def shortSend : SendWorld where
  random := grantToken '7' (by decide)
  ttlSeconds := some 0

theorem grant_one_subject_ada :
    ∃ context delegationId redis record lifetime,
      createForSend asciiRuntime adaSender shortSend = .ok (some delegationId, redis) ∧
        GrantStored shortSend context delegationId redis record lifetime := by
  obtain ⟨context, record, lifetime, _, hstored⟩ :=
    (grant_one_subject asciiRuntime adaSender shortSend).1 _ _ rfl
  exact ⟨context, _, _, record, lifetime, rfl, hstored⟩

end BlocksGenesis.Delegation
