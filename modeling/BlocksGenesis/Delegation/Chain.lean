import BlocksGenesis.Delegation.Factory

namespace BlocksGenesis.Delegation
open Python BlocksGenesis.Auth

/-! ## Worker-originated sends -/

/-- One worker-originated send: the context is what a message payload gives, the flow has no
request claims, the id it holds was last written with one grant, and the send writes another. -/
structure Hop (rt : Runtime) (held : DelegationGrantRecord) (c : BlocksContext)
    (record : DelegationGrantRecord) where
  payload : Json
  ambient : Ambient
  world : SendWorld
  heldGrantId : String
  lifetime : Int
  delegationId : String
  redis : Redis
  restored : fromTransport rt payload = .ok (some c)
  context : ambient.context = some c
  claims : ambient.authClaims.getD [] = []
  holds : ambient.grant = some heldGrantId
  stored : world.redis.get (grantKey heldGrantId) = some ⟨.ok held.toWireJson, lifetime⟩
  sent : createForSend rt ambient world = .ok (some delegationId, redis)
  written : Wrote world record delegationId redis

/-- A chain of worker-originated sends, with the context and the new record of each. -/
inductive Chain (rt : Runtime) :
    DelegationGrantRecord → List (BlocksContext × DelegationGrantRecord) → Prop where
  | nil {held} : Chain rt held []
  | send {held c record rest} : Nonempty (Hop rt held c record) → Chain rt record rest →
      Chain rt held ((c, record) :: rest)

/-- What of a grant the chain can carry in a context. A client grant is all there is to carry,
if it names nothing but its client. Of a user grant the session has no way over the wire, and the
home tenant is what the message says it is. -/
def Carries (held : DelegationGrantRecord) (c : BlocksContext) : Prop :=
  if held.isClientGrant then
    held.tokenVersion = "" ∧ held.securityStamp = "" ∧ held.impersonationSessionId = "" ∧
      held.originalTenantId = ""
  else
    held.clientId = "" ∧ held.impersonationSessionId = "" ∧
      held.originalTenantId = if c.impersonated then c.originalTenantId else ""

/-- The record read under the held id is the one last written under it. -/
theorem Hop.holds_eq {rt : Runtime} {held record read : DelegationGrantRecord} {c : BlocksContext}
    (h : Hop rt held c record) (hread : Holds h.ambient h.world read) : read = held := by
  obtain ⟨id, hid, hget⟩ := hread
  have hsame : id = h.heldGrantId := Option.some.inj (hid.symm.trans h.holds)
  subst hsame
  unfold getGrant at hget
  split at hget
  · cases hget
  · split at hget
    · cases hget
    · rw [h.stored] at hget
      exact (Option.some.inj (Except.ok.inj hget)).symm

theorem versionMaterial_nil (rt : Runtime) {claims : Option Fields} (h : claims.getD [] = []) :
    versionMaterial rt claims = (none, none) := by
  cases claims with
  | none => rfl
  | some claims =>
    rw [Option.getD_some] at h
    subst h
    rfl

theorem userRecord_eq_iff {held : DelegationGrantRecord} {c : BlocksContext}
    (htenant : held.tenantId = c.tenantId) (huser : held.userId = c.userId)
    (horg : held.organizationId = c.organizationId) (hsession : c.impersonationSessionId = "") :
    userRecord c held.tokenVersion held.securityStamp = held ↔
      held.clientId = "" ∧ held.impersonationSessionId = "" ∧
        held.originalTenantId = if c.impersonated then c.originalTenantId else "" := by
  have hempty : (if c.impersonated then c.impersonationSessionId else "") = "" := by
    rw [hsession, ite_self]
  constructor
  · intro h
    refine ⟨?_, ?_, ?_⟩
    · rw [← h]
      rfl
    · rw [← h]
      exact hempty
    · rw [← h]
      rfl
  · intro hboth
    obtain ⟨hclient, himp, horiginal⟩ := hboth
    unfold userRecord
    rw [hempty, ← horiginal, ← htenant, ← huser, ← horg]
    obtain ⟨_, _, _, _, _, _, _, _⟩ := held
    dsimp only at hclient himp ⊢
    subst hclient himp
    rfl

theorem clientRecord_eq_iff {held : DelegationGrantRecord} {tenantId : String}
    (htenant : held.tenantId = tenantId) (hclient : held.isClientGrant = true) :
    clientRecord tenantId held.clientId held.organizationId = held ↔
      held.tokenVersion = "" ∧ held.securityStamp = "" ∧ held.impersonationSessionId = "" ∧
        held.originalTenantId = "" := by
  have huser : held.userId = "" := by
    simp only [DelegationGrantRecord.isClientGrant, Bool.and_eq_true, String.isEmpty_iff] at hclient
    exact hclient.1
  constructor
  · intro h
    refine ⟨?_, ?_, ?_, ?_⟩
    all_goals
      rw [← h]
      rfl
  · intro hboth
    obtain ⟨htv, hss, himp, horiginal⟩ := hboth
    obtain ⟨_, _, _, _, _, _, _, _⟩ := held
    dsimp only at htenant huser htv hss himp horiginal ⊢
    subst htenant huser htv hss himp horiginal
    rfl

/-- One send keeps the authority of the held grant exactly when the context can carry it. -/
theorem Hop.exact_iff {rt : Runtime} {held record : DelegationGrantRecord} {c : BlocksContext}
    (h : Hop rt held c record) : record = held ↔ Carries held c := by
  obtain ⟨c', written, hc', hgrounds, hwrote⟩ := createForSend_some h.sent
  have hc : c' = c := Option.some.inj (hc'.symm.trans h.context)
  subst hc
  have hw : written = record := hwrote.unique h.written
  rw [← hw]
  clear hw hwrote
  have hsession := fromTransport_session h.restored
  have hmaterial := versionMaterial_nil rt h.claims
  cases hgrounds with
  | userClaims _ htv _ =>
    rw [hmaterial] at htv
    cases htv
  | userHeld _ _ _ hholds htenant hclient huser horg =>
    rw [h.holds_eq hholds] at htenant hclient huser horg ⊢
    rw [userRecord_eq_iff htenant huser horg hsession, Carries, hclient]
    rfl
  | clientClaims _ hclaims =>
    have hnone : claimsClientId h.ambient = .null := by
      unfold claimsClientId
      rw [h.claims]
      rfl
    rw [hnone] at hclaims
    cases hclaims
  | clientHeld _ hholds htenant hclient _ =>
    rw [h.holds_eq hholds] at htenant hclient ⊢
    rw [clientRecord_eq_iff htenant hclient, Carries, if_pos hclient]

/-- Along a whole chain every record is the grant it started from exactly when every context on
the way can carry that grant. -/
theorem chain_exact_iff {rt : Runtime} {g : DelegationGrantRecord}
    {hops : List (BlocksContext × DelegationGrantRecord)} (h : Chain rt g hops) :
    (∀ hop ∈ hops, hop.2 = g) ↔ ∀ hop ∈ hops, Carries g hop.1 := by
  induction h with
  | nil => simp
  | @send held c record rest hop _ ih =>
    obtain ⟨hop⟩ := hop
    rw [List.forall_mem_cons, List.forall_mem_cons, ← hop.exact_iff]
    constructor
    · intro hboth
      obtain ⟨hrecord, hrest⟩ := hboth
      subst hrecord
      exact ⟨rfl, ih.mp hrest⟩
    · intro hboth
      obtain ⟨hrecord, hrest⟩ := hboth
      subst hrecord
      exact ⟨rfl, ih.mpr hrest⟩

/-! ## A user of acme, and one who impersonates there -/

def heldId : String := newGrantId (grantToken 'a' (by decide))

def workerWorld (held : DelegationGrantRecord) : SendWorld where
  redis := ({} : Redis).setex (grantKey heldId) 60 held.toWireJson
  random := grantToken 'b' (by decide)

def adaGrant : DelegationGrantRecord :=
  { tenantId := "acme", userId := "ada", organizationId := "default", tokenVersion := "1", securityStamp := "s" }

def adaContext : BlocksContext :=
  { tenantId := "acme", userId := "ada", organizationId := "default", isAuthenticated := true }

def adaMessage (rest : Fields) : Json :=
  .obj ([("TenantId", .str "acme"), ("UserId", .str "ada"), ("OrganizationId", .str "default"),
    ("IsAuthenticated", .bool true)] ++ rest)

theorem worker_hop {held record : DelegationGrantRecord} {rest : Fields} {c : BlocksContext}
    (hc : fromTransport asciiRuntime (adaMessage rest) = .ok (some c))
    (hsent : ∃ delegationId redis,
      createForSend asciiRuntime { context := some c, grant := some heldId } (workerWorld held) =
        .ok (some delegationId, redis) ∧ Wrote (workerWorld held) record delegationId redis) :
    Nonempty (Hop asciiRuntime held c record) := by
  obtain ⟨delegationId, redis, hsent, hwrote⟩ := hsent
  refine ⟨⟨adaMessage rest, _, _, heldId, 60, delegationId, redis, hc, rfl, rfl, rfl, ?_, hsent, hwrote⟩⟩
  exact Redis.get_setex ..

theorem chain_exact_iff_ada :
    (∀ hop ∈ [(adaContext, adaGrant)], hop.2 = adaGrant) ↔
      ∀ hop ∈ [(adaContext, adaGrant)], Carries adaGrant hop.1 :=
  @chain_exact_iff asciiRuntime adaGrant [(adaContext, adaGrant)]
    (.send (@worker_hop adaGrant adaGrant [] adaContext rfl ⟨_, _, rfl, rfl, rfl⟩) .nil)

/-- An impersonating grant that is chained loses its session. A message that says it impersonates
gives a grant that named no home tenant the one the message names. -/
theorem chain_changes_grant :
    (∃ c record, Chain asciiRuntime { adaGrant with impersonationSessionId := "s1", originalTenantId := "home" }
        [(c, record)] ∧ record.impersonationSessionId = "") ∧
    ∃ c record, Chain asciiRuntime adaGrant [(c, record)] ∧ record.originalTenantId = "evil" := by
  constructor
  · exact ⟨_, _, .send (@worker_hop _ _
      [("Impersonated", .bool true), ("OriginalTenantId", .str "home")] _ rfl ⟨_, _, rfl, rfl, rfl⟩) .nil, rfl⟩
  · exact ⟨_, _, .send (@worker_hop _ _
      [("Impersonated", .bool true), ("OriginalTenantId", .str "evil")] _ rfl ⟨_, _, rfl, rfl, rfl⟩) .nil, rfl⟩

end BlocksGenesis.Delegation
