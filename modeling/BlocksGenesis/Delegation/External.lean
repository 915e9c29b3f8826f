import BlocksGenesis.Auth.External
import BlocksGenesis.Delegation.Factory

namespace BlocksGenesis.Delegation
open Python BlocksGenesis.Auth

/-! ## Sends after an external token -/

def Carried (rt : Runtime) (claims : Fields) (name : String) : Prop :=
  given (versionText rt (claims.get name)) ≠ none

/-- Both parts, which is what a grant is written on. -/
def Versioned (rt : Runtime) (claims : Fields) : Prop :=
  Carried rt claims tokenVersionClaim ∧ Carried rt claims securityStampClaim

/-- Neither part, which is when the held grant is asked. -/
def Unversioned (rt : Runtime) (claims : Fields) : Prop :=
  ¬ Carried rt claims tokenVersionClaim ∧ ¬ Carried rt claims securityStampClaim

def HoldsGrant (grant : Option String) : Prop := ∃ id, grant = some id ∧ isWellFormed id = true

/-- Two flows send alike, and what they write is no claim's: whatever record a send writes, its
version material is the held grant's and it names no client. -/
structure GrantUnsteered (rt : Runtime) (flow flow' : Ambient) : Prop where
  same : ∀ s, createForSend rt flow s = createForSend rt flow' s
  unwritten : ∀ {s delegationId redis record}, createForSend rt flow s = .ok (some delegationId, redis) →
    Wrote s record delegationId redis → ∃ held, Holds flow s held ∧
      record.tokenVersion = held.tokenVersion ∧ record.securityStamp = held.securityStamp ∧
      record.clientId = ""

theorem versionMaterial_some (rt : Runtime) (claims : Fields) :
    versionMaterial rt (some claims) =
      (versionText rt (claims.get tokenVersionClaim), versionText rt (claims.get securityStampClaim)) := by
  cases claims with
  | nil => rfl
  | cons claim claims => rfl

/-- The version material is not among the reserved claims: the wash keeps it. -/
theorem versionMaterial_strip (rt : Runtime) (claims : Fields) :
    versionMaterial rt (some (stripReservedClaims claims)) =
      (versionText rt (claims.get tokenVersionClaim), versionText rt (claims.get securityStampClaim)) := by
  rw [versionMaterial_some, get_washed_other (by decide), get_washed_other (by decide)]

/-! ### A user's send, by what the claims hold -/

section Send
variable {rt : Runtime} {ambient : Ambient} {s : SendWorld} {c : BlocksContext}

theorem createForSend_user (hc : ambient.context = some c) (hauth : c.isAuthenticated = true)
    (htenant : c.tenantId ≠ "") (huser : c.userId ≠ "") :
    createForSend rt ambient s = createForUser rt ambient s c := by
  simp [createForSend, hc, hauth, htenant, huser]

theorem createForUser_versioned {tokenVersion securityStamp : String}
    (htv : given (versionMaterial rt ambient.authClaims).1 = some tokenVersion)
    (hss : given (versionMaterial rt ambient.authClaims).2 = some securityStamp) :
    createForUser rt ambient s c =
      .ok (grantOrNone s.redis (createGrant s c tokenVersion securityStamp)) := by
  simp [createForUser, sendMaterial, grantFor, htv, hss, bind, Except.bind, pure, Except.pure]

theorem createForUser_unversioned (htv : given (versionMaterial rt ambient.authClaims).1 = none)
    (hss : given (versionMaterial rt ambient.authClaims).2 = none) :
    createForUser rt ambient s c = (do return grantFor s c (← readFromHeldGrant ambient s c)) := by
  simp only [createForUser, sendMaterial, htv, hss, Option.isNone_none, Bool.and_self, if_true]

/-- Half of the version material is no ground for a grant, and keeps the held one from being
asked. -/
theorem createForUser_half
    (h : given (versionMaterial rt ambient.authClaims).1 = none ↔
      ¬ given (versionMaterial rt ambient.authClaims).2 = none) :
    createForUser rt ambient s c = .ok (none, s.redis) := by
  unfold createForUser sendMaterial
  cases htv : given (versionMaterial rt ambient.authClaims).1 with
  | none =>
    cases hss : given (versionMaterial rt ambient.authClaims).2 with
    | none => exact absurd hss (h.mp htv)
    | some securityStamp => simp [grantFor, htv, hss, bind, Except.bind, pure, Except.pure]
  | some tokenVersion =>
    cases hss : given (versionMaterial rt ambient.authClaims).2 with
    | none => simp [grantFor, htv, hss, bind, Except.bind, pure, Except.pure]
    | some securityStamp =>
      rw [htv, hss] at h
      simp at h

theorem readFromHeldGrant_none (h : ¬ HoldsGrant ambient.grant) :
    readFromHeldGrant ambient s c = .ok (none, none) := by
  have hread : readHeldGrant ambient s c.tenantId = .ok none := by
    unfold readHeldGrant
    cases hg : given ambient.grant with
    | none => rfl
    | some id =>
      have hid : ambient.grant = some id := given_some hg
      have hform : isWellFormed id = false := by
        cases hw : isWellFormed id with
        | false => rfl
        | true => exact absurd ⟨id, hid, hw⟩ h
      simp [getGrant, hform, bind, Except.bind, pure, Except.pure]
  simp [readFromHeldGrant, hread, bind, Except.bind, pure, Except.pure]

end Send

/-! ### Two external tokens -/

/-- The flow an external token leaves: its context, and its washed claims. -/
structure ExternalFlow (claims : Fields) (c : BlocksContext) (flow : Ambient) : Prop where
  context : flow.context = some c
  claims : flow.authClaims = some (stripReservedClaims claims)
  authenticated : c.isAuthenticated = true
  tenant : c.tenantId ≠ ""
  user : c.userId ≠ ""

theorem externalFlow {w : World} {now : Jwt.Micros} {request : Request} {ambient flow : Ambient}
    {v : Validated} {provider : ThirdPartyJwtProvider} {payload : Fields}
    (hv : authenticateToken w now request ambient.context = .ok v) (hp : v.provider = some provider)
    (hrun : authenticate w now request ambient = (.ok payload, flow)) :
    ∃ c, ExternalFlow v.claims c flow ∧ flow.grant = ambient.grant := by
  obtain ⟨v', c, hv', hc, hflow⟩ := authenticate_ok hrun
  cases hv.symm.trans hv'
  simp only [createContext, hp] at hc
  obtain ⟨hpayload, _, hauth, htenant, huser⟩ := externalContext_ok hc
  subst hflow hpayload
  exact ⟨c, ⟨rfl, rfl, hauth, htenant, huser⟩, rfl⟩

theorem readFromHeldGrant_congr {flow flow' : Ambient} (h : flow.grant = flow'.grant) (s : SendWorld)
    (c : BlocksContext) : readFromHeldGrant flow s c = readFromHeldGrant flow' s c := by
  unfold readFromHeldGrant readHeldGrant
  rw [h]

namespace ExternalFlow
variable {rt : Runtime} {claims : Fields} {c : BlocksContext} {flow : Ambient}

theorem material (h : ExternalFlow claims c flow) : versionMaterial rt flow.authClaims =
    (versionText rt (claims.get tokenVersionClaim), versionText rt (claims.get securityStampClaim)) := by
  rw [h.claims, versionMaterial_strip]

theorem send (h : ExternalFlow claims c flow) (s : SendWorld) :
    createForSend rt flow s = createForUser rt flow s c :=
  createForSend_user h.context h.authenticated h.tenant h.user

/-- With both claims there a grant is written on them, whatever the database holds. -/
theorem send_versioned (h : ExternalFlow claims c flow) (hv : Versioned rt claims) {s : SendWorld}
    (hs : s.outage.write = none) :
    ∃ record delegationId redis, createForSend rt flow s = .ok (some delegationId, redis) ∧
      Wrote s record delegationId redis := by
  obtain ⟨tokenVersion, htv⟩ := Option.ne_none_iff_exists'.mp hv.1
  obtain ⟨securityStamp, hss⟩ := Option.ne_none_iff_exists'.mp hv.2
  rw [h.send, createForUser_versioned (by rw [h.material]; exact htv) (by rw [h.material]; exact hss)]
  obtain ⟨delegationId, redis, hcreated, hwrote⟩ := createGrant_writes hs h.tenant h.user
  exact ⟨_, delegationId, redis, by rw [hcreated, grantOrNone], hwrote⟩

theorem send_half (h : ExternalFlow claims c flow) (hv : ¬ Versioned rt claims)
    (hu : ¬ Unversioned rt claims) (s : SendWorld) : createForSend rt flow s = .ok (none, s.redis) := by
  rw [h.send]
  apply createForUser_half
  rw [h.material]
  unfold Versioned at hv
  unfold Unversioned at hu
  unfold Carried at hv hu
  constructor
  · intro htv hss
    exact hu ⟨not_not_intro htv, not_not_intro hss⟩
  · intro hss
    by_contra htv
    exact hv ⟨htv, hss⟩

theorem send_unversioned (h : ExternalFlow claims c flow) (hu : Unversioned rt claims) (s : SendWorld) :
    createForSend rt flow s = (do return grantFor s c (← readFromHeldGrant flow s c)) := by
  have htv := Decidable.not_not.mp hu.1
  have hss := Decidable.not_not.mp hu.2
  rw [h.send]
  apply createForUser_unversioned
  · rw [h.material]
    exact htv
  · rw [h.material]
    exact hss

/-- What is not written on the claims is written on the held grant. -/
theorem unwritten (h : ExternalFlow claims c flow) (hv : ¬ Versioned rt claims) {s : SendWorld}
    {delegationId : String} {redis : Redis} {record : DelegationGrantRecord}
    (hsent : createForSend rt flow s = .ok (some delegationId, redis))
    (hwrote : Wrote s record delegationId redis) :
    ∃ held, Holds flow s held ∧ record.tokenVersion = held.tokenVersion ∧
      record.securityStamp = held.securityStamp ∧ record.clientId = "" := by
  obtain ⟨c', written, hc', hgrounds, hwritten⟩ := createForSend_some hsent
  cases hc'.symm.trans h.context
  rw [hwrote.unique hwritten]
  cases hgrounds with
  | userClaims _ htv hss =>
    rw [h.material] at htv hss
    exfalso
    apply hv
    constructor
    · unfold Carried
      rw [htv]
      simp
    · unfold Carried
      rw [hss]
      simp
  | userHeld _ _ _ hholds => exact ⟨_, hholds, rfl, rfl, rfl⟩
  | clientClaims huser => exact absurd huser h.user
  | clientHeld huser => exact absurd huser h.user

/-- A grant of the context's own user, in the database under the id the flow holds. -/
theorem send_held (h : ExternalFlow claims c flow) (hu : Unversioned rt claims)
    (hholds : HoldsGrant flow.grant) :
    ∃ s delegationId redis, createForSend rt flow s = .ok (some delegationId, redis) := by
  obtain ⟨id, hid, hform⟩ := hholds
  have hne : id.isEmpty = false := by
    cases hempty : id.isEmpty with
    | false => rfl
    | true =>
      rw [String.isEmpty_iff.mp hempty] at hform
      exact absurd hform (by decide)
  let held : DelegationGrantRecord :=
    { tenantId := c.tenantId, userId := c.userId, organizationId := c.organizationId, tokenVersion := "1",
      securityStamp := "1" }
  let s : SendWorld :=
    { redis := ({} : Redis).setex (grantKey id) 1 held.toWireJson, random := grantToken 'a' (by decide) }
  have hget : getGrant s id = .ok (some held) := by
    simp only [getGrant, hform, s, Redis.get_setex]
    rfl
  have hread : readFromHeldGrant flow s c = .ok (some "1", some "1") := by
    simp [readFromHeldGrant, readHeldGrant, hid, given, hne, hget, held,
      DelegationGrantRecord.isClientGrant, bind, Except.bind, pure, Except.pure]
  obtain ⟨delegationId, redis, hcreated, _⟩ :
      ∃ delegationId redis, createGrant s c "1" "1" = .ok (delegationId, redis) ∧
        Wrote s (userRecord c "1" "1") delegationId redis :=
    createGrant_writes rfl h.tenant h.user
  refine ⟨s, delegationId, redis, ?_⟩
  rw [h.send_unversioned hu, hread]
  simp [grantFor, given, hcreated, grantOrNone, bind, Except.bind, pure, Except.pure]

theorem send_unheld (h : ExternalFlow claims c flow) (hv : ¬ Versioned rt claims)
    (hholds : ¬ HoldsGrant flow.grant) (s : SendWorld) :
    createForSend rt flow s = .ok (none, s.redis) := by
  by_cases hu : Unversioned rt claims
  · rw [h.send_unversioned hu, readFromHeldGrant_none hholds]
    rfl
  · exact h.send_half hv hu s

theorem not_holds_empty {held : DelegationGrantRecord} {random : GrantToken} :
    ¬ Holds flow { random } held := by
  intro h
  obtain ⟨id, _, hget⟩ := h
  unfold getGrant at hget
  split at hget
  · cases hget
  · cases hget

theorem unsteered_iff {claims' : Fields} {flow' : Ambient} (h : ExternalFlow claims c flow)
    (h' : ExternalFlow claims' c flow') (hgrant : flow.grant = flow'.grant) :
    GrantUnsteered rt flow flow' ↔ ¬ Versioned rt claims ∧ ¬ Versioned rt claims' ∧
      ((Unversioned rt claims ↔ Unversioned rt claims') ∨ ¬ HoldsGrant flow.grant) := by
  constructor
  · intro hun
    have hnot : ¬ Versioned rt claims := by
      intro hver
      obtain ⟨_, _, _, hsent, hwrote⟩ :=
        h.send_versioned hver (s := { random := grantToken 'a' (by decide) }) rfl
      obtain ⟨_, hholds, _⟩ := hun.unwritten hsent hwrote
      exact not_holds_empty hholds
    have hnot' : ¬ Versioned rt claims' := by
      intro hver
      obtain ⟨_, _, _, hsent, hwrote⟩ :=
        h'.send_versioned hver (s := { random := grantToken 'a' (by decide) }) rfl
      rw [← hun.same] at hsent
      obtain ⟨_, hholds, _⟩ := hun.unwritten hsent hwrote
      exact not_holds_empty hholds
    refine ⟨hnot, hnot', ?_⟩
    by_cases hheld : HoldsGrant flow.grant
    · left
      constructor
      · intro hu
        by_contra hu'
        obtain ⟨s, _, _, hsent⟩ := h.send_held hu hheld
        rw [hun.same, h'.send_half hnot' hu'] at hsent
        cases hsent
      · intro hu'
        by_contra hu
        obtain ⟨s, _, _, hsent⟩ := h'.send_held hu' (hgrant ▸ hheld)
        rw [← hun.same, h.send_half hnot hu] at hsent
        cases hsent
    · exact .inr hheld
  · intro hboth
    obtain ⟨hnot, hnot', hclass⟩ := hboth
    refine ⟨?_, h.unwritten hnot⟩
    intro s
    rcases hclass with hclass | hheld
    · by_cases hu : Unversioned rt claims
      · rw [h.send_unversioned hu, h'.send_unversioned (hclass.mp hu), readFromHeldGrant_congr hgrant]
      · have hu' : ¬ Unversioned rt claims' := fun hu' => hu (hclass.mpr hu')
        rw [h.send_half hnot hu, h'.send_half hnot' hu']
    · rw [h.send_unheld hnot hheld, h'.send_unheld hnot' (hgrant ▸ hheld)]

end ExternalFlow

/-- Two external tokens that leave the same context steer no grant exactly when neither carries
the whole version material, and both or none of them leave it to the held grant, if there is one. -/
theorem external_grants_iff {w : World} {now now' : Jwt.Micros} {request request' : Request}
    {ambient ambient' flow flow' : Ambient} {v v' : Validated} {provider provider' : ThirdPartyJwtProvider}
    {payload payload' : Fields}
    (hv : authenticateToken w now request ambient.context = .ok v) (hp : v.provider = some provider)
    (hrun : authenticate w now request ambient = (.ok payload, flow))
    (hv' : authenticateToken w now' request' ambient'.context = .ok v') (hp' : v'.provider = some provider')
    (hrun' : authenticate w now' request' ambient' = (.ok payload', flow'))
    (hcontext : flow.context = flow'.context) (hgrant : ambient.grant = ambient'.grant) :
    GrantUnsteered w.runtime flow flow' ↔
      ¬ Versioned w.runtime v.claims ∧ ¬ Versioned w.runtime v'.claims ∧
        ((Unversioned w.runtime v.claims ↔ Unversioned w.runtime v'.claims) ∨
          ¬ HoldsGrant ambient.grant) := by
  obtain ⟨c, hflow, hheld⟩ := externalFlow hv hp hrun
  obtain ⟨c', hflow', hheld'⟩ := externalFlow hv' hp' hrun'
  rw [hflow.context, hflow'.context] at hcontext
  cases hcontext
  rw [← hheld]
  exact hflow.unsteered_iff hflow' (by rw [hheld, hheld', hgrant])

def versionedClaims (securityStamp : String) : Fields :=
  adaClaims ++ [("token_version", .int 1), ("security_stamp", .str securityStamp)]

def adaExternal : BlocksContext :=
  { tenantId := "acme", originalTenantId := "acme", userId := "ada_external", organizationId := "default",
    isAuthenticated := true }

def adaFlow (claims : Fields) : Ambient where
  context := some adaExternal
  authClaims := some (stripReservedClaims (claims.set BlocksContext.requestUriClaim (.str "")))

theorem external_grants_iff_ada :
    GrantUnsteered asciiRuntime (adaFlow adaClaims) (adaFlow craftedClaims) ↔
      ¬ Versioned asciiRuntime (acmeValidated "token" adaClaims).claims ∧
        ¬ Versioned asciiRuntime (acmeValidated "other" craftedClaims).claims ∧
        ((Unversioned asciiRuntime (acmeValidated "token" adaClaims).claims ↔
            Unversioned asciiRuntime (acmeValidated "other" craftedClaims).claims) ∨
          ¬ HoldsGrant none) :=
  @external_grants_iff (acmePair adaClaims craftedClaims) 0 5 (bearerRequest "token")
    (bearerRequest "other") {} {} (adaFlow adaClaims) (adaFlow craftedClaims)
    (acmeValidated "token" adaClaims) (acmeValidated "other" craftedClaims) acmeProvider acmeProvider
    _ _ rfl rfl rfl rfl rfl rfl rfl rfl

/-- Two tokens that leave the same context, and whose stamps end up in the grants. -/
theorem external_stamp_reaches_grant :
    (authenticate (acmePair (versionedClaims "one") (versionedClaims "two")) 0 (bearerRequest "token") {}).2 =
        adaFlow (versionedClaims "one") ∧
      (authenticate (acmePair (versionedClaims "one") (versionedClaims "two")) 0 (bearerRequest "other") {}).2 =
        adaFlow (versionedClaims "two") ∧
      ¬ GrantUnsteered asciiRuntime (adaFlow (versionedClaims "one")) (adaFlow (versionedClaims "two")) := by
  refine ⟨rfl, rfl, ?_⟩
  intro hun
  have hflow : ∀ claims, ExternalFlow (claims.set BlocksContext.requestUriClaim (.str "")) adaExternal
      (adaFlow claims) := fun claims => ⟨rfl, rfl, rfl, by decide, by decide⟩
  have hversioned : Versioned asciiRuntime
      ((versionedClaims "one").set BlocksContext.requestUriClaim (.str "")) := by
    unfold Versioned Carried
    decide
  obtain ⟨hnot, _, _⟩ :=
    ((hflow (versionedClaims "one")).unsteered_iff (hflow (versionedClaims "two")) rfl).mp hun
  exact hnot hversioned

end BlocksGenesis.Delegation
