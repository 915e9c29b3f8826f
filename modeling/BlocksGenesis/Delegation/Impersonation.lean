import BlocksGenesis.Auth.Binding
import BlocksGenesis.Auth.Permission
import BlocksGenesis.Delegation.Factory

namespace BlocksGenesis.Delegation
open Python BlocksGenesis.Auth BlocksContext

/-! ## The home tenant of an impersonation -/

def VerifiedBy (w : World) (tenant : Tenant) (token : String) : Prop :=
  ∃ parameters key, tenant.jwtTokenParameters = some parameters ∧
    tenantKey w tenant parameters = .ok key ∧ w.jwt.verifies key token = true

/-- The home tenant is kept at every place that works it out: by the signature, in the context, in
the permission check and in each grant a send in that context writes. -/
structure KeepsHome (w : World) (homeTenant : Tenant) (home token : String) (context : BlocksContext) :
    Prop where
  verified : VerifiedBy w homeTenant token
  original : context.originalTenantId = home
  permissions : ∀ tenantId, effectiveTenant (some context) tenantId = home
  grants : ∀ {ambient s delegationId redis record}, ambient.context = some context →
    createForSend w.runtime ambient s = .ok (some delegationId, redis) →
    Wrote s record delegationId redis → record.originalTenantId = home

theorem resolveSigningTenant_home {w : World} {token home tenantId : String} {tenant homeTenant : Tenant}
    {claims : Fields} (hread : w.jwt.read token = some claims)
    (himpersonated : claims.get impersonatedClaim = .bool true)
    (horiginal : claims.get originalTenantIdClaim = .str home) (hne : home ≠ "")
    (hknown : w.getTenant home = some homeTenant) (hother : tenantId ≠ home) :
    resolveSigningTenant w token tenant tenantId = .ok homeTenant := by
  have htext : isText tenantId (.str home) = false := by
    simpa [isText] using Ne.symm hother
  have hclaim : getTenantByClaim w (.str home) = .ok (some homeTenant) := by
    simp [getTenantByClaim, hne, hknown]
  have htruthy : (Json.bool true).truthy = true := rfl
  simp only [resolveSigningTenant, hread, himpersonated, horiginal, htext, hclaim, htruthy,
    Json.truthy_str hne, Bool.and_self, Bool.not_false, if_true]
  rfl

/-- A grant names the context's own original tenant, or none at all. -/
theorem Grounds.originalTenantId {rt : Runtime} {ambient : Ambient} {s : SendWorld}
    {c : BlocksContext} {record : DelegationGrantRecord} (h : Grounds rt ambient s c record) :
    record.originalTenantId = c.originalTenantId ∨ record.originalTenantId = "" := by
  cases h with
  | userClaims | userHeld =>
    cases hc : c.impersonated with
    | true => exact .inl (by simp [userRecord, hc])
    | false => exact .inr (by simp [userRecord, hc])
  | clientClaims | clientHeld => exact .inr rfl

/-- The signature is the home tenant's, but every later place takes the tenant of the request
for it: the context, the permission check and the grants. -/
theorem impersonation_loses_home {w : World} {now : Jwt.Micros} {request : Request} {ambient : Ambient}
    {v : Validated} {context : BlocksContext} {claims : Fields} {home : String} {homeTenant : Tenant}
    (hjwt : Jwt.Documented w.jwt) (h : AcceptedPrimary w now request ambient v context)
    (hread : w.jwt.read v.token = some claims)
    (himpersonated : claims.get impersonatedClaim = .bool true)
    (horiginal : claims.get originalTenantIdClaim = .str home) (hne : home ≠ "")
    (hknown : w.getTenant home = some homeTenant) (hother : v.tenantId ≠ home) :
    ¬ KeepsHome w homeTenant home v.token context ∧ VerifiedBy w homeTenant v.token ∧
      context.originalTenantId = v.tenantId ∧
      (∀ tenantId, effectiveTenant (some context) tenantId = v.tenantId) ∧
      ∀ {ambient s delegationId redis record}, ambient.context = some context →
        createForSend w.runtime ambient s = .ok (some delegationId, redis) →
        Wrote s record delegationId redis → record.originalTenantId ≠ home := by
  obtain ⟨claims', signer, parameters, key, hread', hclaims, hsigner, hparameters, hkey, hverifies⟩ :=
    primary_claims hjwt h.validated h.primary
  cases hread.symm.trans hread'
  obtain ⟨hload, _⟩ := authenticateToken_ok h.validated
  have hhome : signer = homeTenant := by
    rw [resolveSigningTenant_home hread himpersonated horiginal hne hknown hother] at hsigner
    exact (Except.ok.inj hsigner).symm
  have htenant : v.tenantId ≠ "" := (loadTenant_key hload).1
  have hcontext : context.originalTenantId = v.tenantId := createFromJwtClaims_original h.created htenant
  have himp : context.impersonated = true := by
    apply createFromJwtClaims_impersonated h.created
    rw [hclaims, getD_set_other (by decide), getD_set_other (by decide)]
    exact Fields.getD_of_get himpersonated (by simp)
  have heffective : ∀ tenantId, effectiveTenant (some context) tenantId = v.tenantId := by
    intro tenantId
    simp [effectiveTenant, himp, hcontext, htenant]
  refine ⟨?_, hhome ▸ ⟨parameters, key, hparameters, hkey, hverifies⟩, hcontext, heffective, ?_⟩
  · intro hkeeps
    exact hother (hcontext.symm.trans hkeeps.original)
  · intro ambient s delegationId redis record hambient hsent hwrote
    obtain ⟨c, written, hc, hgrounds, hwritten⟩ := createForSend_some hsent
    cases hambient.symm.trans hc
    rw [hwrote.unique hwritten]
    rcases hgrounds.originalTenantId with ho | ho
    · rw [ho, hcontext]
      exact hother
    · rw [ho]
      exact Ne.symm hne

/-- A token with which ada, whose home is another tenant, impersonates at acme. -/
def impersonationClaims : Fields :=
  [("tenant_id", .str "acme"), ("user_id", .str "ada"), ("impersonated", .bool true),
    ("original_tenant_id", .str "home"), ("impersonation_session_id", .str "s1")]

theorem impersonation_loses_home_ada :
    ∃ (v : Validated) (context : BlocksContext),
      ¬ KeepsHome (blocksWorld "home" impersonationClaims) (blocksTenant "home") "home" v.token context ∧
        context.impersonationSessionId = "s1" := by
  refine ⟨_, _, (@impersonation_loses_home (blocksWorld "home" impersonationClaims) 0 (bearerRequest "token")
    {} _ _ _ "home" (blocksTenant "home") (Jwt.ofMinted_documented _) ⟨rfl, rfl, _, rfl⟩ rfl rfl rfl
    (by decide) rfl (by decide)).1, rfl⟩

theorem impersonation_at_acme :
    ∃ (v : Validated) (context : BlocksContext),
      AcceptedPrimary (blocksWorld "home" impersonationClaims) 0 (bearerRequest "token") {} v context ∧
        context.impersonated = true ∧ context.originalTenantId = "acme" ∧
        effectiveTenant (some context) "" = "acme" ∧
        ¬ KeepsHome (blocksWorld "home" impersonationClaims) (blocksTenant "home") "home" v.token context :=
  ⟨_, _, ⟨rfl, rfl, _, rfl⟩, rfl, rfl, rfl, fun hkeeps => absurd hkeeps.original (by decide)⟩

end BlocksGenesis.Delegation
