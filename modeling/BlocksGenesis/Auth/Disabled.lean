import BlocksGenesis.Auth.Binding

namespace BlocksGenesis.Auth
open Python BlocksContext

/-! ## Who vouches for a token -/

/-- A run of `authenticate` that stores a context. -/
structure Accepted (w : World) (now : Jwt.Micros) (request : Request) (ambient : Ambient) (v : Validated)
    (context : BlocksContext) : Prop where
  validated : authenticateToken w now request ambient.context = .ok v
  stored : ∃ payload, authenticate w now request ambient =
    (.ok payload, { ambient with context := some context, authClaims := some payload })

/-- The record whose certificate verified the token, or whose provider row accepted it. -/
inductive Vouches (w : World) (now : Jwt.Micros) (request : Request) (v : Validated) : Tenant → Prop where
  | certificate {signer} : v.provider = none →
      resolveSigningTenant w v.token v.tenant v.tenantId = .ok signer →
      validateJwtToken w now v.token signer request = .ok v.claims → Vouches w now request v signer
  | row {provider} : v.provider = some provider →
      validateWithFallback w now v.token (some v.tenant) request = some ⟨v.claims, provider⟩ →
      Vouches w now request v v.tenant

/-- The record of the home tenant that an impersonation token names, if it is another one than the
request's and there is one. -/
def homeRecord (w : World) (token tenantId : String) : Option Tenant :=
  match w.jwt.read token with
  | none => none
  | some claims =>
    match claims.get originalTenantIdClaim with
    | .str home =>
      if (claims.get impersonatedClaim).truthy && !home.isEmpty && home != tenantId then w.getTenant home
      else none
    | _ => none

/-- A provider of the tenant takes the token, so that no certificate of a tenant is asked. -/
def ProviderAccepts (w : World) (now : Jwt.Micros) (request : Request) (context : Option BlocksContext)
    (tenant : Tenant) (token : String) : Prop :=
  ((extractTokenFromRequest w.runtime w.getTenant request context).isThirdParty ||
      tenant.isThirdPartyJwtEnabled) = true ∧
    (validateWithFallback w now token (some tenant) request).isSome = true

theorem resolveSigningTenant_home {w : World} {token tenantId : String} {tenant signer : Tenant}
    (h : resolveSigningTenant w token tenant tenantId = .ok signer) :
    signer = (homeRecord w token tenantId).getD tenant := by
  unfold resolveSigningTenant at h
  unfold homeRecord
  cases hread : w.jwt.read token with
  | none =>
    rw [hread] at h
    exact (Except.ok.inj h).symm
  | some claims =>
    rw [hread] at h
    dsimp only at h ⊢
    cases hsigner : claims.get originalTenantIdClaim with
    | str home =>
      rw [hsigner] at h
      have hsame : ((claims.get impersonatedClaim).truthy && (Json.str home).truthy &&
          !isText tenantId (.str home)) =
        ((claims.get impersonatedClaim).truthy && !home.isEmpty && home != tenantId) := rfl
      rw [hsame] at h
      dsimp only
      split at h
      · rename_i hhome
        rw [if_pos hhome]
        have hnamed : home.isEmpty = false := by
          simp only [Bool.and_eq_true, Bool.not_eq_true'] at hhome
          exact hhome.1.2
        simp only [getTenantByClaim, hnamed] at h
        exact (Except.ok.inj h).symm
      · rename_i hhome
        rw [if_neg hhome]
        exact (Except.ok.inj h).symm
    | _ =>
      -- what is no string names no tenant, or cannot be looked up at all
      rw [hsigner] at h
      split at h
      · first
          | exact (Except.ok.inj h).symm
          | cases h
      · exact (Except.ok.inj h).symm

/-- The token that was validated and the path it took. -/
theorem authenticateToken_path {w : World} {now : Jwt.Micros} {request : Request}
    {context : Option BlocksContext} {v : Validated} (h : authenticateToken w now request context = .ok v) :
    given (extractTokenFromRequest w.runtime w.getTenant request context).token = some v.token ∧
      loadTenant w request context = some (v.tenantId, v.tenant) ∧
      validateAuthenticatedToken w now v.token
        (extractTokenFromRequest w.runtime w.getTenant request context).isThirdParty v.tenant v.tenantId
        request = .ok (v.claims, v.provider) := by
  unfold authenticateToken at h
  dsimp only at h
  split at h
  · cases h
  · rename_i token htoken
    split at h
    · cases h
    · rename_i tenantId tenant hload
      obtain ⟨⟨claims, provider⟩, hval, h⟩ := bind_ok_iff.mp h
      cases pure_ok_iff.mp h
      exact ⟨htoken, hload, hval⟩

/-- A token is a provider's or was verified with the certificate of its signer. -/
theorem validateAuthenticatedToken_voucher {w : World} {now : Jwt.Micros} {token tenantId : String}
    {isThirdParty : Bool} {tenant : Tenant} {request : Request} {claims : Fields}
    {provider : Option ThirdPartyJwtProvider}
    (h : validateAuthenticatedToken w now token isThirdParty tenant tenantId request = .ok (claims, provider)) :
    (∃ p, provider = some p ∧ (isThirdParty || tenant.isThirdPartyJwtEnabled) = true ∧
        validateWithFallback w now token (some tenant) request = some ⟨claims, p⟩) ∨
      provider = none ∧
        ¬ ((isThirdParty || tenant.isThirdPartyJwtEnabled) = true ∧
          (validateWithFallback w now token (some tenant) request).isSome = true) ∧
        ∃ signer, resolveSigningTenant w token tenant tenantId = .ok signer ∧
          validateJwtToken w now token signer request = .ok claims := by
  cases provider with
  | none =>
    have hprimary := validateAuthenticatedToken_primary h
    refine .inr ⟨rfl, ?_, hprimary⟩
    intro hboth
    obtain ⟨henabled, haccepts⟩ := hboth
    obtain ⟨accepted, haccepted⟩ := Option.isSome_iff_exists.mp haccepts
    simp only [validateAuthenticatedToken, henabled, if_true, haccepted] at h
    cases h
  | some p =>
    left
    unfold validateAuthenticatedToken at h
    dsimp only at h
    split at h
    · rename_i accepted hexternal
      cases h
      split at hexternal
      · rename_i henabled
        exact ⟨_, rfl, henabled, hexternal⟩
      · cases hexternal
    · split at h
      · cases h
      · obtain ⟨signer, _, h⟩ := bind_ok_iff.mp h
        split at h
        · cases h
        · cases h

/-! ## What keeps a disabled tenant out -/

/-- The record loaded for the request is enabled and, unless one of its providers takes the token,
so is the home record that an impersonation token names. -/
def EnabledRecords (w : World) (now : Jwt.Micros) (request : Request) (context : Option BlocksContext) : Prop :=
  ∀ tenantId tenant, loadTenant w request context = some (tenantId, tenant) →
    tenant.isDisabled = false ∧
      ∀ token home, given (extractTokenFromRequest w.runtime w.getTenant request context).token = some token →
        ¬ ProviderAccepts w now request context tenant token → homeRecord w token tenantId = some home →
        home.isDisabled = false

/-- Neither the record of the request nor the one that vouched for the token is disabled exactly
when these records are enabled: nothing on the way looks at the flag. -/
theorem disabled_cannot_vouch_iff {w : World} {now : Jwt.Micros} {request : Request} {ambient : Ambient}
    {v : Validated} {context : BlocksContext} (h : Accepted w now request ambient v context) :
    (v.tenant.isDisabled = false ∧ ∀ tenant, Vouches w now request v tenant → tenant.isDisabled = false) ↔
      EnabledRecords w now request ambient.context := by
  obtain ⟨htoken, hload, hval⟩ := authenticateToken_path h.validated
  have hpath := validateAuthenticatedToken_voucher hval
  constructor
  · intro hboth tenantId tenant hload'
    obtain ⟨hloaded, hvouches⟩ := hboth
    cases hload.symm.trans hload'
    refine ⟨hloaded, ?_⟩
    intro token home htoken' hprimary hhome
    cases htoken.symm.trans htoken'
    rcases hpath with ⟨p, _, henabled, haccepts⟩ | ⟨hnone, _, signer, hsigner, hvalid⟩
    · exact absurd ⟨henabled, by rw [haccepts]; rfl⟩ hprimary
    · have he := resolveSigningTenant_home hsigner
      rw [hhome] at he
      rw [← show signer = home from he]
      exact hvouches signer (.certificate hnone hsigner hvalid)
  · intro henabled
    obtain ⟨hloaded, hhome⟩ := henabled _ _ hload
    refine ⟨hloaded, ?_⟩
    intro tenant hvouches
    cases hvouches with
    | row _ _ => exact hloaded
    | certificate hnone hsigner _ =>
      rcases hpath with ⟨p, hsome, _⟩ | ⟨_, hprimary, _⟩
      · rw [hnone] at hsome
        cases hsome
      · have he := resolveSigningTenant_home hsigner
        cases hrecord : homeRecord w v.token v.tenantId with
        | none =>
          rw [hrecord] at he
          rw [he]
          exact hloaded
        | some home =>
          rw [hrecord] at he
          rw [he]
          exact hhome v.token home htoken hprimary hrecord

/-! ## A disabled home tenant -/

/-- The token of a signer among two tenants, one of them perhaps disabled. -/
def closingWorld (homeDisabled : Bool) : World :=
  .ofTables
    [⟨"token", "RS256", .certificate "home",
      [("iss", .str "home"), ("aud", .str "api"), ("exp", .int 10), ("iat", .int 0), ("nbf", .int 0),
        ("tenant_id", .str "acme"), ("impersonated", .bool true), ("original_tenant_id", .str "home")]⟩]
    [("acme", blocksTenant "acme"), ("home", { blocksTenant "home" with isDisabled := homeDisabled })] []

theorem disabled_cannot_vouch_iff_home :
    ∃ v : Validated, (v.tenant.isDisabled = false ∧
        ∀ tenant, Vouches (closingWorld false) 0 (bearerRequest "token") v tenant → tenant.isDisabled = false) ↔
      EnabledRecords (closingWorld false) 0 (bearerRequest "token") none :=
  ⟨_, @disabled_cannot_vouch_iff (closingWorld false) 0 (bearerRequest "token") {} _ _ ⟨rfl, _, rfl⟩⟩

/-- The home tenant is disabled, and its token still opens acme. -/
theorem disabled_home_vouches :
    ∃ v context, Accepted (closingWorld true) 0 (bearerRequest "token") {} v context ∧
      ∃ signer, Vouches (closingWorld true) 0 (bearerRequest "token") v signer ∧ signer.isDisabled = true :=
  ⟨_, _, ⟨rfl, _, rfl⟩, _, .certificate rfl rfl rfl, rfl⟩

end BlocksGenesis.Auth
