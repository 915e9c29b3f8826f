import BlocksGenesis.Auth.Fallback

namespace BlocksGenesis.Auth
open Python BlocksContext

/-! ## The primary path -/

/-- `tenant_service.get_tenant` on a claim of any type: only a string can name a tenant, and
what cannot be a dictionary key is an error. -/
def getTenantByClaim (w : World) : Json → Except Exc (Option Tenant)
  | .str s => .ok (if s.isEmpty then none else w.getTenant s)
  | .arr _ | .obj _ => .error (.typeError "unhashable type")
  | _ => .ok none

/-- Resolve the tenant whose signing key produced the token: the home tenant of an
impersonation token, the given tenant for any other. -/
def resolveSigningTenant (w : World) (token : String) (tenant : Tenant) (tenantId : String) :
    Except Exc Tenant :=
  match w.jwt.read token with
  | none => .ok tenant
  | some claims =>
    let signerId := claims.get originalTenantIdClaim
    if (claims.get impersonatedClaim).truthy && signerId.truthy && !isText tenantId signerId then do
      return (← getTenantByClaim w signerId).getD tenant
    else .ok tenant

def primaryCall (parameters : JwtTokenParameters) (key : VerificationKey) :
    Jwt.Call VerificationKey where
  key
  algorithms := ["RS256"]
  issuer := parameters.issuer
  audience := some parameters.audiences
  options := { required := ["exp", "iat", "iss", "aud", "nbf"] }
  leeway := 0

def tenantKey (w : World) (tenant : Tenant) (parameters : JwtTokenParameters) :
    Except Exc VerificationKey := do
  match ← w.getTenantCert tenant with
  | none | some [] => throw (.http 500 "Failed to load certificate")
  | some bytes =>
    match w.publicKey bytes parameters.publicCertificatePassword with
    | none => throw (.http 500 "Failed to load certificate")
    | some pem => return .certificate pem

def validateJwtToken (w : World) (now : Jwt.Micros) (token : String) (tenant : Tenant)
    (request : Request) : Except Exc Fields :=
  match tenant.jwtTokenParameters with
  | none => .error (.http 401 "Invalid tenant configuration")
  | some parameters => do
    let key ← tenantKey w tenant parameters
    match w.jwt.decode (primaryCall parameters key) now token with
    | .ok claims => return (claims.set requestUriClaim (.str request.url)).set tokenClaim (.str token)
    | .error .expiredSignature => throw (.http 401 "Token expired")
    | .error e => throw e

/-- Validate the token against the correct signer. The provider is none for a Blocks token. -/
def validateAuthenticatedToken (w : World) (now : Jwt.Micros) (token : String) (isThirdParty : Bool)
    (tenant : Tenant) (tenantId : String) (request : Request) :
    Except Exc (Fields × Option ThirdPartyJwtProvider) :=
  let external := if isThirdParty || tenant.isThirdPartyJwtEnabled then
    validateWithFallback w now token (some tenant) request else none
  match external with
  | some v => .ok (v.claims, some v.provider)
  | none =>
    if isThirdParty then .error (.http 401 "Token validation failed")
    else do
      let signer ← resolveSigningTenant w token tenant tenantId
      match validateJwtToken w now token signer request with
      | .ok claims => return (claims, none)
      | .error e => throw (if e.isInvalidToken then .http 401 "Token validation failed" else e)

/-! ## authenticate -/

/-- The tenant key of a request and the record it loads: the context's tenant first, what the
request carries when there is none. -/
def loadTenant (w : World) (request : Request) (context : Option BlocksContext) :
    Option (String × Tenant) := do
  let tenantId ← (given (context.map BlocksContext.tenantId)).or (requestTenantKey request)
  let tenant ← w.getTenant tenantId
  return (tenantId, tenant)

structure Validated where
  token : String
  tenantId : String
  tenant : Tenant
  applicationDomain : Option String
  claims : Fields
  provider : Option ThirdPartyJwtProvider

/-- The first steps of `authenticate`: extract, load the tenant, validate. -/
def authenticateToken (w : World) (now : Jwt.Micros) (request : Request)
    (context : Option BlocksContext) : Except Exc Validated :=
  let extracted := extractTokenFromRequest w.runtime w.getTenant request context
  match given extracted.token with
  | none => .error (.http 401 "Token missing")
  | some token =>
    match loadTenant w request context with
    | none => .error (.http 401 "Tenant not found")
    | some (tenantId, tenant) => do
      let (claims, provider) ←
        validateAuthenticatedToken w now token extracted.isThirdParty tenant tenantId request
      return ⟨token, tenantId, tenant, extracted.applicationDomain, claims, provider⟩

def externalContext (rt : Runtime) (tenantId : Option String) (applicationDomain : Option String)
    (url : String) (claims : Fields) (provider : ThirdPartyJwtProvider) :
    Except Exc (Fields × BlocksContext) := do
  let payload := stripReservedClaims claims
  match ← mapThirdPartyClaims rt payload provider with
  | none => throw (.http 401 "Token validation failed")
  | some mapped =>
    match createThirdPartyContext rt tenantId mapped.subject provider.defaultOrganizationId mapped.roles
        mapped.email mapped.userName (.str mapped.displayName) (applicationDomain.getD "") url with
    | .ok context => return (payload, context)
    | .error e => throw (if e.isValueError then .http 401 "Token validation failed" else e)

def createContext (w : World) (request : Request) (v : Validated) :
    Except Exc (Fields × BlocksContext) :=
  match v.provider with
  | some provider =>
    externalContext w.runtime v.tenant.tenantId v.applicationDomain request.url v.claims provider
  | none => do
    let context ← createFromJwtClaims w.runtime v.claims v.tenantId (v.applicationDomain.getD "")
    return (v.claims, context)

/-- The main authentication handler. Nothing is stored until the context is built. -/
def authenticate (w : World) (now : Jwt.Micros) (request : Request) (ambient : Ambient) :
    Except Exc Fields × Ambient :=
  match authenticateToken w now request ambient.context >>= createContext w request with
  | .ok (payload, context) =>
    (.ok payload, { ambient with context := some context, authClaims := some payload })
  | .error e => (.error e, ambient)

/-! ## What an accepted Blocks token went through -/

theorem validateJwtToken_ok {w : World} {now : Jwt.Micros} {token : String} {tenant : Tenant}
    {request : Request} {claims : Fields} (h : validateJwtToken w now token tenant request = .ok claims) :
    ∃ parameters key decoded, tenant.jwtTokenParameters = some parameters ∧
      tenantKey w tenant parameters = .ok key ∧
      w.jwt.decode (primaryCall parameters key) now token = .ok decoded ∧
      claims = (decoded.set requestUriClaim (.str request.url)).set tokenClaim (.str token) := by
  unfold validateJwtToken at h
  cases hp : tenant.jwtTokenParameters with
  | none => simp [hp] at h
  | some parameters =>
    simp only [hp] at h
    obtain ⟨key, hkey, h⟩ := bind_ok_iff.mp h
    split at h
    · rename_i decoded hd
      exact ⟨parameters, key, decoded, rfl, hkey, hd, (pure_ok_iff.mp h).symm⟩
    · cases h
    · cases h

theorem validateAuthenticatedToken_primary {w : World} {now : Jwt.Micros} {token : String}
    {isThirdParty : Bool} {tenant : Tenant} {tenantId : String} {request : Request} {claims : Fields}
    (h : validateAuthenticatedToken w now token isThirdParty tenant tenantId request = .ok (claims, none)) :
    ∃ signer, resolveSigningTenant w token tenant tenantId = .ok signer ∧
      validateJwtToken w now token signer request = .ok claims := by
  unfold validateAuthenticatedToken at h
  dsimp only at h
  split at h
  · simp at h
  · split at h
    · simp at h
    · obtain ⟨signer, hs, h⟩ := bind_ok_iff.mp h
      split at h
      · rename_i found hv
        simp only [pure_ok_iff, Prod.mk.injEq, and_true] at h
        subst h
        exact ⟨signer, hs, hv⟩
      · cases h

theorem authenticateToken_ok {w : World} {now : Jwt.Micros} {request : Request}
    {context : Option BlocksContext} {v : Validated}
    (h : authenticateToken w now request context = .ok v) :
    loadTenant w request context = some (v.tenantId, v.tenant) ∧
      ∃ isThirdParty, validateAuthenticatedToken w now v.token isThirdParty v.tenant v.tenantId request =
        .ok (v.claims, v.provider) := by
  unfold authenticateToken at h
  dsimp only at h
  split at h
  · simp at h
  · split at h
    · simp at h
    · rename_i tenantId tenant hload
      obtain ⟨⟨claims, provider⟩, hval, h⟩ := bind_ok_iff.mp h
      cases pure_ok_iff.mp h
      exact ⟨hload, _, hval⟩

theorem loadTenant_key {w : World} {request : Request} {context : Option BlocksContext}
    {tenantId : String} {tenant : Tenant} (h : loadTenant w request context = some (tenantId, tenant)) :
    tenantId ≠ "" ∧ w.getTenant tenantId = some tenant := by
  simp only [loadTenant, Option.bind_eq_bind, Option.bind_eq_some_iff, pure, Option.some.injEq,
    Prod.mk.injEq] at h
  obtain ⟨key, hkey, t, ht, rfl, rfl⟩ := h
  refine ⟨?_, ht⟩
  rcases Option.or_eq_some_iff.mp hkey with hk | ⟨_, hk⟩
  · exact given_ne_empty hk
  · simp only [requestTenantKey, Option.or_eq_some_iff] at hk
    rcases hk with (hk | ⟨_, hk⟩) | ⟨_, hk⟩
    all_goals exact given_ne_empty hk

theorem authenticate_ok {w : World} {now : Jwt.Micros} {request : Request} {ambient ambient' : Ambient}
    {payload : Fields} (h : authenticate w now request ambient = (.ok payload, ambient')) :
    ∃ v context, authenticateToken w now request ambient.context = .ok v ∧
      createContext w request v = .ok (payload, context) ∧
      ambient' = { ambient with context := some context, authClaims := some payload } := by
  unfold authenticate at h
  split at h
  · rename_i p context hr
    obtain ⟨v, hv, hc⟩ := bind_ok_iff.mp hr
    simp only [Prod.mk.injEq, Except.ok.injEq] at h
    obtain ⟨rfl, rfl⟩ := h
    exact ⟨v, context, hv, hc, rfl⟩
  · simp at h

/-- A refusal leaves the flow as it was. -/
theorem authenticate_error {w : World} {now : Jwt.Micros} {request : Request}
    {ambient ambient' : Ambient} {e : Exc}
    (h : authenticate w now request ambient = (.error e, ambient')) : ambient' = ambient := by
  unfold authenticate at h
  split at h
  · simp at h
  · simp only [Prod.mk.injEq] at h
    exact h.2.symm

def bearerRequest (token : String) : Request where
  headers := [("authorization", "Bearer " ++ token), ("x-blocks-key", "acme")]

end BlocksGenesis.Auth
