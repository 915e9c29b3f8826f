import BlocksGenesis.Auth.ExternalClaims

/-! Which tokens `authenticate` answers with a context or an `HTTPException`, and with nothing else. -/

namespace BlocksGenesis.Auth
open Python BlocksContext

/-- Either the context and the claims of the token are set, or an `HTTPException` is raised and both are
what they were. -/
def AllOrNothing (w : World) (now : Jwt.Micros) (request : Request) (before : Ambient) : Prop :=
  match authenticate w now request before with
  | (.ok payload, after) => ∃ v context, authenticateToken w now request before.context = .ok v ∧
      createContext w request v = .ok (payload, context) ∧
      after = { before with context := some context, authClaims := some payload }
  | (.error e, after) => isHttp e ∧ after = before

/-! ## What the token has to be -/

/-- Nobody external accepts the token, and primary validation gets it. -/
structure GoesPrimary (w : World) (now : Jwt.Micros) (request : Request) (context : Option BlocksContext)
    (token tenantId : String) (tenant : Tenant) : Prop where
  carried : given (extractTokenFromRequest w.runtime w.getTenant request context).token = some token
  bearer : (extractTokenFromRequest w.runtime w.getTenant request context).isThirdParty = false
  loaded : loadTenant w request context = some (tenantId, tenant)
  declined : tenant.isThirdPartyJwtEnabled = true → validateWithFallback w now token (some tenant) request = none

/-- An impersonation token names its signer by what can be a key. -/
def SignerFits (w : World) (token : String) : Prop :=
  ∀ claims, w.jwt.read token = some claims → (claims.get impersonatedClaim).truthy = true →
    (claims.get originalTenantIdClaim).truthy = true →
    (∀ items, claims.get originalTenantIdClaim ≠ .arr items) ∧
      ∀ fields, claims.get originalTenantIdClaim ≠ .obj fields

/-- PyJWT refuses a token by its own class of errors. -/
def RefusedByKind (w : World) (now : Jwt.Micros) (token : String) (signer : Tenant) : Prop :=
  ∀ parameters key e, signer.jwtTokenParameters = some parameters → tenantKey w signer parameters = .ok key →
    w.jwt.decode (primaryCall parameters key) now token = .error e → e.isInvalidToken = true

def AcceptedFits (w : World) (v : Validated) : Prop :=
  match v.provider with
  | none => ClaimsFit w.runtime v.claims
  | some provider => provider.claimsMapping.isConfigured = true →
      ExternalFits w.runtime v.tenant.tenantId (stripReservedClaims v.claims) provider.claimsMapping

structure TokenFits (w : World) (now : Jwt.Micros) (request : Request) (context : Option BlocksContext) : Prop where
  signer : ∀ token tenantId tenant, GoesPrimary w now request context token tenantId tenant → SignerFits w token
  refusal : ∀ token tenantId tenant signer, GoesPrimary w now request context token tenantId tenant →
    resolveSigningTenant w token tenant tenantId = .ok signer → RefusedByKind w now token signer
  accepted : ∀ v, authenticateToken w now request context = .ok v → AcceptedFits w v

section Steps
variable {w : World} {now : Jwt.Micros} {token tenantId : String} {tenant : Tenant} {request : Request}
  {context : Option BlocksContext}

theorem getTenantByClaim_httpOnly_iff {v : Json} :
    HttpOnly (getTenantByClaim w v) ↔ (∀ items, v ≠ .arr items) ∧ ∀ fields, v ≠ .obj fields := by
  cases v with
  | arr items => exact ⟨fun h => (raisesOnly_error.mp h).elim, fun h => absurd rfl (h.1 items)⟩
  | obj fields => exact ⟨fun h => (raisesOnly_error.mp h).elim, fun h => absurd rfl (h.2 fields)⟩
  | str s | null | bool b | int n | float x => exact ⟨fun _ => ⟨nofun, nofun⟩, fun _ => raisesOnly_ok _⟩

theorem resolveSigningTenant_httpOnly_iff :
    HttpOnly (resolveSigningTenant w token tenant tenantId) ↔ SignerFits w token := by
  unfold resolveSigningTenant SignerFits
  cases w.jwt.read token with
  | none => exact ⟨fun _ => nofun, fun _ => raisesOnly_ok _⟩
  | some claims =>
    simp only [Option.some.injEq, forall_eq']
    generalize claims.get originalTenantIdClaim = signerId
    cases (claims.get impersonatedClaim).truthy with
    | false => exact ⟨fun _ => nofun, fun _ => raisesOnly_ok _⟩
    | true =>
      cases htruthy : signerId.truthy with
      | false => exact ⟨fun _ _ => nofun, fun _ => raisesOnly_ok _⟩
      | true =>
        simp only [true_implies, Bool.true_and]
        cases hsame : isText tenantId signerId with
        | true =>
          have htext : ∃ s, signerId = .str s := by
            cases signerId <;> first | exact ⟨_, rfl⟩ | cases hsame
          obtain ⟨s, rfl⟩ := htext
          exact ⟨fun _ => ⟨nofun, nofun⟩, fun _ => raisesOnly_ok _⟩
        | false =>
          rw [← @getTenantByClaim_httpOnly_iff w]
          refine raisesOnly_bind.trans ?_
          exact ⟨fun h => h.1, fun h => ⟨h, fun _ _ => raisesOnly_ok _⟩⟩

theorem tenantKey_httpOnly (hlib : Libraries w) (parameters : JwtTokenParameters) :
    HttpOnly (tenantKey w tenant parameters) := by
  obtain ⟨bytes, hbytes⟩ := hlib.getTenantCert tenant
  unfold tenantKey
  rw [hbytes]
  refine (raisesOnly_ok bytes).bind (fun found => ?_)
  split
  · exact httpOnly_http _ _
  · exact httpOnly_http _ _
  · split
    · exact httpOnly_http _ _
    · exact raisesOnly_ok _

/-- What `_validate_authenticated_token` makes of the primary validation. -/
theorem refuse_httpOnly_iff {x : Except Exc Fields} {f : Fields → Fields × Option ThirdPartyJwtProvider} :
    HttpOnly (match x with
      | .ok claims => (pure (f claims) : Except Exc _)
      | .error e => throw (if e.isInvalidToken then .http 401 "Token validation failed" else e)) ↔
      RaisesOnly (fun e => isHttp e ∨ e.isInvalidToken = true) x := by
  cases x with
  | ok claims => exact ⟨fun _ => raisesOnly_ok _, fun _ => raisesOnly_ok _⟩
  | error e =>
    refine Iff.trans raisesOnly_error (Iff.trans ?_ raisesOnly_error.symm)
    cases hinvalid : e.isInvalidToken with
    | true => exact ⟨fun _ => .inr rfl, fun _ => trivial⟩
    | false => exact ⟨fun h => .inl h, fun h => h.resolve_right Bool.false_ne_true⟩

theorem validateJwtToken_raises_iff (hlib : Libraries w) :
    RaisesOnly (fun e => isHttp e ∨ e.isInvalidToken = true) (validateJwtToken w now token tenant request) ↔
      RefusedByKind w now token tenant := by
  unfold validateJwtToken RefusedByKind
  cases tenant.jwtTokenParameters with
  | none =>
    refine ⟨fun _ _ _ _ hnone => ?_, fun _ => raisesOnly_error.mpr (.inl trivial)⟩
    exact absurd hnone.symm (Option.some_ne_none _)
  | some parameters =>
    have hkeys := @tenantKey_httpOnly w tenant hlib parameters
    dsimp only
    rw [raisesOnly_bind]
    constructor
    · intro h parameters' key e hparameters hkey hdecode
      obtain ⟨_, hrest⟩ := h
      cases hparameters
      have hraised := hrest key hkey
      rw [hdecode] at hraised
      cases e with
      | expiredSignature => rfl
      | _ => exact (raisesOnly_error.mp hraised).resolve_left (hlib.decode _ _ _ _ hdecode)
    · intro hkind
      refine ⟨hkeys.mono (fun _ => .inl), fun key hkey => ?_⟩
      split
      · exact raisesOnly_ok _
      · exact raisesOnly_error.mpr (.inl trivial)
      · rename_i e _ hdecode
        exact raisesOnly_error.mpr (.inr (hkind parameters key e rfl hkey hdecode))

theorem validateAuthenticatedToken_httpOnly_iff (hlib : Libraries w) {isThirdParty : Bool} :
    HttpOnly (validateAuthenticatedToken w now token isThirdParty tenant tenantId request) ↔
      (isThirdParty = false →
        (tenant.isThirdPartyJwtEnabled = true → validateWithFallback w now token (some tenant) request = none) →
        SignerFits w token ∧
          ∀ signer, resolveSigningTenant w token tenant tenantId = .ok signer → RefusedByKind w now token signer) := by
  unfold validateAuthenticatedToken
  dsimp only
  cases isThirdParty with
  | true =>
    refine ⟨fun _ => nofun, fun _ => ?_⟩
    split
    · exact raisesOnly_ok _
    · exact httpOnly_http _ _
  | false =>
    have hexternal : (if (false || tenant.isThirdPartyJwtEnabled) = true then
        validateWithFallback w now token (some tenant) request else none) = none ↔
        (tenant.isThirdPartyJwtEnabled = true → validateWithFallback w now token (some tenant) request = none) := by
      cases tenant.isThirdPartyJwtEnabled <;> simp
    rw [← hexternal]
    split
    · rename_i v hv
      refine ⟨fun _ _ hnone => ?_, fun _ => raisesOnly_ok _⟩
      cases hv.symm.trans hnone
    · rename_i hnone
      simp only [hnone, Bool.false_eq_true, if_false, true_implies]
      refine raisesOnly_bind.trans (and_congr resolveSigningTenant_httpOnly_iff ?_)
      refine forall_congr' (fun signer => imp_congr_right (fun _ => ?_))
      exact refuse_httpOnly_iff.trans (validateJwtToken_raises_iff hlib)

theorem authenticateToken_httpOnly_iff (hlib : Libraries w) :
    HttpOnly (authenticateToken w now request context) ↔
      ∀ token tenantId tenant, GoesPrimary w now request context token tenantId tenant → SignerFits w token ∧
        ∀ signer, resolveSigningTenant w token tenant tenantId = .ok signer → RefusedByKind w now token signer := by
  unfold authenticateToken
  dsimp only
  cases htoken : given (extractTokenFromRequest w.runtime w.getTenant request context).token with
  | none =>
    refine ⟨fun _ token tenantId tenant h => ?_, fun _ => httpOnly_http _ _⟩
    cases htoken.symm.trans h.carried
  | some carried =>
    dsimp only
    cases hload : loadTenant w request context with
    | none =>
      refine ⟨fun _ token tenantId tenant h => ?_, fun _ => httpOnly_http _ _⟩
      cases hload.symm.trans h.loaded
    | some loaded =>
      obtain ⟨tenantId, tenant⟩ := loaded
      refine raisesOnly_bind.trans ?_
      refine (and_congr_left' (validateAuthenticatedToken_httpOnly_iff hlib)).trans ?_
      constructor
      · intro hboth token tenantId' tenant' hgoes
        obtain ⟨h, _⟩ := hboth
        cases htoken.symm.trans hgoes.carried
        cases hload.symm.trans hgoes.loaded
        exact h hgoes.bearer hgoes.declined
      · intro h
        refine ⟨fun hbearer hdeclined => ?_, fun _ _ => raisesOnly_ok _⟩
        exact h carried tenantId tenant ⟨htoken, hbearer, hload, hdeclined⟩

theorem createContext_httpOnly_iff (hlib : Libraries w) {v : Validated} (hkey : v.tenantId ≠ "") :
    HttpOnly (createContext w request v) ↔ AcceptedFits w v := by
  unfold createContext AcceptedFits
  cases v.provider with
  | some provider => exact externalContext_httpOnly_iff hlib.loads
  | none =>
    refine raisesOnly_bind.trans ?_
    rw [← createFromJwtClaims_fit_iff hlib hkey (v.applicationDomain.getD ""),
      ← NoHttp.iff_ok (noHttp_createFromJwtClaims hlib _ _)]
    exact ⟨fun h => h.1, fun h => ⟨h, fun _ _ => raisesOnly_ok _⟩⟩

end Steps

theorem allOrNothing_iff_httpOnly (w : World) (now : Jwt.Micros) (request : Request) (ambient : Ambient) :
    AllOrNothing w now request ambient ↔ HttpOnly (authenticate w now request ambient).1 := by
  unfold AllOrNothing
  cases hresult : authenticate w now request ambient with
  | mk result after =>
    cases result with
    | ok payload => exact ⟨fun _ => raisesOnly_ok _, fun _ => authenticate_ok hresult⟩
    | error e =>
      refine Iff.trans ?_ raisesOnly_error.symm
      exact ⟨fun h => h.1, fun h => ⟨h, authenticate_error hresult⟩⟩

/-- What is not a fitting token escapes as the error of whoever stumbled over it. -/
theorem authenticate_all_or_nothing_iff (w : World) (hlib : Libraries w) (now : Jwt.Micros) (request : Request)
    (ambient : Ambient) :
    AllOrNothing w now request ambient ↔ TokenFits w now request ambient.context := by
  rw [allOrNothing_iff_httpOnly]
  have hresult : HttpOnly (authenticate w now request ambient).1 ↔
      HttpOnly (authenticateToken w now request ambient.context >>= createContext w request) := by
    unfold authenticate
    cases authenticateToken w now request ambient.context >>= createContext w request with
    | ok built => exact ⟨fun _ => raisesOnly_ok _, fun _ => raisesOnly_ok _⟩
    | error e => exact raisesOnly_error.trans raisesOnly_error.symm
  rw [hresult]
  refine raisesOnly_bind.trans ?_
  have haccepted : ∀ v, authenticateToken w now request ambient.context = .ok v →
      (HttpOnly (createContext w request v) ↔ AcceptedFits w v) := by
    intro v hv
    exact createContext_httpOnly_iff hlib (loadTenant_key (authenticateToken_ok hv).1).1
  constructor
  · intro hboth
    obtain ⟨htoken, hcontext⟩ := hboth
    have hprimary := (authenticateToken_httpOnly_iff hlib).mp htoken
    refine ⟨fun token tenantId tenant h => (hprimary token tenantId tenant h).1,
      fun token tenantId tenant signer h => (hprimary token tenantId tenant h).2 signer, fun v hv => ?_⟩
    exact (haccepted v hv).mp (hcontext v hv)
  · intro hfits
    refine ⟨(authenticateToken_httpOnly_iff hlib).mpr (fun token tenantId tenant h => ?_), fun v hv => ?_⟩
    · exact ⟨hfits.signer token tenantId tenant h, fun signer => hfits.refusal token tenantId tenant signer h⟩
    · exact (haccepted v hv).mpr (hfits.accepted v hv)

/-! ## A claim that is null -/

theorem libraries_ofTables (minted : List (Jwt.Minted VerificationKey)) (tenants : List (String × Tenant))
    (rows : List (String × List ThirdPartyJwtProvider)) : Libraries (.ofTables minted tenants rows) where
  loads _ := raisesOnly_error.mpr id
  fromTimestamp {v e} h := by
    cases v <;> first | (cases h; done) | (cases h; exact .inl rfl)
  fromIsoFormat h := by cases h
  decode call now token := by
    intro e he
    replace he : Jwt.decodeMinted minted call now token = .error e := he
    unfold Jwt.decodeMinted at he
    split at he
    · cases he
      exact id
    · split at he
      · cases he
        exact id
      · split at he
        · cases he
          exact id
        · split at he
          · cases he
          · cases he
            exact id
  getTenantCert _ := ⟨_, rfl⟩

/-- A token of its own signer, whose mailbox claim is whatever it is. -/
def mailWorld (email : Json) : World := blocksWorld "acme" [("tenant_id", .str "acme"), ("email", email)]

theorem authenticate_all_or_nothing_iff_mail :
    AllOrNothing (mailWorld .null) 0 (bearerRequest "token") {} ↔
      TokenFits (mailWorld .null) 0 (bearerRequest "token") none :=
  authenticate_all_or_nothing_iff (mailWorld .null) (libraries_ofTables _ _ _) 0 (bearerRequest "token") {}

/-- The null of a signed claim leaves as pydantic's error. -/
theorem null_claim_escapes :
    ¬ ∀ (w : World) (now : Jwt.Micros) (request : Request) (ambient : Ambient), Libraries w →
      AllOrNothing w now request ambient := by
  intro hall
  have hmail := hall (mailWorld .null) 0 (bearerRequest "token") {} (libraries_ofTables _ _ _)
  rw [allOrNothing_iff_httpOnly] at hmail
  exact hmail (.validation "email") rfl

end BlocksGenesis.Auth
