import BlocksGenesis.Auth.Authenticate
import BlocksGenesis.Telemetry.Told

/-! The `[Security]` channel: what authentication tells of a token, with the steps it is told in between. -/

namespace BlocksGenesis.Auth.SecurityLog
open Python BlocksContext Telemetry

/-- What `security_log` is given. -/
structure SecurityEvent where
  eventName : String
  message : String
  exc : Option Exc := none
  detail : Json := .null
  isWarning : Bool := false

abbrev Telling := Told SecurityEvent Exc

/-- The number a row stores for an algorithm. -/
def algorithmNumber : JwtSigningAlgorithm → Int
  | .unspecified => 0
  | .rs256 => 1 | .rs384 => 2 | .rs512 => 3
  | .es256 => 4 | .es384 => 5 | .es512 => 6
  | .ps256 => 7 | .ps384 => 8 | .ps512 => 9
  | .hs256 => 10 | .hs384 => 11 | .hs512 => 12

def algorithmNumbers (provider : ThirdPartyJwtProvider) : Json :=
  .arr (provider.algorithms.map (fun a => .int (algorithmNumber a)))

def keyDetail (provider : ThirdPartyJwtProvider) : Json := .obj [("key", .str provider.key)]

/-! ## The key of a provider -/

def decryptProviderSecret (w : World) (tenant : Tenant) (provider : ThirdPartyJwtProvider) (cipher purpose : String) :
    Telling (Option String) :=
  if tenant.tenantSalt.isEmpty then do
    Told.tell {
      eventName := "third_party_secret_undecryptable"
      message := "The tenant has no TenantSalt, which is the key material the " ++ purpose ++ " was encrypted under."
      detail := keyDetail provider
      isWarning := true }
    return none
  else do
    match given (← Told.ofExcept (w.decrypt cipher tenant.tenantSalt)) with
    | some plaintext => return some plaintext
    | none =>
      Told.tell {
        eventName := "third_party_secret_undecryptable"
        message := "The stored " ++ purpose ++ " did not decrypt. Either it was tampered with, or the tenant salt " ++
          "it was encrypted under has changed -- re-save the provider to re-encrypt it."
        detail := keyDetail provider
        isWarning := true }
      return none

def unparsedEvent (provider : ThirdPartyJwtProvider) (hasPassphrase : Bool) : SecurityEvent where
  eventName := "third_party_certificate_unreadable"
  message := "The provider's certificate file was fetched but could not be parsed. A stored passphrase that " ++
    "does not match the file fails in exactly this way, as does a file that is not a certificate."
  detail := .obj [("key", .str provider.key), ("hasPassphrase", .bool hasPassphrase)]
  isWarning := true

/-- `create_certificate` on what was cached or fetched, and the public key in it. -/
def readCertificate (w : World) (provider : ThirdPartyJwtProvider) (password : Option String) (bytes : Bytes) :
    Telling (Option VerificationKey) :=
  match if bytes.isEmpty then none else w.publicKey bytes password with
  | some pem => return some (.certificate pem)
  | none => do
    Told.tell (unparsedEvent provider password.isSome)
    return none

def unfetchedEvent (provider : ThirdPartyJwtProvider) (e : Exc) : SecurityEvent where
  eventName := "third_party_certificate_unreadable"
  message := "The provider's public certificate could not be read from its configured path. The path must be " ++
    "an absolute URL this process can fetch without credentials, or a file on this host."
  exc := some e
  detail := keyDetail provider
  isWarning := true

def certificateKey (w : World) (provider : ThirdPartyJwtProvider) (password : Option String) :
    Telling (Option VerificationKey) :=
  match w.cachedBytes ("tpprovcert::" ++ provider.tenantId ++ "::" ++ provider.key) with
  | .ok (some (byte :: bytes)) => readCertificate w provider password (byte :: bytes)
  | _ =>
    match w.fetchCertBytes provider.publicCertificatePath with
    | .ok bytes => readCertificate w provider password bytes
    | .error e => do
      Told.tell (unfetchedEvent provider e)
      return none

def resolveCertificateKey (w : World) (tenant : Tenant) (provider : ThirdPartyJwtProvider) :
    Telling (Option VerificationKey) :=
  if provider.publicCertificatePasswordCipher.isEmpty then certificateKey w provider none
  else do
    let password ← decryptProviderSecret w tenant provider provider.publicCertificatePasswordCipher
      "certificate passphrase"
    match password with
    | none => return none
    | some password => certificateKey w provider (some password)

def resolveProviderKey (w : World) (token : String) (tenant : Tenant) (provider : ThirdPartyJwtProvider) :
    Telling (Option VerificationKey) :=
  if !isSingleKeySource provider.algorithms then do
    Told.tell {
      eventName := "third_party_algorithm_invalid"
      message := "A provider must configure at least one algorithm and they must all draw their key from the same " ++
        "place. A row mixing families, or left Unspecified, cannot be validated safely."
      detail := .obj [("key", .str provider.key), ("algorithms", algorithmNumbers provider)]
      isWarning := true }
    return none
  else if (provider.algorithms.head?).any isSymmetric then
    if provider.signingSecretCipher.isEmpty then do
      Told.tell {
        eventName := "third_party_key_source_missing"
        message := "This provider uses an HMAC algorithm but carries no signing secret."
        detail := keyDetail provider
        isWarning := true }
      return none
    else do
      let secret ← decryptProviderSecret w tenant provider provider.signingSecretCipher "signing secret"
      return secret.map .secret
  else if !provider.jwksUrl.isEmpty then
    match w.jwksKey provider.jwksUrl token with
    | .ok key => return some (.jwks key)
    | .error e => do
      Told.tell {
        eventName := "third_party_certificate_unreadable"
        message := "The provider's JWKS could not be read, or holds no key matching this token."
        exc := some e
        detail := keyDetail provider
        isWarning := true }
      return none
  else if !provider.publicCertificatePath.isEmpty then resolveCertificateKey w tenant provider
  else do
    Told.tell {
      eventName := "third_party_key_source_missing"
      message := "This provider uses an asymmetric algorithm but configures neither a JwksUrl nor a " ++
        "PublicCertificatePath, so there is no key to verify with."
      detail := keyDetail provider
      isWarning := true }
    return none

/-! ## The fallback -/

/-- What the token carried, beside what is configured. -/
def selectionDetail (selection : ThirdPartyProviderResult) (issuer : Json) (audiences : List Json)
    (providers : List ThirdPartyJwtProvider) (headerKey : Option String) : Json :=
  .obj [
    ("tokenIssuer", issuer),
    ("tokenAudiences", .arr audiences),
    ("headerKey", (headerKey.map Json.str).getD .null),
    ("candidates", .int selection.candidateCount),
    ("configured", .arr (providers.map (fun p => .obj [
      ("Key", .str p.key), ("Issuer", .str p.issuer), ("Audiences", .arr (p.audiences.map .str))])))]

def reportSelectionFailure (outcome : ThirdPartyProviderSelection) (detail : Json) : Telling Unit :=
  match outcome with
  | .selected => return
  | .noProviders => Told.tell {
      eventName := "third_party_no_providers_configured"
      message := "The tenant has third-party tokens enabled but no active provider rows."
      detail, isWarning := true }
  | .issuerUnmatched => Told.tell {
      eventName := "third_party_provider_unmatched"
      message := "No configured provider claims this token's issuer, so it is not a third-party token. Primary " ++
        "validation will handle it."
      detail }
  | .issuerAbsentUnmatched => Told.tell {
      eventName := "third_party_provider_unmatched"
      message := "This token carries no iss claim, and no provider is configured to receive tokens without one. " ++
        "Leave a provider's issuer blank to accept them, and give it a key -- the x-blocks-idp header is what " ++
        "separates two such providers."
      detail, isWarning := true }
  | .audienceUnmatched => Told.tell {
      eventName := "third_party_provider_unmatched"
      message := "A provider matches this issuer but none accepts the token's audience."
      detail, isWarning := true }
  | .ambiguousNoHeader => Told.tell {
      eventName := "third_party_provider_ambiguous"
      message := "Several providers share this issuer and audience, so the x-blocks-idp header is required to choose " ++
        "between them. Providers sharing an issuer should differ by audience."
      detail, isWarning := true }
  | .ambiguousHeaderUnmatched => Told.tell {
      eventName := "third_party_provider_ambiguous"
      message := "The x-blocks-idp header named a provider that is not among the candidates for this token."
      detail, isWarning := true }

def routineMisses : List ThirdPartyProviderSelection := [.issuerUnmatched, .noProviders]

section Fallback
-- The name of a row is in its log lines, and decides nothing.
variable (providerName : ThirdPartyJwtProvider → String)

def selectedEvent (provider : ThirdPartyJwtProvider) (candidateCount : Nat) : SecurityEvent where
  eventName := "third_party_provider_selected"
  message := "Provider selected for this token."
  detail := .obj [("key", .str provider.key), ("providerName", .str (providerName provider)),
    ("issuer", .str provider.issuer), ("algorithms", algorithmNumbers provider), ("candidates", .int candidateCount)]

def validatedEvent (provider : ThirdPartyJwtProvider) : SecurityEvent where
  eventName := "fallback_token_validated"
  message := "Third-party token signature, issuer, audience and lifetime validated."
  detail := .obj [("key", .str provider.key), ("providerName", .str (providerName provider)),
    ("issuer", .str provider.issuer)]

/-- The token and the key of the provider that is selected for it. -/
def validateWithProvider (w : World) (now : Jwt.Micros) (token : String) (tenant : Tenant) (request : Request)
    (provider : ThirdPartyJwtProvider) (candidateCount : Nat) :
    Telling (Option ThirdPartyValidation × ThirdPartyProviderSelection) := do
  Told.tell (selectedEvent providerName provider candidateCount)
  match ← resolveProviderKey w token tenant provider with
  | none => return (none, .selected)
  | some key =>
    match w.jwt.decode (fallbackCall provider key) now token with
    | .error e =>
      Told.tell {
        eventName := "fallback_validation_failed"
        message := "Third-party validation did not complete."
        exc := some e
        detail := .obj [("key", .str provider.key), ("issuer", .str provider.issuer)]
        isWarning := true }
      return (none, .selected)
    | .ok claims =>
      Told.tell (validatedEvent providerName provider)
      return (some ⟨claims.set requestUriClaim (.str request.url), provider⟩, .selected)

def runFallback (w : World) (now : Jwt.Micros) (token : String) (tenant : Option Tenant) (request : Request) :
    Telling (Option ThirdPartyValidation × ThirdPartyProviderSelection) :=
  match tenant with
  | none => do
    Told.tell {
      eventName := "fallback_missing_tenant_config"
      message := "The tenant could not be loaded, so its providers cannot be read."
      isWarning := true }
    return (none, .noProviders)
  | some tenant =>
    if !tenant.isThirdPartyJwtEnabled then do
      Told.tell {
        eventName := "third_party_not_enabled"
        message := "IsThirdPartyJwtEnabled is off for this tenant, so tokens from external providers are not " ++
          "accepted. Any 'issuer did not match' error above is the expected consequence, not the cause."
        detail := .obj [("tenantId", (tenant.tenantId.map Json.str).getD .null)]
        isWarning := true }
      return (none, .noProviders)
    else if token.isEmpty then do
      Told.tell {
        eventName := "fallback_no_token"
        message := "No token was present on the request, so there is nothing to validate."
        isWarning := true }
      return (none, .noProviders)
    else if (tenantDeclaredOnRequest request).any (fun d => some d != tenant.tenantId) then do
      Told.tell {
        eventName := "fallback_missing_tenant_context"
        message := "The tenant declared on the request is not the tenant being validated against. A third-party " ++
          "token is only ever validated against the tenant the request declares, never the one its own claims name."
        detail := .obj [("declared", ((tenantDeclaredOnRequest request).map Json.str).getD .null),
          ("loaded", (tenant.tenantId.map Json.str).getD .null)]
        isWarning := true }
      return (none, .noProviders)
    else match w.providerStore with
      | none => do
        Told.tell {
          eventName := "third_party_provider_store_missing"
          message := "The third-party provider store is not initialised in this host, so no provider can be resolved."
          isWarning := true }
        return (none, .noProviders)
      | some rows => do
        let providers := getActive rows tenant.tenantId
        let (issuer, audiences) ← Told.ofExcept (readTokenRouting w token)
        let selection ← Told.ofExcept (select providers issuer audiences (request.header "x-blocks-idp"))
        match selection.provider with
        | none =>
          reportSelectionFailure selection.outcome
            (selectionDetail selection issuer audiences providers (request.header "x-blocks-idp"))
          return (none, selection.outcome)
        | some provider =>
          validateWithProvider providerName w now token tenant request provider selection.candidateCount

def rejectedEvent : SecurityEvent where
  eventName := "fallback_rejected"
  message := "Third-party token was not accepted; this request will be answered 401. The preceding fallback_* / " ++
    "third_party_* event is the actual reason."
  isWarning := true

def unhandledEvent (e : Exc) : SecurityEvent where
  eventName := "fallback_unhandled_exception"
  message := "Unhandled exception during third-party validation."
  exc := some e
  isWarning := true

/-- Nothing escapes, and a refusal that is no everyday miss ends in a line of its own. -/
def closeFallback (run : Telling (Option ThirdPartyValidation × ThirdPartyProviderSelection)) :
    Telling (Option ThirdPartyValidation) := do
  let (result, outcome) ← run.handle (fun e => do
    Told.tell (unhandledEvent e)
    return (none, .selected))
  if result.isNone && !routineMisses.contains outcome then Told.tell rejectedEvent
  return result

def validateWithFallback (w : World) (now : Jwt.Micros) (token : String) (tenant : Option Tenant)
    (request : Request) : Telling (Option ThirdPartyValidation) :=
  closeFallback (runFallback providerName w now token tenant request)

/-! ## authenticate -/

def validateJwtToken (w : World) (now : Jwt.Micros) (token : String) (tenant : Tenant) (request : Request) :
    Telling Fields :=
  match tenant.jwtTokenParameters with
  | none => Told.raise (.http 401 "Invalid tenant configuration")
  | some parameters => do
    let key ← Told.ofExcept (tenantKey w tenant parameters)
    match w.jwt.decode (primaryCall parameters key) now token with
    | .ok claims => return (claims.set requestUriClaim (.str request.url)).set tokenClaim (.str token)
    | .error .expiredSignature =>
      Told.tell { eventName := "token_expired", message := "The token is expired." }
      Told.raise (.http 401 "Token expired")
    | .error e => Told.raise e

/-- The `except` around the primary validation, for PyJWT's own errors. -/
def primaryFailed (e : Exc) : Telling Fields :=
  if e.isInvalidToken then do
    Told.tell {
      eventName := "authentication_failed"
      message := "Primary token validation failed."
      exc := some e
      isWarning := true }
    Told.raise (.http 401 "Token validation failed")
  else Told.raise e

/-- A token from a provider's cookie, and any other where the tenant has opted in, goes to the providers first. -/
def tryProviders (w : World) (now : Jwt.Micros) (token : String) (isThirdParty : Bool) (tenant : Tenant)
    (request : Request) : Telling (Option ThirdPartyValidation) :=
  if isThirdParty || tenant.isThirdPartyJwtEnabled then
    validateWithFallback providerName w now token (some tenant) request
  else return none

/-- A token from a provider's cookie never goes near the primary validation. -/
def validateAuthenticatedToken (w : World) (now : Jwt.Micros) (token : String) (isThirdParty : Bool) (tenant : Tenant)
    (tenantId : String) (request : Request) : Telling (Fields × Option ThirdPartyJwtProvider) := do
  match ← tryProviders providerName w now token isThirdParty tenant request with
  | some v => return (v.claims, some v.provider)
  | none =>
    if isThirdParty then Told.raise (.http 401 "Token validation failed")
    else do
      let signer ← Told.ofExcept (resolveSigningTenant w token tenant tenantId)
      let claims ← (validateJwtToken w now token signer request).handle primaryFailed
      return (claims, none)

/-! ## The mapping -/

def invalidJsonEvent (mapping claim : String) : SecurityEvent where
  eventName := "third_party_claim_invalid_json"
  message := "A mapping used the nested claim.property form, but the claim's value is not JSON."
  exc := some .jsonDecode
  detail := .obj [("mapping", .str mapping), ("claim", .str claim)]
  isWarning := true

def openClaim (rt : Runtime) (mapping claim : String) : Json → Telling (Option Json)
  | .str s =>
    match rt.loads s with
    | .ok v => return some v
    | .error .jsonDecode => do
      Told.tell (invalidJsonEvent mapping claim)
      return none
    | .error e => Told.raise e
  | v => return some v

def extractClaimValue (rt : Runtime) (claims : Fields) (mapping : String) : Telling String :=
  if claims.isEmpty || mapping.isEmpty then return ""
  else match claims.lookup mapping with
    | some value => return printed rt value
    | none =>
      match split '.' mapping with
      | first :: property :: _ =>
        match claims.get first with
        | .null => return ""
        | container => do return claimProperty rt property (← openClaim rt mapping first container)
      | _ => return ""

def unmappedEvent (field : String) : SecurityEvent where
  eventName := "third_party_claim_unmapped"
  message := "No claim is mapped for " ++ field ++ ", so it will be empty."
  detail := .obj [("field", .str field)]

def unresolvedEvent (field mapping : String) : SecurityEvent where
  eventName := "third_party_claim_unresolved"
  message := "The " ++ field ++ " mapping matched no claim in the token, so it will be empty. Compare it against " ++
    "tokenClaims in the third_party_claim_mapping event above."
  detail := .obj [("field", .str field), ("mapping", .str mapping)]
  isWarning := true

def resolveMappedClaim (rt : Runtime) (claims : Fields) (field mapping : String) : Telling String :=
  if blank mapping then do
    Told.tell (unmappedEvent field)
    return ""
  else do
    let value ← extractClaimValue rt claims mapping
    if value.isEmpty then Told.tell (unresolvedEvent field mapping)
    return value

def mapSubject (rt : Runtime) (claims : Fields) (mapping : ThirdPartyClaimsMapping) : Telling Json :=
  if mapping.userId == "sub" then return (claims.get subjectClaim).orElse (.str "")
  else .str <$> resolveMappedClaim rt claims "UserId" mapping.userId

def mapEmail (rt : Runtime) (claims : Fields) (mapping : ThirdPartyClaimsMapping) : Telling Json :=
  if (standardEmail claims).truthy then return standardEmail claims
  else .str <$> resolveMappedClaim rt claims "Email" mapping.email

def mapUserName (rt : Runtime) (claims : Fields) (mapping : ThirdPartyClaimsMapping) : Telling Json :=
  if rt.lower mapping.userName == "email" then return standardEmail claims
  else .str <$> resolveMappedClaim rt claims "UserName" mapping.userName

/-- What was configured, next to what the token carries. -/
def mappingEvent (claims : Fields) (provider : ThirdPartyJwtProvider) : SecurityEvent where
  eventName := "third_party_claim_mapping"
  message := "Applying the provider's claim mapping to the token."
  detail := .obj [("key", .str provider.key),
    ("mapping", .obj [("UserId", .str provider.claimsMapping.userId), ("Email", .str provider.claimsMapping.email),
      ("UserName", .str provider.claimsMapping.userName), ("Name", .str provider.claimsMapping.name),
      ("Roles", .str provider.claimsMapping.roles)]),
    ("tokenClaims", .arr (((claims.map Prod.fst).mergeSort (fun a b => decide (a ≤ b))).map .str))]

def mapThirdPartyClaims (rt : Runtime) (claims : Fields) (provider : ThirdPartyJwtProvider) :
    Telling (Option MappedClaims) :=
  let mapping := provider.claimsMapping
  if !mapping.isConfigured then do
    Told.tell {
      eventName := "third_party_claims_mapper_missing"
      message := "This provider has no claim mapping, so no Blocks context can be built."
      detail := keyDetail provider
      isWarning := true }
    return none
  else do
    Told.tell (mappingEvent claims provider)
    let subject ← mapSubject rt claims mapping
    let email ← mapEmail rt claims mapping
    let userName ← mapUserName rt claims mapping
    let displayName ← resolveMappedClaim rt claims "Name" mapping.name
    let roles ← Told.ofExcept (extractRolesFromClaim rt claims mapping.roles)
    return some { subject, email, userName, displayName, roles }

def createdEvent (provider : ThirdPartyJwtProvider) (context : BlocksContext) (mapped : MappedClaims) :
    SecurityEvent where
  eventName := "third_party_context_created"
  message := "Token mapped to a Blocks context; the request is authenticated."
  detail := .obj [("tenantId", .str context.tenantId), ("key", .str provider.key), ("userId", .str context.userId),
    ("organizationId", .str context.organizationId), ("roles", .arr (context.roles.map .str)),
    ("emailResolved", .bool mapped.email.truthy), ("userNameResolved", .bool mapped.userName.truthy),
    ("displayNameResolved", .bool !mapped.displayName.isEmpty)]

def externalContext (rt : Runtime) (tenantId : Option String) (applicationDomain : Option String) (url : String)
    (claims : Fields) (provider : ThirdPartyJwtProvider) : Telling (Fields × BlocksContext) := do
  let payload := stripReservedClaims claims
  match ← mapThirdPartyClaims rt payload provider with
  | none => Told.raise (.http 401 "Token validation failed")
  | some mapped =>
    match createThirdPartyContext rt tenantId mapped.subject provider.defaultOrganizationId mapped.roles
        mapped.email mapped.userName (.str mapped.displayName) (applicationDomain.getD "") url with
    | .ok context =>
      Told.tell (createdEvent provider context mapped)
      return (payload, context)
    | .error e =>
      if e.isValueError then
        Told.tell {
          eventName := "third_party_subject_missing"
          message := "The UserId mapping resolved to nothing. Unlike genesis-net, which lets a bare \"_external\" " ++
            "principal through, this refuses the token."
          exc := some e
          detail := .obj [("key", .str provider.key), ("mapping", .str provider.claimsMapping.userId)]
          isWarning := true }
        Told.raise (.http 401 "Token validation failed")
      else Told.raise e

def createContext (w : World) (request : Request) (v : Validated) : Telling (Fields × BlocksContext) :=
  match v.provider with
  | some provider =>
    externalContext w.runtime v.tenant.tenantId v.applicationDomain request.url v.claims provider
  | none => do
    let context ← Told.ofExcept (createFromJwtClaims w.runtime v.claims v.tenantId (v.applicationDomain.getD ""))
    return (v.claims, context)

def authenticateToken (w : World) (now : Jwt.Micros) (request : Request) (context : Option BlocksContext) :
    Telling Validated :=
  let extracted := extractTokenFromRequest w.runtime w.getTenant request context
  match given extracted.token with
  | none => Told.raise (.http 401 "Token missing")
  | some token =>
    match loadTenant w request context with
    | none => Told.raise (.http 401 "Tenant not found")
    | some (tenantId, tenant) => do
      let (claims, provider) ←
        validateAuthenticatedToken providerName w now token extracted.isThirdParty tenant tenantId request
      return ⟨token, tenantId, tenant, extracted.applicationDomain, claims, provider⟩

/-- `authenticate` up to where the context is stored. -/
def authenticatedContext (w : World) (now : Jwt.Micros) (request : Request) (context : Option BlocksContext) :
    Telling (Fields × BlocksContext) :=
  authenticateToken providerName w now request context >>= createContext w request

/-! ## The steps are those of authentication -/

section Same
variable {w : World} {now : Jwt.Micros} {token : String} {tenant : Tenant} {provider : ThirdPartyJwtProvider}
  {request : Request}

theorem decryptProviderSecret_same (cipher purpose : String) :
    (decryptProviderSecret w tenant provider cipher purpose).result = Auth.decryptProviderSecret w tenant cipher := by
  unfold decryptProviderSecret Auth.decryptProviderSecret
  split
  · rfl
  · rw [Told.result_bind, Told.result_ofExcept]
    apply bind_congr
    intro plaintext
    cases given plaintext <;> rfl

/-- The key in a certificate that was cached or fetched, if there was one. -/
def keyIn (w : World) (password : Option String) : Option Bytes → Option VerificationKey
  | none | some [] => none
  | some bytes => (w.publicKey bytes password).map .certificate

theorem readCertificate_same (password : Option String) (bytes : Bytes) :
    (readCertificate w provider password bytes).result = .ok (keyIn w password (some bytes)) := by
  unfold readCertificate
  cases bytes with
  | nil => rfl
  | cons byte bytes =>
    dsimp only [List.isEmpty_cons, keyIn]
    cases w.publicKey (byte :: bytes) password <;> rfl

theorem certificateKey_same (password : Option String) :
    (certificateKey w provider password).result = .ok (keyIn w password (providerCertificate w provider)) := by
  have hfetch : (match w.fetchCertBytes provider.publicCertificatePath with
      | .ok bytes => readCertificate w provider password bytes
      | .error e => do
        Told.tell (unfetchedEvent provider e)
        return none : Telling (Option VerificationKey)).result =
      .ok (keyIn w password (match w.fetchCertBytes provider.publicCertificatePath with
        | .ok bytes => some bytes
        | .error _ => none)) := by
    cases w.fetchCertBytes provider.publicCertificatePath with
    | ok bytes => exact readCertificate_same password bytes
    | error e => rfl
  unfold certificateKey providerCertificate
  cases w.cachedBytes ("tpprovcert::" ++ provider.tenantId ++ "::" ++ provider.key) with
  | error e => exact hfetch
  | ok cached =>
    cases cached with
    | none => exact hfetch
    | some bytes =>
      cases bytes with
      | nil => exact hfetch
      | cons byte bytes => exact readCertificate_same password (byte :: bytes)

theorem resolveCertificateKey_same :
    (resolveCertificateKey w tenant provider).result = Auth.resolveCertificateKey w tenant provider := by
  have hplain : ∀ password, (match providerCertificate w provider with
      | none | some [] => none
      | some bytes => (w.publicKey bytes password).map VerificationKey.certificate) =
        keyIn w password (providerCertificate w provider) := by
    intro password
    rcases providerCertificate w provider with _ | _ | ⟨byte, bytes⟩ <;> rfl
  unfold resolveCertificateKey Auth.resolveCertificateKey
  split
  · rw [certificateKey_same]
    exact congrArg Except.ok (hplain none).symm
  · rw [Told.result_bind, decryptProviderSecret_same]
    apply bind_congr
    intro password
    cases password with
    | none => rfl
    | some password =>
      dsimp only
      rw [certificateKey_same]
      exact congrArg Except.ok (hplain (some password)).symm

theorem resolveProviderKey_same :
    (resolveProviderKey w token tenant provider).result = Auth.resolveProviderKey w token tenant provider := by
  unfold resolveProviderKey Auth.resolveProviderKey
  split
  · rfl
  split
  · split
    · rfl
    · rw [Told.result_bind, decryptProviderSecret_same]
      rfl
  split
  · cases w.jwksKey provider.jwksUrl token <;> rfl
  split
  · exact resolveCertificateKey_same
  · rfl

theorem validateWithProvider_same (candidateCount : Nat) :
    (validateWithProvider providerName w now token tenant request provider candidateCount).result =
      (Auth.resolveProviderKey w token tenant provider >>= fun key =>
        match key with
        | none => .ok (none, .selected)
        | some key =>
          match w.jwt.decode (fallbackCall provider key) now token with
          | .error _ => .ok (none, .selected)
          | .ok claims => .ok (some ⟨claims.set requestUriClaim (.str request.url), provider⟩, .selected)) := by
  unfold validateWithProvider
  rw [Told.tell_bind]
  dsimp only
  rw [Told.result_bind, resolveProviderKey_same]
  apply bind_congr
  intro key
  cases key with
  | none => rfl
  | some key =>
    dsimp only
    cases w.jwt.decode (fallbackCall provider key) now token <;> rfl

theorem runFallback_same (tenant : Option Tenant) :
    (runFallback providerName w now token tenant request).result = Auth.runFallback w now token tenant request := by
  unfold runFallback Auth.runFallback chooseProvider
  cases tenant with
  | none => rfl
  | some tenant =>
    dsimp only
    split
    · rfl
    split
    · rfl
    split
    · rfl
    cases w.providerStore with
    | none => rfl
    | some rows =>
      dsimp only
      rw [Told.result_bind, Told.result_ofExcept]
      cases readTokenRouting w token with
      | error e => rfl
      | ok routing =>
        obtain ⟨issuer, audiences⟩ := routing
        change (Told.ofExcept (select _ _ _ _) >>= _).result = _
        rw [Told.result_bind, Told.result_ofExcept]
        dsimp only [bind, Except.bind]
        cases select (getActive rows tenant.tenantId) issuer audiences (request.header "x-blocks-idp") with
        | error e => rfl
        | ok selection =>
          dsimp only
          cases selection.provider with
          | none =>
            dsimp only
            cases selection.outcome <;> rfl
          | some provider =>
            dsimp only
            rw [validateWithProvider_same]
            cases Auth.resolveProviderKey w token tenant provider with
            | error e => rfl
            | ok key =>
              cases key with
              | none => rfl
              | some key =>
                cases hdecoded : w.jwt.decode (fallbackCall provider key) now token with
                | error e => simp only [bind, Except.bind, pure, Except.pure, Option.map_some, hdecoded]
                | ok claims => simp only [bind, Except.bind, pure, Except.pure, Option.map_some, hdecoded]

theorem closeFallback_ok (told : List SecurityEvent) (result : Option ThirdPartyValidation)
    (outcome : ThirdPartyProviderSelection) : closeFallback ⟨told, .ok (result, outcome)⟩ =
      ⟨told ++ if result.isNone && !routineMisses.contains outcome then [rejectedEvent] else [], .ok result⟩ := by
  unfold closeFallback
  rw [Told.handle_ok rfl, Told.bind_ok rfl]
  dsimp only
  split <;> rfl

theorem closeFallback_error (told : List SecurityEvent) (e : Exc) :
    closeFallback ⟨told, .error e⟩ = ⟨told ++ [unhandledEvent e, rejectedEvent], .ok none⟩ := by
  unfold closeFallback
  rw [Told.handle_error rfl, Told.bind_ok rfl]
  simp [routineMisses]

theorem validateWithFallback_same (tenant : Option Tenant) :
    (validateWithFallback providerName w now token tenant request).result =
      .ok (Auth.validateWithFallback w now token tenant request) := by
  have hsame := @runFallback_same providerName w now token request tenant
  unfold validateWithFallback Auth.validateWithFallback
  rw [← hsame]
  obtain ⟨told, result⟩ := runFallback providerName w now token tenant request
  cases result with
  | error e => rw [closeFallback_error]
  | ok ended => rw [closeFallback_ok]

theorem validateJwtToken_same :
    (validateJwtToken w now token tenant request).result = Auth.validateJwtToken w now token tenant request := by
  unfold validateJwtToken Auth.validateJwtToken
  cases tenant.jwtTokenParameters with
  | none => rfl
  | some parameters =>
    dsimp only
    rw [Told.result_bind, Told.result_ofExcept]
    apply bind_congr
    intro key
    cases w.jwt.decode (primaryCall parameters key) now token with
    | ok claims => rfl
    | error e => cases e <;> rfl

theorem primaryFailed_result (e : Exc) : (primaryFailed e).result =
    .error (if e.isInvalidToken then .http 401 "Token validation failed" else e) := by
  unfold primaryFailed
  split <;> rfl

theorem validateAuthenticatedToken_same {isThirdParty : Bool} {tenantId : String} :
    (validateAuthenticatedToken providerName w now token isThirdParty tenant tenantId request).result =
      Auth.validateAuthenticatedToken w now token isThirdParty tenant tenantId request := by
  have hexternal : (tryProviders providerName w now token isThirdParty tenant request).result =
      .ok (if isThirdParty || tenant.isThirdPartyJwtEnabled then
        Auth.validateWithFallback w now token (some tenant) request else none) := by
    unfold tryProviders
    split
    · exact validateWithFallback_same providerName (some tenant)
    · rfl
  unfold validateAuthenticatedToken Auth.validateAuthenticatedToken
  rw [Told.result_bind, hexternal]
  dsimp only [bind, Except.bind]
  cases if isThirdParty || tenant.isThirdPartyJwtEnabled then
      Auth.validateWithFallback w now token (some tenant) request else none with
  | some v => rfl
  | none =>
    dsimp only
    split
    · rfl
    · change (Told.ofExcept (resolveSigningTenant w token tenant tenantId) >>= _).result = _
      rw [Told.result_bind, Told.result_ofExcept]
      apply bind_congr
      intro signer
      change ((validateJwtToken w now token signer request).handle primaryFailed >>= _).result = _
      rw [Told.result_bind, ← validateJwtToken_same]
      cases hprimary : (validateJwtToken w now token signer request).result with
      | ok claims =>
        rw [Told.handle_ok hprimary, hprimary]
        rfl
      | error e =>
        rw [Told.handle_error hprimary]
        dsimp only
        rw [primaryFailed_result]
        rfl

section Mapping
variable {rt : Runtime} {claims : Fields}

theorem openClaim_same (mapping claim : String) (v : Json) :
    (openClaim rt mapping claim v).result = Auth.openClaim rt v := by
  cases v with
  | str s =>
    unfold openClaim Auth.openClaim
    dsimp only
    cases rt.loads s with
    | ok v => rfl
    | error e => cases e <;> rfl
  | _ => rfl

theorem extractClaimValue_same (mapping : String) :
    (extractClaimValue rt claims mapping).result = Auth.extractClaimValue rt claims mapping := by
  unfold extractClaimValue Auth.extractClaimValue
  split
  · rfl
  cases claims.lookup mapping with
  | some value => rfl
  | none =>
    rcases split '.' mapping with _ | ⟨first, _ | ⟨property, rest⟩⟩
    · rfl
    · rfl
    dsimp only
    cases hv : claims.get first with
    | null => rfl
    | _ =>
      dsimp only
      rw [Told.result_bind, openClaim_same]
      rfl

theorem resolveMappedClaim_same (field mapping : String) :
    (resolveMappedClaim rt claims field mapping).result = Auth.resolveMappedClaim rt claims mapping := by
  unfold resolveMappedClaim Auth.resolveMappedClaim
  split
  · rfl
  rw [Told.result_bind, extractClaimValue_same]
  cases Auth.extractClaimValue rt claims mapping with
  | error e => rfl
  | ok value =>
    change (if value.isEmpty then _ else _ : Telling String).result = _
    split <;> rfl

theorem mapSubject_same (mapping : ThirdPartyClaimsMapping) :
    (mapSubject rt claims mapping).result = Auth.mapSubject rt claims mapping := by
  unfold mapSubject Auth.mapSubject
  split
  · rfl
  · rw [Told.result_map, resolveMappedClaim_same]

theorem mapEmail_same (mapping : ThirdPartyClaimsMapping) :
    (mapEmail rt claims mapping).result = Auth.mapEmail rt claims mapping := by
  unfold mapEmail Auth.mapEmail
  split
  · rfl
  · rw [Told.result_map, resolveMappedClaim_same]

theorem mapUserName_same (mapping : ThirdPartyClaimsMapping) :
    (mapUserName rt claims mapping).result = Auth.mapUserName rt claims mapping := by
  unfold mapUserName Auth.mapUserName
  split
  · rfl
  · rw [Told.result_map, resolveMappedClaim_same]

theorem mapThirdPartyClaims_same :
    (mapThirdPartyClaims rt claims provider).result = Auth.mapThirdPartyClaims rt claims provider := by
  unfold mapThirdPartyClaims Auth.mapThirdPartyClaims
  dsimp only
  split
  · rfl
  rw [Told.tell_bind, Told.result_bind, mapSubject_same]
  refine bind_congr fun subject => ?_
  rw [Told.result_bind, mapEmail_same]
  refine bind_congr fun email => ?_
  rw [Told.result_bind, mapUserName_same]
  refine bind_congr fun userName => ?_
  rw [Told.result_bind, resolveMappedClaim_same]
  refine bind_congr fun displayName => ?_
  rw [Told.result_bind]
  rfl

end Mapping

theorem externalContext_same {rt : Runtime} {tenantId applicationDomain : Option String} {url : String}
    {claims : Fields} :
    (externalContext rt tenantId applicationDomain url claims provider).result =
      Auth.externalContext rt tenantId applicationDomain url claims provider := by
  unfold externalContext Auth.externalContext
  dsimp only
  rw [Told.result_bind, mapThirdPartyClaims_same]
  apply bind_congr
  intro mapped
  cases mapped with
  | none => rfl
  | some mapped =>
    dsimp only
    cases createThirdPartyContext rt tenantId mapped.subject provider.defaultOrganizationId mapped.roles
        mapped.email mapped.userName (.str mapped.displayName) (applicationDomain.getD "") url with
    | ok context => rfl
    | error e =>
      dsimp only
      split <;> rfl

theorem createContext_same {v : Validated} : (createContext w request v).result = Auth.createContext w request v := by
  unfold createContext Auth.createContext
  cases v.provider with
  | some provider => exact externalContext_same
  | none =>
    dsimp only
    rw [Told.result_bind, Told.result_ofExcept]
    rfl

theorem authenticateToken_same {context : Option BlocksContext} :
    (authenticateToken providerName w now request context).result =
      Auth.authenticateToken w now request context := by
  unfold authenticateToken Auth.authenticateToken
  dsimp only
  cases given (extractTokenFromRequest w.runtime w.getTenant request context).token with
  | none => rfl
  | some token =>
    dsimp only
    cases loadTenant w request context with
    | none => rfl
    | some loaded =>
      dsimp only
      rw [Told.result_bind, validateAuthenticatedToken_same]
      rfl

theorem authenticatedContext_same {context : Option BlocksContext} :
    (authenticatedContext providerName w now request context).result =
      Auth.authenticateToken w now request context >>= Auth.createContext w request := by
  unfold authenticatedContext
  rw [Told.result_bind, authenticateToken_same]
  apply bind_congr
  intro v
  exact createContext_same

end Same

end Fallback

end BlocksGenesis.Auth.SecurityLog
