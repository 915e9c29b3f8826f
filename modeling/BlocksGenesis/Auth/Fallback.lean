import BlocksGenesis.Auth.Request
import BlocksGenesis.Auth.Selector
import BlocksGenesis.Auth.Jwt

namespace BlocksGenesis.Auth
open Python BlocksContext

abbrev Bytes := List UInt8

/-- A verification key, with the place it was read from. -/
inductive VerificationKey where
  | secret (plain : String)
  | jwks (key : String)
  | certificate (pem : String)
deriving DecidableEq, Repr

/-- Everything outside the process that authentication asks. -/
structure World where
  runtime : Runtime
  jwt : Jwt.Library VerificationKey
  getTenant : String → Option Tenant
  getTenantCert : Tenant → Except Exc (Option Bytes)
  /-- The public key, as PEM, of a certificate opened with a password. -/
  publicKey : Bytes → Option String → Option String
  /-- The active provider rows of a tenant, none when the host has no provider store. -/
  providerStore : Option (String → List ThirdPartyJwtProvider)
  decrypt : String → String → Except Exc (Option String)
  jwksKey : String → String → Except Exc String
  cachedBytes : String → Except Exc (Option Bytes)
  fetchCertBytes : String → Except Exc Bytes

/-- A world that is no more than these tables: its secrets are stored in the clear, and a
certificate is the name of the tenant or the path it belongs to. -/
def World.ofTables (minted : List (Jwt.Minted VerificationKey)) (tenants : List (String × Tenant))
    (rows : List (String × List ThirdPartyJwtProvider)) : World where
  runtime := asciiRuntime
  jwt := Jwt.ofMinted minted
  getTenant id := tenants.lookup id
  getTenantCert tenant := .ok (some ((tenant.tenantId.getD "").toList.map (fun c => UInt8.ofNat c.toNat)))
  publicKey bytes _ := some (String.ofList (bytes.map (fun b => Char.ofNat b.toNat)))
  providerStore := some (fun t => (rows.lookup t).getD [])
  decrypt cipher _ := .ok (some cipher)
  jwksKey url _ := .ok url
  cachedBytes _ := .ok none
  fetchCertBytes path := .ok (path.toList.map (fun c => UInt8.ofNat c.toNat))

def thirdPartyLeewaySeconds : Int := 300

structure ThirdPartyValidation where
  claims : Fields
  provider : ThirdPartyJwtProvider

def itemsOf : Json → Except Exc (List Json)
  | .arr items => .ok items
  | .obj fields => .ok (fields.map (fun f => .str f.1))
  | .str s => .ok (s.toList.map (fun c => .str (String.singleton c)))
  | _ => .error (.typeError "object is not iterable")

def routingAudiences (claims : Fields) : Except Exc (List Json) :=
  match (claims.get audiencesClaim).orElse (.arr []) with
  | .str s => .ok [.str s]
  | v => itemsOf v

/-- Read `iss` and `aud` without validating anything. -/
def readTokenRouting (w : World) (token : String) : Except Exc (Json × List Json) :=
  match w.jwt.read token with
  | none => .ok (.str "", [])
  | some claims => do
    return ((claims.get issuerClaim).orElse (.str ""), ← routingAudiences claims)

def decryptProviderSecret (w : World) (tenant : Tenant) (cipher : String) :
    Except Exc (Option String) := do
  if tenant.tenantSalt.isEmpty then
    return none
  return given (← w.decrypt cipher tenant.tenantSalt)

/-- The provider's certificate bytes, from the cache or fetched. A cache that fails is passed
over; a fetch that fails gives nothing. -/
def providerCertificate (w : World) (provider : ThirdPartyJwtProvider) : Option Bytes :=
  match w.cachedBytes ("tpprovcert::" ++ provider.tenantId ++ "::" ++ provider.key) with
  | .ok (some (byte :: bytes)) => some (byte :: bytes)
  | _ =>
    match w.fetchCertBytes provider.publicCertificatePath with
    | .ok bytes => some bytes
    | .error _ => none

def resolveCertificateKey (w : World) (tenant : Tenant) (provider : ThirdPartyJwtProvider) :
    Except Exc (Option VerificationKey) := do
  let pemUnder (password : Option String) : Option VerificationKey :=
    match providerCertificate w provider with
    | none | some [] => none
    | some bytes => (w.publicKey bytes password).map .certificate
  if provider.publicCertificatePasswordCipher.isEmpty then
    return pemUnder none
  match ← decryptProviderSecret w tenant provider.publicCertificatePasswordCipher with
  | none => return none
  | some password => return pemUnder (some password)

/-- The verification key for a provider, chosen by its configured algorithms and never by the
token's own `alg` header. -/
def resolveProviderKey (w : World) (token : String) (tenant : Tenant)
    (provider : ThirdPartyJwtProvider) : Except Exc (Option VerificationKey) :=
  if !isSingleKeySource provider.algorithms then .ok none
  else if (provider.algorithms.head?).any isSymmetric then
    if provider.signingSecretCipher.isEmpty then .ok none
    else do return (← decryptProviderSecret w tenant provider.signingSecretCipher).map .secret
  else if !provider.jwksUrl.isEmpty then
    match w.jwksKey provider.jwksUrl token with
    | .ok key => .ok (some (.jwks key))
    | .error _ => .ok none
  else if !provider.publicCertificatePath.isEmpty then resolveCertificateKey w tenant provider
  else .ok none

/-- The arguments the fallback gives to `jwt.decode`. No claim is required. -/
def fallbackCall (provider : ThirdPartyJwtProvider) (key : VerificationKey) :
    Jwt.Call VerificationKey where
  key
  algorithms := toWireNames provider.algorithms
  issuer := given (some provider.issuer)
  audience := if provider.audiences.isEmpty then none else some provider.audiences
  options :=
    { verifyExp := true
      verifyNbf := true
      verifyIss := !provider.issuer.isEmpty
      verifyAud := !provider.audiences.isEmpty }
  leeway := thirdPartyLeewaySeconds

def getActive (rows : String → List ThirdPartyJwtProvider) (tenantId : Option String) :
    List ThirdPartyJwtProvider :=
  match tenantId with
  | none => []
  | some t => if blank t then [] else rows t

/-- The part of the fallback that reads nothing verified: the provider a token belongs to and
the key to verify it with, or why there is none. -/
def chooseProvider (w : World) (token : String) (tenant : Option Tenant) (request : Request) :
    Except Exc (ThirdPartyProviderSelection × Option (ThirdPartyJwtProvider × VerificationKey)) :=
  match tenant with
  | none => .ok (.noProviders, none)
  | some tenant =>
    if !tenant.isThirdPartyJwtEnabled then .ok (.noProviders, none)
    else if token.isEmpty then .ok (.noProviders, none)
    -- a request that declares another tenant than the one loaded is refused
    else if (tenantDeclaredOnRequest request).any (fun d => some d != tenant.tenantId) then
      .ok (.noProviders, none)
    else match w.providerStore with
      | none => .ok (.noProviders, none)
      | some rows => do
        let (issuer, audiences) ← readTokenRouting w token
        let selection ←
          select (getActive rows tenant.tenantId) issuer audiences (request.header "x-blocks-idp")
        match selection.provider with
        | none => return (selection.outcome, none)
        | some provider =>
          let key ← resolveProviderKey w token tenant provider
          return (.selected, key.map (provider, ·))

def runFallback (w : World) (now : Jwt.Micros) (token : String) (tenant : Option Tenant)
    (request : Request) :
    Except Exc (Option ThirdPartyValidation × ThirdPartyProviderSelection) := do
  match ← chooseProvider w token tenant request with
  | (outcome, none) => return (none, outcome)
  | (outcome, some (provider, key)) =>
    match w.jwt.decode (fallbackCall provider key) now token with
    | .error _ => return (none, outcome)
    | .ok claims => return (some ⟨claims.set requestUriClaim (.str request.url), provider⟩, outcome)

/-- Validate a token minted by an external identity provider. Nothing escapes from here. -/
def validateWithFallback (w : World) (now : Jwt.Micros) (token : String) (tenant : Option Tenant)
    (request : Request) : Option ThirdPartyValidation :=
  match runFallback w now token tenant request with
  | .ok (result, _) => result
  | .error _ => none

/-! ## What an acceptance went through -/

structure Chosen (w : World) (token : String) (tenant : Tenant) (request : Request)
    (provider : ThirdPartyJwtProvider) (key : VerificationKey) : Prop where
  enabled : tenant.isThirdPartyJwtEnabled = true
  declared : ∀ d, tenantDeclaredOnRequest request = some d → tenant.tenantId = some d
  row : ∃ rows, w.providerStore = some rows ∧ provider ∈ getActive rows tenant.tenantId
  issuer : ∀ read, w.jwt.read token = some read →
    IssuerFits ((read.get issuerClaim).orElse (.str "")) provider.issuer
  keyed : resolveProviderKey w token tenant provider = .ok (some key)

theorem chooseProvider_some {w : World} {token : String} {tenant : Option Tenant} {request : Request}
    {outcome : ThirdPartyProviderSelection} {provider : ThirdPartyJwtProvider} {key : VerificationKey}
    (h : chooseProvider w token tenant request = .ok (outcome, some (provider, key))) :
    ∃ t, tenant = some t ∧ Chosen w token t request provider key := by
  unfold chooseProvider at h
  cases tenant with
  | none => simp at h
  | some t =>
    dsimp only at h
    split at h
    · simp at h
    · rename_i hen
      split at h
      · simp at h
      · split at h
        · simp at h
        · rename_i hdecl
          split at h
          · simp at h
          · rename_i rows hrows
            obtain ⟨⟨issuer, audiences⟩, hroute, h⟩ := bind_ok_iff.mp h
            obtain ⟨selection, hsel, h⟩ := bind_ok_iff.mp h
            split at h
            · simp at h
            · rename_i p hp
              obtain ⟨found, hkey, h⟩ := bind_ok_iff.mp h
              simp only [pure_ok_iff, Prod.mk.injEq, Option.map_eq_some_iff] at h
              obtain ⟨_, k, rfl, rfl, rfl⟩ := h
              obtain ⟨hm, hi⟩ := select_sound hsel hp
              refine ⟨t, rfl, by simpa using hen, ?_, ⟨rows, hrows, hm⟩, ?_, hkey⟩
              · intro d hd
                simp only [hd, Option.any_some, bne_iff_ne, ne_eq, Decidable.not_not] at hdecl
                exact hdecl.symm
              · intro read hread
                simp only [readTokenRouting, hread] at hroute
                obtain ⟨_, _, hroute⟩ := bind_ok_iff.mp hroute
                simp only [pure_ok_iff, Prod.mk.injEq] at hroute
                rw [hroute.1]
                exact hi

/-- An acceptance is a chosen provider whose key verified the token at that moment. -/
theorem validateWithFallback_eq_some {w : World} {now : Jwt.Micros} {token : String}
    {tenant : Option Tenant} {request : Request} {v : ThirdPartyValidation} :
    validateWithFallback w now token tenant request = some v ↔
      ∃ outcome key claims, chooseProvider w token tenant request = .ok (outcome, some (v.provider, key)) ∧
        w.jwt.decode (fallbackCall v.provider key) now token = .ok claims ∧
        v.claims = claims.set requestUriClaim (.str request.url) := by
  simp only [validateWithFallback, runFallback]
  cases hc : chooseProvider w token tenant request with
  | error e => simp [bind, Except.bind]
  | ok chosen =>
    obtain ⟨outcome, found⟩ := chosen
    cases found with
    | none => simp [bind, Except.bind, pure, Except.pure]
    | some found =>
      obtain ⟨provider, key⟩ := found
      simp only [bind, Except.bind]
      constructor
      · intro h
        cases hd : w.jwt.decode (fallbackCall provider key) now token with
        | error e => simp [hd, pure, Except.pure] at h
        | ok claims =>
          simp only [hd, pure, Except.pure, Option.some.injEq] at h
          subst h
          exact ⟨outcome, key, claims, rfl, hd, rfl⟩
      · intro hsome
        obtain ⟨outcome', key', claims, he, hd, hv⟩ := hsome
        cases he
        obtain ⟨vclaims, vprovider⟩ := v
        dsimp only at hd hv
        simp [hd, hv, pure, Except.pure]

theorem resolveCertificateKey_source {w : World} {tenant : Tenant} {provider : ThirdPartyJwtProvider}
    {key : VerificationKey} (h : resolveCertificateKey w tenant provider = .ok (some key)) :
    ∃ k, key = .jwks k ∨ key = .certificate k := by
  have hpem : ∀ bytes password, (w.publicKey bytes password).map VerificationKey.certificate = some key →
      ∃ k, key = .jwks k ∨ key = .certificate k := by
    intro bytes password hk
    obtain ⟨pem, _, rfl⟩ := Option.map_eq_some_iff.mp hk
    exact ⟨pem, .inr rfl⟩
  unfold resolveCertificateKey at h
  dsimp only at h
  split at h
  · have h := pure_ok_iff.mp h
    split at h
    · simp at h
    · simp at h
    · exact hpem _ _ h
  · obtain ⟨password, _, h⟩ := bind_ok_iff.mp h
    split at h
    · simp at h
    · have h := pure_ok_iff.mp h
      split at h
      · simp at h
      · simp at h
      · exact hpem _ _ h

/-- The key source follows the configured algorithms: the signing secret when all of them are
HMAC, a published key when none is. -/
theorem resolveProviderKey_source {w : World} {token : String} {tenant : Tenant}
    {provider : ThirdPartyJwtProvider} {key : VerificationKey}
    (h : resolveProviderKey w token tenant provider = .ok (some key)) :
    provider.algorithms ≠ [] ∧
      (((∀ a ∈ provider.algorithms, isSymmetric a = true) ∧ ∃ plain, key = .secret plain ∧
          decryptProviderSecret w tenant provider.signingSecretCipher = .ok (some plain)) ∨
        ((∀ a ∈ provider.algorithms, isSymmetric a = false) ∧
          ∃ k, key = .jwks k ∨ key = .certificate k)) := by
  unfold resolveProviderKey at h
  split at h
  · simp at h
  · rename_i hsingle
    obtain ⟨hne, hfam⟩ := isSingleKeySource_cases (by simpa using hsingle)
    refine ⟨hne, ?_⟩
    obtain ⟨a, rest, ha⟩ := List.exists_cons_of_ne_nil hne
    have hmem : a ∈ provider.algorithms := by simp [ha]
    split at h
    · rename_i hsym
      have hsym : isSymmetric a = true := by simpa [ha] using hsym
      rcases hfam with hfam | hfam
      · split at h
        · simp at h
        · obtain ⟨plain, hplain, h⟩ := bind_ok_iff.mp h
          obtain ⟨s, rfl, rfl⟩ := Option.map_eq_some_iff.mp (pure_ok_iff.mp h)
          exact .inl ⟨hfam, s, rfl, hplain⟩
      · simp [hfam a hmem] at hsym
    · rename_i hsym
      have hsym : isSymmetric a = false := by simpa [ha] using hsym
      rcases hfam with hfam | hfam
      · simp [hfam a hmem] at hsym
      · refine .inr ⟨hfam, ?_⟩
        split at h
        · split at h
          · rename_i k _
            cases h
            exact ⟨k, .inl rfl⟩
          · simp at h
        · split at h
          · exact resolveCertificateKey_source h
          · simp at h

/-! ## Soundness of third-party acceptance -/

/-- What an accepted external token is worth, in the terms the tenant configured. -/
structure AcceptanceSound (w : World) (token : String) (tenant : Tenant) (request : Request)
    (v : ThirdPartyValidation) : Prop where
  enabled : tenant.isThirdPartyJwtEnabled = true
  declared : ∀ d, tenantDeclaredOnRequest request = some d → tenant.tenantId = some d
  row : ∃ rows t, w.providerStore = some rows ∧ tenant.tenantId = some t ∧ v.provider ∈ rows t
  issuerNamed : ∀ name, v.claims.get issuerClaim = .str name → blank name = false →
    v.provider.issuer = name
  issuerBlank : (∀ name, v.claims.get issuerClaim = .str name → blank name = true) →
    blank v.provider.issuer = true
  audience : v.provider.audiences ≠ [] →
    Jwt.audienceMeets v.provider.audiences (v.claims.get audiencesClaim) = true
  algorithm : ∃ a ∈ v.provider.algorithms, w.jwt.alg token = some (toWireName a)
  keySource : ∃ key, resolveProviderKey w token tenant v.provider = .ok (some key) ∧
    w.jwt.verifies key token = true ∧
    ((∃ plain, key = .secret plain ∧
        decryptProviderSecret w tenant v.provider.signingSecretCipher = .ok (some plain)) ↔
      ∀ a ∈ v.provider.algorithms, isSymmetric a = true) ∧
    ((∃ k, key = .jwks k ∨ key = .certificate k) ↔
      ∀ a ∈ v.provider.algorithms, isSymmetric a = false)

theorem getActive_mem {rows : String → List ThirdPartyJwtProvider} {tenantId : Option String}
    {p : ThirdPartyJwtProvider} (h : p ∈ getActive rows tenantId) :
    ∃ t, tenantId = some t ∧ p ∈ rows t := by
  cases tenantId with
  | none => simp [getActive] at h
  | some t =>
    simp only [getActive] at h
    split at h
    · simp at h
    · exact ⟨t, rfl, h⟩

/-- A key comes from one kind of place, whichever way the algorithms are read. -/
theorem resolveProviderKey_exact {w : World} {token : String} {tenant : Tenant}
    {provider : ThirdPartyJwtProvider} {key : VerificationKey}
    (h : resolveProviderKey w token tenant provider = .ok (some key)) :
    ((∃ plain, key = .secret plain ∧
        decryptProviderSecret w tenant provider.signingSecretCipher = .ok (some plain)) ↔
      ∀ a ∈ provider.algorithms, isSymmetric a = true) ∧
    ((∃ k, key = .jwks k ∨ key = .certificate k) ↔
      ∀ a ∈ provider.algorithms, isSymmetric a = false) := by
  obtain ⟨hne, hsrc⟩ := resolveProviderKey_source h
  obtain ⟨a, rest, ha⟩ := List.exists_cons_of_ne_nil hne
  have hmem : a ∈ provider.algorithms := by simp [ha]
  rcases hsrc with ⟨hfam, plain, hk, hd⟩ | ⟨hfam, k, hk⟩
  · refine ⟨⟨fun _ => hfam, fun _ => ⟨plain, hk, hd⟩⟩, ?_, ?_⟩
    · rintro ⟨k, hk' | hk'⟩ <;> simp [hk] at hk'
    · intro hn
      exact absurd (hfam a hmem) (by simp [hn a hmem])
  · refine ⟨⟨?_, ?_⟩, fun _ => hfam, fun _ => ⟨k, hk⟩⟩
    · intro hsome
      obtain ⟨plain, hp, _⟩ := hsome
      rcases hk with hk | hk <;> simp [hk] at hp
    · intro hall
      exact absurd (hall a hmem) (by simp [hfam a hmem])

/-- Acceptance is sound: the tenant opted in and is the one the request declares, the provider
is one of its rows and fits the token's issuer and audience, and the token verified under a key
of the provider's own kind with one of the provider's own algorithms. -/
theorem validateWithFallback_sound {w : World} {now : Jwt.Micros} {token : String} {tenant : Tenant}
    {request : Request} {v : ThirdPartyValidation} (hjwt : Jwt.Documented w.jwt)
    (h : validateWithFallback w now token (some tenant) request = some v) :
    AcceptanceSound w token tenant request v := by
  obtain ⟨_, key, claims, hc, hdec, hresult⟩ := validateWithFallback_eq_some.mp h
  obtain ⟨_, ht, ha⟩ := chooseProvider_some hc
  cases ht
  have hget : ∀ n, n ≠ requestUriClaim → v.claims.get n = claims.get n := by
    intro n hn
    rw [hresult, Fields.get, lookup_set_other hn]
    rfl
  have hiss := hget issuerClaim (by decide)
  have haud := hget audiencesClaim (by decide)
  have hroute := ha.issuer claims (hjwt.payload hdec)
  obtain ⟨rows, hrows, hp⟩ := ha.row
  obtain ⟨t, ht, hm⟩ := getActive_mem hp
  refine ⟨ha.enabled, ha.declared, ⟨rows, t, hrows, ht, hm⟩, ?_, ?_, ?_, ?_, ?_⟩
  · intro name hname hb
    exact hroute.eq_of_named (hiss.symm.trans hname) hb
  · intro hblank
    exact hroute.blank_of_unnamed (fun name hn => hblank name (hiss.trans hn))
  · intro hne
    rw [haud]
    have hne' : v.provider.audiences.isEmpty = false := by simpa using hne
    exact hjwt.audience hdec (by simp [fallbackCall, hne']) (by simp [fallbackCall, hne'])
  · obtain ⟨alg, halg, htok⟩ := hjwt.algorithm hdec
    obtain ⟨a, hma, rfl⟩ := mem_toWireNames halg
    exact ⟨a, hma, htok⟩
  · exact ⟨key, ha.keyed, hjwt.signature hdec, resolveProviderKey_exact ha.keyed⟩

def acmeTenant : Tenant := { tenantId := some "acme", tenantSalt := "salt", isThirdPartyJwtEnabled := true }

def acmeProvider : ThirdPartyJwtProvider where
  tenantId := "acme"
  key := "idp"
  isActive := true
  issuer := "https://idp"
  algorithms := [.hs256]
  signingSecretCipher := "secret"
  claimsMapping := { userId := "sub" }

def acmeWorld (claims : Fields) : World :=
  World.ofTables [⟨"token", "HS256", .secret "secret", claims⟩] [("acme", acmeTenant)]
    [("acme", [acmeProvider])]

theorem validateWithFallback_sound_acme :
    AcceptanceSound (acmeWorld [("iss", .str "https://idp"), ("exp", .int 10)]) "token" acmeTenant {}
      ⟨[("request_uri", .str ""), ("iss", .str "https://idp"), ("exp", .int 10)], acmeProvider⟩ :=
  @validateWithFallback_sound _ 0 _ _ _ _ (Jwt.ofMinted_documented _) rfl

/-! ## The life of an external token -/

/-- However the rest of the world stands, the token is only accepted up to its expiry, and there
is a moment after which it never is. -/
structure Dies (lib : Jwt.Library VerificationKey) (token : String) : Prop where
  bounded : ∀ (w : World) now tenant request v, w.jwt = lib →
    validateWithFallback w now token tenant request = some v →
    ∃ value e, v.claims.lookup expireOnClaim = some value ∧ lib.date value = some e ∧
      now ≤ Jwt.seconds (e + thirdPartyLeewaySeconds)
  ends : ∃ last, ∀ (w : World) now tenant request, w.jwt = lib → last < now →
    validateWithFallback w now token tenant request = none

theorem accepted_before_expiry {w : World} {now : Jwt.Micros} {token : String}
    {tenant : Option Tenant} {request : Request} {v : ThirdPartyValidation} {claims : Fields}
    {value : Json} (hjwt : Jwt.Documented w.jwt) (hread : w.jwt.read token = some claims)
    (hexp : claims.lookup expireOnClaim = some value)
    (h : validateWithFallback w now token tenant request = some v) :
    v.claims.lookup expireOnClaim = some value ∧
      ∃ e, w.jwt.date value = some e ∧ now < Jwt.seconds (e + thirdPartyLeewaySeconds) := by
  obtain ⟨_, key, decoded, _, hdec, hresult⟩ := validateWithFallback_eq_some.mp h
  have he : decoded = claims := Option.some.inj ((hjwt.payload hdec).symm.trans hread)
  subst he
  refine ⟨?_, hjwt.expiry hdec rfl hexp⟩
  rw [hresult, lookup_set_other (by decide), hexp]

/-- A token without an expiry, accepted once, is accepted for ever by the same world. -/
theorem accepted_later {w : World} {now later : Jwt.Micros} {token : String}
    {tenant : Option Tenant} {request : Request} {v : ThirdPartyValidation} {claims : Fields}
    (hjwt : Jwt.Documented w.jwt) (hread : w.jwt.read token = some claims)
    (hexp : claims.lookup expireOnClaim = none) (hle : now ≤ later)
    (h : validateWithFallback w now token tenant request = some v) :
    validateWithFallback w later token tenant request = some v := by
  obtain ⟨outcome, key, decoded, hc, hdec, hresult⟩ := validateWithFallback_eq_some.mp h
  have he : decoded = claims := Option.some.inj ((hjwt.payload hdec).symm.trans hread)
  subst he
  exact validateWithFallback_eq_some.mpr
    ⟨outcome, key, decoded, hc, hjwt.unexpiring hdec hexp hle, hresult⟩

/-- Of the external tokens that are ever accepted, those that die are those that carry an
`exp` claim: nothing requires the others to have one. -/
theorem external_token_dies_iff {lib : Jwt.Library VerificationKey} (hjwt : Jwt.Documented lib)
    {token : String} {claims : Fields} (hread : lib.read token = some claims)
    {w : World} (hw : w.jwt = lib) {now : Jwt.Micros} {tenant : Option Tenant} {request : Request}
    {v : ThirdPartyValidation} (haccept : validateWithFallback w now token tenant request = some v) :
    Dies lib token ↔ (claims.lookup expireOnClaim).isSome = true := by
  constructor
  · intro hdies
    cases hexp : claims.lookup expireOnClaim with
    | some value => rfl
    | none =>
      exfalso
      obtain ⟨last, hlast⟩ := hdies.ends
      have hlater := accepted_later (hw ▸ hjwt) (hw ▸ hread) hexp
        (Int.le_max_left now (last + 1)) haccept
      have hnone := hlast w (max now (last + 1)) tenant request hw
        (Int.lt_of_lt_of_le (Int.lt_succ last) (Int.le_max_right now (last + 1)))
      rw [hnone] at hlater
      cases hlater
  · intro hexp
    obtain ⟨value, hvalue⟩ := Option.isSome_iff_exists.mp hexp
    have hbefore : ∀ (w : World) now tenant request v, w.jwt = lib →
        validateWithFallback w now token tenant request = some v →
        v.claims.lookup expireOnClaim = some value ∧
          ∃ e, lib.date value = some e ∧ now < Jwt.seconds (e + thirdPartyLeewaySeconds) := by
      intro w now tenant request v hw h
      subst hw
      exact accepted_before_expiry hjwt hread hvalue h
    refine ⟨?_, ?_⟩
    · intro w now tenant request v hw h
      obtain ⟨hv, e, he, hlt⟩ := hbefore w now tenant request v hw h
      exact ⟨value, e, hv, he, Int.le_of_lt hlt⟩
    · refine ⟨Jwt.seconds (((lib.date value).getD 0) + thirdPartyLeewaySeconds), ?_⟩
      intro w now tenant request hw hlt
      cases hv : validateWithFallback w now token tenant request with
      | none => rfl
      | some v =>
        exfalso
        obtain ⟨_, e, he, hbound⟩ := hbefore w now tenant request v hw hv
        rw [he, Option.getD_some] at hlt
        exact Int.lt_irrefl _ (Int.lt_trans hlt hbound)

theorem external_token_dies_iff_acme :
    Dies (acmeWorld [("iss", .str "https://idp"), ("exp", .int 10)]).jwt "token" ↔
      ([("iss", .str "https://idp"), ("exp", .int 10)].lookup expireOnClaim : Option Json).isSome = true :=
  @external_token_dies_iff _ (Jwt.ofMinted_documented _) "token" _ rfl
    (acmeWorld [("iss", .str "https://idp"), ("exp", .int 10)]) rfl 0 (some acmeTenant) {}
    ⟨[("request_uri", .str ""), ("iss", .str "https://idp"), ("exp", .int 10)], acmeProvider⟩ rfl

/-- A provider that leaves `exp` out of its tokens mints one that never dies. -/
theorem external_token_lives_without_exp :
    ¬ Dies (acmeWorld [("iss", .str "https://idp")]).jwt "token" := by
  intro hdies
  obtain ⟨value, _, hv, _⟩ :=
    hdies.bounded (acmeWorld [("iss", .str "https://idp")]) 0 (some acmeTenant) {}
      ⟨[("request_uri", .str ""), ("iss", .str "https://idp")], acmeProvider⟩ rfl rfl
  cases hv

end BlocksGenesis.Auth
