import BlocksGenesis.Auth.Authenticate

namespace BlocksGenesis.Auth
open Python BlocksContext

/-! ## The claims a mapping reads -/

/-- The claims one mapping names: the claim of that very name, and the one its first dotted
segment names. -/
def claimNames (mapping : String) : List String :=
  if mapping.isEmpty then [] else mapping :: (split '.' mapping).take 1

def ThirdPartyClaimsMapping.claimNames (mapping : ThirdPartyClaimsMapping) : List String :=
  [mapping.userId, mapping.email, mapping.userName, mapping.name, mapping.roles].flatMap
    BlocksGenesis.Auth.claimNames

theorem mem_claimNames {mapping : String} (h : mapping.isEmpty = false) : mapping ∈ claimNames mapping := by
  simp [claimNames, h]

theorem mem_claimNames_split {mapping first : String} {rest : List String}
    (h : mapping.isEmpty = false) (hs : split '.' mapping = first :: rest) : first ∈ claimNames mapping := by
  simp [claimNames, h, hs]

/-- An empty dictionary needs no case of its own: nothing is found in it. -/
theorem extractClaimValue_eq {rt : Runtime} {claims : Fields} {mapping : String}
    (h : mapping.isEmpty = false) :
    extractClaimValue rt claims mapping = match claims.lookup mapping with
      | some value => .ok (printed rt value)
      | none =>
        match split '.' mapping with
        | first :: property :: _ =>
          match claims.get first with
          | .null => .ok ""
          | container => do return claimProperty rt property (← openClaim rt container)
        | _ => .ok "" := by
  cases claims with
  | nil =>
    simp only [extractClaimValue, List.isEmpty_nil, Bool.true_or, if_true, List.lookup_nil]
    split
    · rfl
    · rfl
  | cons claim claims =>
    have hopen : ¬ (((claim :: claims).isEmpty || mapping.isEmpty) = true) := by simp [h]
    unfold extractClaimValue
    exact if_neg hopen

theorem extractClaimValue_reads (rt : Runtime) (mapping : String) :
    ReadsOnly (claimNames mapping) (fun claims => extractClaimValue rt claims mapping) := by
  intro a b hab
  dsimp only
  cases hm : mapping.isEmpty with
  | true => simp [extractClaimValue, hm]
  | false =>
    rw [extractClaimValue_eq hm, extractClaimValue_eq hm, hab mapping (mem_claimNames hm)]
    cases b.lookup mapping with
    | some value => rfl
    | none =>
      dsimp only
      split
      · rename_i first property rest hs
        rw [hab.get (mem_claimNames_split hm hs)]
      · rfl

theorem resolveMappedClaim_reads (rt : Runtime) (mapping : String) :
    ReadsOnly (claimNames mapping) (fun claims => resolveMappedClaim rt claims mapping) := by
  unfold resolveMappedClaim
  split
  · exact ReadsOnly.const _
  · exact extractClaimValue_reads rt mapping

theorem extractRolesFromClaim_eq {rt : Runtime} {claims : Fields} {mapping : String}
    (h : mapping.isEmpty = false) :
    extractRolesFromClaim rt claims mapping =
      if !(literalRoles rt (claims.get mapping)).isEmpty then .ok (literalRoles rt (claims.get mapping))
      else match split '.' mapping with
        | first :: property :: rest => do
          return nestedRoles ((property :: rest).getLastD property) (← openClaim rt (claims.get first))
        | _ => .ok [] := by
  cases claims with
  | nil =>
    simp only [extractRolesFromClaim, List.isEmpty_nil, Bool.true_or, if_true]
    have hget : ∀ n, Fields.get [] n = .null := fun n => rfl
    simp only [hget, literalRoles, List.isEmpty_nil, Bool.not_true, Bool.false_eq_true, if_false]
    split
    · rfl
    · rfl
  | cons claim claims =>
    have hopen : ¬ (((claim :: claims).isEmpty || mapping.isEmpty) = true) := by simp [h]
    unfold extractRolesFromClaim
    exact if_neg hopen

theorem extractRolesFromClaim_reads (rt : Runtime) (mapping : String) :
    ReadsOnly (claimNames mapping) (fun claims => extractRolesFromClaim rt claims mapping) := by
  intro a b hab
  dsimp only
  cases hm : mapping.isEmpty with
  | true => simp [extractRolesFromClaim, hm]
  | false =>
    rw [extractRolesFromClaim_eq hm, extractRolesFromClaim_eq hm,
      hab.get (mem_claimNames hm)]
    split
    · rfl
    · split
      · rename_i first property rest hs
        rw [hab.get (mem_claimNames_split hm hs)]
      · rfl

/-! ## The wash -/

section Wash
variable {claims : Fields} {name : String}

theorem lookup_washed : (stripReservedClaims claims).lookup name =
    if name ∈ reservedClaims then none else claims.lookup name := by
  unfold stripReservedClaims
  rw [lookup_filter_keys (fun name => !reservedClaims.contains name)]
  by_cases hreserved : name ∈ reservedClaims
  · simp [hreserved]
  · simp [hreserved]

theorem get_washed_reserved (h : name ∈ reservedClaims) : (stripReservedClaims claims).get name = .null := by
  rw [Fields.get, lookup_washed, if_pos h]
  rfl

theorem get_washed_other (h : name ∉ reservedClaims) : (stripReservedClaims claims).get name = claims.get name := by
  rw [Fields.get, lookup_washed, if_neg h]
  rfl

end Wash

/-- The standard email claim is reserved, so the wash leaves none of it. -/
theorem stripReservedClaims_standardEmail (claims : Fields) :
    standardEmail (stripReservedClaims claims) = .str "" := by
  rw [standardEmail, get_washed_reserved (by decide)]
  rfl

/-- What a provider's mapping makes of washed claims depends on no claim it does not name. -/
theorem mapThirdPartyClaims_reads (rt : Runtime) (provider : ThirdPartyJwtProvider) :
    ReadsOnly provider.claimsMapping.claimNames
      (fun claims => mapThirdPartyClaims rt (stripReservedClaims claims) provider) := by
  intro a b hab
  have hwashed : AgreeOn provider.claimsMapping.claimNames (stripReservedClaims a) (stripReservedClaims b) :=
    hab.filter (fun name => !reservedClaims.contains name)
  have hnamed : ∀ m ∈ [provider.claimsMapping.userId, provider.claimsMapping.email,
      provider.claimsMapping.userName, provider.claimsMapping.name, provider.claimsMapping.roles],
      AgreeOn (claimNames m) (stripReservedClaims a) (stripReservedClaims b) := by
    intro m hm
    exact hwashed.mono (fun n hn => List.mem_flatMap.mpr ⟨m, hm, hn⟩)
  have hresolve : ∀ m ∈ [provider.claimsMapping.userId, provider.claimsMapping.email,
      provider.claimsMapping.userName, provider.claimsMapping.name, provider.claimsMapping.roles],
      resolveMappedClaim rt (stripReservedClaims a) m = resolveMappedClaim rt (stripReservedClaims b) m := by
    intro m hm
    exact resolveMappedClaim_reads rt m _ _ (hnamed m hm)
  have hsubject : mapSubject rt (stripReservedClaims a) provider.claimsMapping =
      mapSubject rt (stripReservedClaims b) provider.claimsMapping := by
    unfold mapSubject
    rw [hresolve _ (by simp)]
    split
    · rename_i hsub
      have huser := hnamed provider.claimsMapping.userId (by simp)
      rw [beq_iff_eq.mp hsub] at huser
      rw [huser.get (by decide)]
    · rfl
  have hroles := extractRolesFromClaim_reads rt _ _ _ (hnamed provider.claimsMapping.roles (by simp))
  dsimp only at hroles
  simp only [mapThirdPartyClaims, mapEmail, mapUserName, stripReservedClaims_standardEmail, hsubject, hroles,
    hresolve provider.claimsMapping.email (by simp), hresolve provider.claimsMapping.userName (by simp),
    hresolve provider.claimsMapping.name (by simp)]

/-! ## What an external token leaves behind -/

/-- What a run of `authenticate` comes to: the context it stores, or the error it raises. -/
def outcome (run : Except Exc Fields × Ambient) : Except Exc (Option BlocksContext) :=
  run.1.map (fun _ => run.2.context)

structure BuiltFromRecord (tenant : Tenant) (provider : ThirdPartyJwtProvider) (c : BlocksContext) :
    Prop where
  tenantId : tenant.tenantId = some c.tenantId
  originalTenantId : tenant.tenantId = some c.originalTenantId
  organizationId : c.organizationId = provider.defaultOrganizationId
  permissions : c.permissions = []
  impersonated : c.impersonated = false
  clientId : c.clientId = ""
  sessionId : c.sessionId = ""
  phoneNumber : c.phoneNumber = ""
  oauthToken : c.oauthToken = ""

theorem outcome_external {w : World} {now : Jwt.Micros} {request : Request} {ambient : Ambient}
    {v : Validated} {provider : ThirdPartyJwtProvider}
    (hv : authenticateToken w now request ambient.context = .ok v) (hp : v.provider = some provider) :
    outcome (authenticate w now request ambient) =
      (externalContext w.runtime v.tenant.tenantId v.applicationDomain request.url v.claims provider).map
        (fun built => some built.2) := by
  have hbuilt : authenticateToken w now request ambient.context >>= createContext w request =
      externalContext w.runtime v.tenant.tenantId v.applicationDomain request.url v.claims provider := by
    rw [hv]
    simp only [bind, Except.bind, createContext, hp]
  unfold authenticate
  rw [hbuilt]
  cases externalContext w.runtime v.tenant.tenantId v.applicationDomain request.url v.claims provider with
  | ok built => rfl
  | error e => rfl

theorem externalContext_ok {rt : Runtime} {tenant : Tenant} {applicationDomain : Option String}
    {url : String} {claims payload : Fields} {provider : ThirdPartyJwtProvider} {c : BlocksContext}
    (h : externalContext rt tenant.tenantId applicationDomain url claims provider = .ok (payload, c)) :
    payload = stripReservedClaims claims ∧ BuiltFromRecord tenant provider c ∧
      c.isAuthenticated = true ∧ c.tenantId ≠ "" ∧ c.userId ≠ "" := by
  obtain ⟨found, _, h⟩ := bind_ok_iff.mp h
  cases found with
  | none => cases h
  | some mapped =>
    dsimp only at h
    split at h
    · rename_i built hb
      simp only [pure_ok_iff, Prod.mk.injEq] at h
      obtain ⟨rfl, rfl⟩ := h
      obtain ⟨⟨ht, hblank, ho, horg⟩, ⟨name, _, huser⟩, hauth, hperm, himp, _, hclient, hsid, hphone, hoauth⟩ :=
        createThirdPartyContext_ok hb
      have hne : provider.defaultOrganizationId.isEmpty = false := by
        simpa using ne_empty_of_not_blank provider.organizationNamed
      refine ⟨rfl, ⟨ht, ?_, ?_, hperm, himp, hclient, hsid, hphone, hoauth⟩, hauth,
        ne_empty_of_not_blank hblank, ?_⟩
      · rw [ho]
        exact ht
      · rw [horg, hne]
        rfl
      · rw [huser]
        simp
    · cases h

theorem externalContext_reads (rt : Runtime) (tenantId applicationDomain : Option String) (url : String)
    (provider : ThirdPartyJwtProvider) :
    ReadsOnly provider.claimsMapping.claimNames (fun claims =>
      (externalContext rt tenantId applicationDomain url claims provider).map (fun built => some built.2)) := by
  intro a b hab
  have hmapped := mapThirdPartyClaims_reads rt provider a b hab
  dsimp only at hmapped
  dsimp only [externalContext]
  rw [hmapped]
  cases mapThirdPartyClaims rt (stripReservedClaims b) provider with
  | error e => rfl
  | ok found =>
    cases found with
    | none => rfl
    | some mapped =>
      simp only [bind, Except.bind]
      split
      · rfl
      · rfl

/-- Two external tokens that agree on what the provider's mapping names come to the same:
the same error, or equal contexts, and those are the record's and the provider's. -/
theorem external_tokens_cannot_steer {w : World} {now now' : Jwt.Micros} {request request' : Request}
    {ambient ambient' : Ambient} {v v' : Validated} {provider : ThirdPartyJwtProvider}
    (hv : authenticateToken w now request ambient.context = .ok v)
    (hv' : authenticateToken w now' request' ambient'.context = .ok v')
    (hp : v.provider = some provider) (hp' : v'.provider = some provider)
    (htenant : v.tenant.tenantId = v'.tenant.tenantId)
    (hdomain : v.applicationDomain = v'.applicationDomain) (hurl : request.url = request'.url)
    (hagree : AgreeOn provider.claimsMapping.claimNames v.claims v'.claims) :
    outcome (authenticate w now request ambient) = outcome (authenticate w now' request' ambient') ∧
      ∀ c, outcome (authenticate w now request ambient) = .ok (some c) →
        BuiltFromRecord v.tenant provider c := by
  rw [outcome_external hv hp, outcome_external hv' hp']
  constructor
  · rw [← htenant, ← hdomain, ← hurl]
    exact externalContext_reads _ _ _ _ _ _ _ hagree
  · intro c hc
    cases hb : externalContext w.runtime v.tenant.tenantId v.applicationDomain request.url v.claims
        provider with
    | error e => simp [hb, Except.map] at hc
    | ok built =>
      obtain ⟨payload, c'⟩ := built
      simp only [hb, Except.map, Except.ok.injEq, Option.some.injEq] at hc
      subst hc
      exact (externalContext_ok hb).2.1

def acmePair (claims claims' : Fields) : World :=
  .ofTables [⟨"token", "HS256", .secret "secret", claims⟩, ⟨"other", "HS256", .secret "secret", claims'⟩]
    [("acme", acmeTenant)] [("acme", [acmeProvider])]

def adaClaims : Fields := [("iss", .str "https://idp"), ("sub", .str "ada")]

def craftedClaims : Fields :=
  adaClaims ++ [("tenant_id", .str "home"), ("impersonated", .bool true), ("permissions", .arr [.str "all"])]

def acmeValidated (token : String) (claims : Fields) : Validated :=
  ⟨token, "acme", acmeTenant, none, claims.set requestUriClaim (.str ""), some acmeProvider⟩

theorem external_tokens_cannot_steer_acme :
    outcome (authenticate (acmePair adaClaims craftedClaims) 0 (bearerRequest "token") {}) =
      outcome (authenticate (acmePair adaClaims craftedClaims) 5 (bearerRequest "other") {}) ∧
    ∀ c, outcome (authenticate (acmePair adaClaims craftedClaims) 0 (bearerRequest "token") {}) = .ok (some c) →
      BuiltFromRecord acmeTenant acmeProvider c := by
  have hagree : AgreeOn acmeProvider.claimsMapping.claimNames (acmeValidated "token" adaClaims).claims
      (acmeValidated "other" craftedClaims).claims := by
    intro n hn
    have hsub : n = "sub" := by
      revert n
      decide
    subst hsub
    rfl
  exact @external_tokens_cannot_steer (acmePair adaClaims craftedClaims) 0 5 (bearerRequest "token")
    (bearerRequest "other") {} {} (acmeValidated "token" adaClaims) (acmeValidated "other" craftedClaims)
    acmeProvider rfl rfl rfl rfl rfl rfl rfl hagree

end BlocksGenesis.Auth
