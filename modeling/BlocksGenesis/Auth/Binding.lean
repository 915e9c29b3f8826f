import BlocksGenesis.Auth.Authenticate

namespace BlocksGenesis.Auth
open Python BlocksContext

/-! ## Which tenant a Blocks token ends up in -/

/-- A Blocks token accepted by a run of `authenticate`, and the context the run stores. -/
structure AcceptedPrimary (w : World) (now : Jwt.Micros) (request : Request) (ambient : Ambient)
    (v : Validated) (context : BlocksContext) : Prop where
  validated : authenticateToken w now request ambient.context = .ok v
  primary : v.provider = none
  stored : ∃ payload, authenticate w now request ambient =
    (.ok payload, { ambient with context := some context, authClaims := some payload })

/-- The claims of a Blocks token are the payload it was minted with, apart from the two the
validation adds. -/
theorem primary_claims {w : World} {now : Jwt.Micros} {request : Request}
    {context : Option BlocksContext} {v : Validated} (hjwt : Jwt.Documented w.jwt)
    (hv : authenticateToken w now request context = .ok v) (hp : v.provider = none) :
    ∃ claims signer parameters key, w.jwt.read v.token = some claims ∧
      v.claims = (claims.set requestUriClaim (.str request.url)).set tokenClaim (.str v.token) ∧
      resolveSigningTenant w v.token v.tenant v.tenantId = .ok signer ∧
      signer.jwtTokenParameters = some parameters ∧ tenantKey w signer parameters = .ok key ∧
      w.jwt.verifies key v.token = true := by
  obtain ⟨_, isThirdParty, hval⟩ := authenticateToken_ok hv
  rw [hp] at hval
  obtain ⟨signer, hsigner, hok⟩ := validateAuthenticatedToken_primary hval
  obtain ⟨parameters, key, decoded, hparameters, hkey, hdec, hclaims⟩ := validateJwtToken_ok hok
  exact ⟨decoded, signer, parameters, key, hjwt.payload hdec, hclaims, hsigner, hparameters, hkey,
    hjwt.signature hdec⟩

theorem AcceptedPrimary.created {w : World} {now : Jwt.Micros} {request : Request} {ambient : Ambient}
    {v : Validated} {context : BlocksContext} (h : AcceptedPrimary w now request ambient v context) :
    createFromJwtClaims w.runtime v.claims v.tenantId (v.applicationDomain.getD "") = .ok context := by
  obtain ⟨payload, hs⟩ := h.stored
  obtain ⟨v', context', hv', hc, hambient⟩ := authenticate_ok hs
  have he : v' = v := Except.ok.inj (hv'.symm.trans h.validated)
  subst he
  simp only [Ambient.mk.injEq, Option.some.injEq, and_true] at hambient
  rw [hambient]
  simp only [createContext, h.primary] at hc
  obtain ⟨built, hb, hc⟩ := bind_ok_iff.mp hc
  simp only [pure_ok_iff, Prod.mk.injEq] at hc
  rw [hb, hc.2]

/-- The stored tenant is the one of the record loaded for the request exactly when the token's
own `tenant_id` claim names it: nothing on the way compares the two. -/
theorem tenant_bound_iff {w : World} {now : Jwt.Micros} {request : Request} {ambient : Ambient}
    {v : Validated} {context : BlocksContext} (hjwt : Jwt.Documented w.jwt)
    (h : AcceptedPrimary w now request ambient v context) :
    v.tenant.tenantId = some context.tenantId ↔
      ∃ claims t, w.jwt.read v.token = some claims ∧ v.tenant.tenantId = some t ∧
        claims.getD tenantIdClaim (.str "") = .str t := by
  obtain ⟨claims, _, _, _, hread, hclaims, _⟩ := primary_claims hjwt h.validated h.primary
  have htenant : claims.getD tenantIdClaim (.str "") = .str context.tenantId := by
    have ht := createFromJwtClaims_tenant h.created
    rwa [hclaims, getD_set_other (by decide), getD_set_other (by decide)] at ht
  constructor
  · intro hrecord
    exact ⟨claims, context.tenantId, hread, hrecord, htenant⟩
  · intro hsome
    obtain ⟨claims', t, hread', hrecord, ht⟩ := hsome
    cases hread.symm.trans hread'
    rw [htenant] at ht
    cases ht
    exact hrecord

/-! ## A token of one tenant, shown to another -/

def blocksTenant (name : String) : Tenant where
  tenantId := some name
  jwtTokenParameters := some { issuer := some name, audiences := ["api"] }

def blocksWorld (signer : String) (claims : Fields) : World :=
  .ofTables
    [⟨"token", "RS256", .certificate signer,
      [("iss", .str signer), ("aud", .str "api"), ("exp", .int 10), ("iat", .int 0), ("nbf", .int 0)] ++
        claims⟩]
    [("acme", blocksTenant "acme"), ("home", blocksTenant "home")] []

theorem tenant_bound_iff_acme :
    ∃ (v : Validated) (context : BlocksContext), v.tenant.tenantId = some "acme" ∧
      (v.tenant.tenantId = some context.tenantId ↔
        ∃ claims t, (blocksWorld "acme" [("tenant_id", .str "acme")]).jwt.read v.token = some claims ∧
          v.tenant.tenantId = some t ∧ claims.getD tenantIdClaim (.str "") = .str t) :=
  ⟨_, _, rfl, @tenant_bound_iff (blocksWorld "acme" [("tenant_id", .str "acme")]) 0 (bearerRequest "token") {} _ _
    (Jwt.ofMinted_documented _) ⟨rfl, rfl, _, rfl⟩⟩

/-- An impersonation token of the home tenant, shown to acme, is accepted and stored under the
home tenant: the record that was checked for the request is not the tenant of the context. -/
theorem tenant_of_another_record :
    ∃ v context, AcceptedPrimary (blocksWorld "home" [("tenant_id", .str "home"),
        ("impersonated", .bool true), ("original_tenant_id", .str "home")]) 0 (bearerRequest "token") {} v context ∧
      v.tenant.tenantId = some "acme" ∧ context.tenantId = "home" :=
  ⟨_, _, ⟨rfl, rfl, _, rfl⟩, rfl, rfl⟩

end BlocksGenesis.Auth
