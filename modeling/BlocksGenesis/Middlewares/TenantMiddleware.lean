import BlocksGenesis.Auth.Authenticate
import BlocksGenesis.Auth.Hosts
import BlocksGenesis.Tenants.TenantService

/-! The tenant a request is served for, and the tenant it declares. -/

namespace BlocksGenesis.Middlewares
open Python BlocksGenesis.Auth BlocksGenesis.Tenants

/-! ## The middleware -/

inductive Resolved where
  | tenant (tenant : Tenant)
  | rejected (status : Nat) (message : String)

def applicationNotFound : Resolved := .rejected 404 "Not_Found: Application_Not_Found"

/-- A tenant that was looked up is still turned away if it is disabled, or if the request comes from elsewhere. -/
def admitTenant (rt : Runtime) (request : Request) : Option Tenant → Resolved
  | none => applicationNotFound
  | some tenant =>
    if tenant.isDisabled then applicationNotFound
    else if !isValidOriginOrReferer rt request tenant then
      .rejected 406 "NotAcceptable: Invalid_Origin_Or_Referer"
    else .tenant tenant

/-- The tenant of the request's key, or of its host where it has no key. -/
def resolveTenantOrReject (rt : Runtime) (getTenant getTenantByDomain : String → Option Tenant)
    (requestHost : Option String) (request : Request) : Resolved :=
  match requestTenantKey request with
  | none =>
    let host := requestHost.getD ""
    if isLocalhostHost rt host then .rejected 400 "BadRequest: Missing_Tenant_Key_Or_Id"
    else admitTenant rt request (getTenantByDomain host)
  | some key => admitTenant rt request (getTenant key)

/-- One document whose `_id` or whose `TenantId` is the key. -/
def loadTenantFromDb (database : List TenantDocument) (tenantId : String) : Option Tenant :=
  (database.find? (fun document => document.id == tenantId || document.tenant.tenantId == some tenantId)).bind
    (fun document => if document.parses then some document.tenant else none)

/-! ## The guard of the fallback -/

/-- The request declares another tenant than the one that was loaded. -/
def declaresAnother (request : Request) (tenant : Tenant) : Bool :=
  (tenantDeclaredOnRequest request).any (fun declared => some declared != tenant.tenantId)

/-- The keys agree wherever they are given: a `tenant_id` header repeats the key that is looked up, and without it
and without a key in the headers the two parameters of the query do not differ. -/
def KeysAgree (request : Request) : Prop :=
  match given (request.header "tenant_id"), given (request.header "x-blocks-key"),
    given (request.queryParam "x-blocks-key"), given (request.queryParam "tenant_id") with
  | some declared, some key, _, _ => declared = key
  | some declared, none, some key, _ => declared = key
  | some declared, none, none, some key => declared = key
  | some _, none, none, none => False
  | none, none, some key, some tenantId => key = tenantId
  | none, _, _, _ => True

section Declared
variable {request : Request} {tenant : Tenant} {key token : String} {w : World}

theorem tenantDeclaredOnRequest_eq (request : Request) : tenantDeclaredOnRequest request =
    (((given (request.header "tenant_id")).or (given (request.header "x-blocks-key"))).or
      (given (request.queryParam "tenant_id"))).or (given (request.queryParam "x-blocks-key")) := by
  unfold tenantDeclaredOnRequest
  simp only [List.findSome?_cons, List.findSome?_nil]
  cases given (request.header "tenant_id") with
  | some declared => rfl
  | none =>
    cases given (request.header "x-blocks-key") with
    | some key => rfl
    | none =>
      cases given (request.queryParam "tenant_id") with
      | some tenantId => rfl
      | none =>
        cases given (request.queryParam "x-blocks-key") with
        | some key => rfl
        | none => rfl

/-- Both readings are the same for the requests whose keys agree. -/
theorem requestTenantKey_declared_iff (request : Request) :
    requestTenantKey request = tenantDeclaredOnRequest request ↔ KeysAgree request := by
  rw [tenantDeclaredOnRequest_eq, requestTenantKey]
  unfold KeysAgree
  cases given (request.header "tenant_id") with
  | some declared =>
    cases given (request.header "x-blocks-key") with
    | some key => simp [eq_comm]
    | none =>
      cases given (request.queryParam "x-blocks-key") with
      | some key => simp [eq_comm]
      | none =>
        cases given (request.queryParam "tenant_id") with
        | some tenantId => simp [eq_comm]
        | none => simp
  | none =>
    cases given (request.header "x-blocks-key") with
    | some key => simp
    | none =>
      cases given (request.queryParam "x-blocks-key") with
      | some key =>
        cases given (request.queryParam "tenant_id") with
        | some tenantId => simp
        | none => simp
      | none =>
        cases given (request.queryParam "tenant_id") with
        | some tenantId => simp
        | none => simp

theorem declaresAnother_eq (hdeclared : tenantDeclaredOnRequest request = some key) :
    declaresAnother request tenant = false ↔ tenant.tenantId = some key := by
  rw [declaresAnother, hdeclared, Option.any_some, bne_eq_false_iff_eq, eq_comm]

/-- Where the guard stands in the fallback: what it refuses gets no provider, whatever the tenant has. -/
theorem chooseProvider_declaresAnother (h : declaresAnother request tenant = true) :
    chooseProvider w token (some tenant) request = .ok (.noProviders, none) := by
  unfold declaresAnother at h
  unfold chooseProvider
  dsimp only
  rw [h]
  split
  · rfl
  · split
    · rfl
    · rfl

/-- A tenant the middleware resolves is the one of the key, unless there is no key. -/
theorem resolveTenantOrReject_tenant {rt : Runtime} {getTenant getTenantByDomain : String → Option Tenant}
    {requestHost : Option String}
    (h : resolveTenantOrReject rt getTenant getTenantByDomain requestHost request = .tenant tenant)
    (hkey : requestTenantKey request = some key) : getTenant key = some tenant := by
  unfold resolveTenantOrReject at h
  rw [hkey] at h
  dsimp only at h
  cases hloaded : getTenant key with
  | none =>
    rw [hloaded] at h
    cases h
  | some loaded =>
    rw [hloaded] at h
    unfold admitTenant at h
    dsimp only at h
    split at h
    · cases h
    · split at h
      · cases h
      · cases h
        rfl

/-- So is the tenant that `authenticate` loads where there is no context. -/
theorem loadTenant_tenant {tenantId : String} (h : loadTenant w request none = some (tenantId, tenant)) :
    requestTenantKey request = some tenantId ∧ w.getTenant tenantId = some tenant := by
  simp only [loadTenant, Option.bind_eq_bind, Option.bind_eq_some_iff, pure, Option.some.injEq, Prod.mk.injEq] at h
  obtain ⟨key, hkey, loaded, hloaded, rfl, rfl⟩ := h
  exact ⟨hkey, hloaded⟩

/-- The key that is looked up is the tenant the request declares, and the guard lets the tenant it loads pass, for
exactly the requests whose keys agree and load a tenant with that `TenantId`. -/
theorem declared_read_alike_iff (getTenant : String → Option Tenant) (request : Request) :
    (requestTenantKey request = tenantDeclaredOnRequest request ∧
      ∀ key tenant, requestTenantKey request = some key → getTenant key = some tenant →
        declaresAnother request tenant = false) ↔
    KeysAgree request ∧ ∀ key tenant, requestTenantKey request = some key → getTenant key = some tenant →
      tenant.tenantId = some key := by
  rw [← requestTenantKey_declared_iff]
  constructor
  · intro h
    obtain ⟨hsame, hguard⟩ := h
    refine ⟨hsame, fun key tenant hkey hloaded => ?_⟩
    exact (declaresAnother_eq (hsame.symm.trans hkey)).mp (hguard key tenant hkey hloaded)
  · intro h
    obtain ⟨hsame, hnamed⟩ := h
    refine ⟨hsame, fun key tenant hkey hloaded => ?_⟩
    exact (declaresAnother_eq (hsame.symm.trans hkey)).mpr (hnamed key tenant hkey hloaded)

end Declared

def acmeDocument : TenantDocument where
  id := "65f0c2"
  tenant := { tenantId := some "acme", isThirdPartyJwtEnabled := true }

/-- Two parameters of a query that differ are read in two orders; and a tenant that its `_id` loads is refused. -/
theorem declared_read_apart :
    (requestTenantKey { query := [("tenant_id", "acme"), ("x-blocks-key", "globex")] } = some "globex" ∧
      tenantDeclaredOnRequest { query := [("tenant_id", "acme"), ("x-blocks-key", "globex")] } = some "acme") ∧
    (requestTenantKey { headers := [("x-blocks-key", "65f0c2")] } = some "65f0c2" ∧
      loadTenantFromDb [acmeDocument] "65f0c2" = some acmeDocument.tenant ∧
      declaresAnother { headers := [("x-blocks-key", "65f0c2")] } acmeDocument.tenant = true) := by
  refine ⟨⟨rfl, rfl⟩, rfl, rfl, rfl⟩

end BlocksGenesis.Middlewares
