import BlocksGenesis.Python.Value

namespace BlocksGenesis.Auth
open Python

structure BlocksContext where
  tenantId : String := ""
  roles : List String := []
  userId : String := ""
  expireOn : Option DateTime := none
  requestUri : String := ""
  oauthToken : String := ""
  organizationId : String := ""
  isAuthenticated : Bool := false
  email : String := ""
  permissions : List String := []
  userName : String := ""
  phoneNumber : String := ""
  displayName : String := ""
  originalTenantId : String := ""
  applicationDomain : String := ""
  impersonated : Bool := false
  impersonationSessionId : String := ""
  clientId : String := ""
  sessionId : String := ""
deriving DecidableEq, Repr

namespace BlocksContext

/-! The claim names, as the class constants spell them. -/

abbrev issuerClaim := "iss"
abbrev audiencesClaim := "aud"
abbrev expireOnClaim := "exp"
abbrev subjectClaim := "sub"
abbrev tenantIdClaim := "tenant_id"
abbrev rolesClaim := "roles"
abbrev userIdClaim := "user_id"
abbrev requestUriClaim := "request_uri"
abbrev tokenClaim := "oauth"
abbrev permissionClaim := "permissions"
abbrev organizationIdClaim := "org_id"
abbrev emailClaim := "email"
abbrev userNameClaim := "user_name"
abbrev displayNameClaim := "name"
abbrev phoneNumberClaim := "phone"
abbrev impersonatedClaim := "impersonated"
abbrev impersonationSessionIdClaim := "impersonation_session_id"
abbrev originalTenantIdClaim := "original_tenant_id"
abbrev clientIdClaim := "client_id"
abbrev sessionIdClaim := "sid"

def strField (values : Fields) (name : String) : Except Exc String :=
  match values.lookup name with
  | none => .ok ""
  | some v => readStr name v

def listField (values : Fields) (name : String) : Except Exc (List String) :=
  match values.lookup name with
  | none => .ok []
  | some v => readStrList name v

def boolField (rt : Runtime) (values : Fields) (name : String) : Except Exc Bool :=
  match values.lookup name with
  | none => .ok false
  | some v => readBool rt name v

/-- `BlocksContext(**values)`: a field that is not given keeps its default, one that does
not parse is a validation error. The expiry is already a datetime here. -/
def validate (rt : Runtime) (values : Fields) (expireOn : Option DateTime) :
    Except Exc BlocksContext := do
  return {
    tenantId := ← strField values "tenant_id"
    roles := ← listField values "roles"
    userId := ← strField values "user_id"
    expireOn
    requestUri := ← strField values "request_uri"
    oauthToken := ← strField values "oauth_token"
    organizationId := ← strField values "organization_id"
    isAuthenticated := ← boolField rt values "is_authenticated"
    email := ← strField values "email"
    permissions := ← listField values "permissions"
    userName := ← strField values "user_name"
    phoneNumber := ← strField values "phone_number"
    displayName := ← strField values "display_name"
    originalTenantId := ← strField values "original_tenant_id"
    applicationDomain := ← strField values "application_domain"
    impersonated := ← boolField rt values "impersonated"
    impersonationSessionId := ← strField values "impersonation_session_id"
    clientId := ← strField values "client_id"
    sessionId := ← strField values "session_id" }

/-- Each field of a built context was read under its own name. -/
structure ReadFrom (rt : Runtime) (values : Fields) (expireOn : Option DateTime) (c : BlocksContext) :
    Prop where
  tenantId : strField values "tenant_id" = .ok c.tenantId
  roles : listField values "roles" = .ok c.roles
  userId : strField values "user_id" = .ok c.userId
  expireOn : c.expireOn = expireOn
  requestUri : strField values "request_uri" = .ok c.requestUri
  oauthToken : strField values "oauth_token" = .ok c.oauthToken
  organizationId : strField values "organization_id" = .ok c.organizationId
  isAuthenticated : boolField rt values "is_authenticated" = .ok c.isAuthenticated
  email : strField values "email" = .ok c.email
  permissions : listField values "permissions" = .ok c.permissions
  userName : strField values "user_name" = .ok c.userName
  phoneNumber : strField values "phone_number" = .ok c.phoneNumber
  displayName : strField values "display_name" = .ok c.displayName
  originalTenantId : strField values "original_tenant_id" = .ok c.originalTenantId
  applicationDomain : strField values "application_domain" = .ok c.applicationDomain
  impersonated : boolField rt values "impersonated" = .ok c.impersonated
  impersonationSessionId : strField values "impersonation_session_id" = .ok c.impersonationSessionId
  clientId : strField values "client_id" = .ok c.clientId
  sessionId : strField values "session_id" = .ok c.sessionId

theorem validate_ok {rt : Runtime} {values : Fields} {expireOn : Option DateTime}
    {c : BlocksContext} (h : validate rt values expireOn = .ok c) : ReadFrom rt values expireOn c := by
  simp only [validate, bind_ok_iff, pure_ok_iff] at h
  obtain ⟨_, h1, _, h2, _, h3, _, h4, _, h5, _, h6, _, h7, _, h8, _, h9, _, h10, _, h11, _, h12,
    _, h13, _, h14, _, h15, _, h16, _, h17, _, h18, rfl⟩ := h
  exact ⟨h1, h2, h3, rfl, h4, h5, h6, h7, h8, h9, h10, h11, h12, h13, h14, h15, h16, h17, h18⟩

end BlocksContext

open BlocksContext

/-- Widest organization scope there is: consumers read it as tenant-wide. -/
def defaultOrganization : String := "default"

/-- Claims an external identity provider must never be able to set. -/
def reservedClaims : List String :=
  [tenantIdClaim, originalTenantIdClaim, userIdClaim, userNameClaim, displayNameClaim, emailClaim,
    permissionClaim, organizationIdClaim, impersonatedClaim, impersonationSessionIdClaim,
    clientIdClaim, rolesClaim]

def stripReservedClaims (claims : Fields) : Fields :=
  claims.filter (fun claim => !reservedClaims.contains claim.1)

/-- Wire name and context field of everything a message payload carries. -/
def transportFields : List (String × String) :=
  [("TenantId", "tenant_id"), ("Roles", "roles"), ("UserId", "user_id"),
    ("IsAuthenticated", "is_authenticated"), ("RequestUri", "request_uri"),
    ("OrganizationId", "organization_id"), ("ExpireOn", "expire_on"), ("Email", "email"),
    ("Permissions", "permissions"), ("UserName", "user_name"), ("PhoneNumber", "phone_number"),
    ("DisplayName", "display_name"), ("OauthToken", "oauth_token"),
    ("OriginalTenantId", "original_tenant_id"), ("ApplicationDomain", "application_domain"),
    ("Impersonated", "impersonated"), ("ClientId", "client_id"), ("SessionId", "session_id")]

/-- `payload[name] if name in payload`. A list or a string also answers `in`, but neither
can be indexed by a name; a number answers neither. -/
def payloadItem (payload : Json) (name : String) : Except Exc (Option Json) :=
  match payload with
  | .obj fields => .ok (fields.lookup name)
  | .arr items =>
    if items.any (fun item => item.inStrings [name]) then
      .error (.typeError "list indices must be integers or slices, not str")
    else .ok none
  | .str s =>
    if isIn name s then .error (.typeError "string indices must be integers, not 'str'")
    else .ok none
  | _ => .error (.typeError "argument is not iterable")

/-- The value one context field takes from a payload: .NET's name first, snake_case too. -/
def transportValue (payload : Json) (wireName field : String) : Except Exc (Option Json) := do
  match ← payloadItem payload wireName with
  | some v => return some v
  | none => payloadItem payload field

/-- The keyword arguments a payload gives, `None` values left out. -/
def transportValues (payload : Json) : List (String × String) → Except Exc Fields
  | [] => .ok []
  | (wireName, field) :: rest => do
    let value ← transportValue payload wireName field
    let values ← transportValues payload rest
    match value with
    | none | some .null => return values
    | some v => return (field, v) :: values

def transportExpiry (rt : Runtime) (values : Fields) : Except Exc (Option DateTime) :=
  match values.lookup "expire_on" with
  | none => .ok none
  | some v => some <$> rt.readDateTime v

def fromTransport (rt : Runtime) (payload : Json) : Except Exc (Option BlocksContext) := do
  if !payload.truthy then
    return none
  let values ← transportValues payload transportFields
  let expireOn ← transportExpiry rt values
  return some (← validate rt values expireOn)

/-- Build the context for a validated external token. Takes no claims: every value is from
the tenant record or the provider's own mapping. -/
def createThirdPartyContext (rt : Runtime) (tenantId : Option String) (subject : Json)
    (organizationId : String) (roles : List String) (email userName displayName : Json)
    (applicationDomain requestUri : String) : Except Exc BlocksContext :=
  match tenantId with
  | none => .error (.valueError "A third-party context needs the tenant from the tenant record.")
  | some tenant =>
    if blank tenant then
      .error (.valueError "A third-party context needs the tenant from the tenant record.")
    else if !subject.truthy then
      .error (.valueError "The UserId mapping resolved to nothing, so this token identifies nobody.")
    else match subject with
      | .str name =>
        if blank name then
          .error (.valueError "The UserId mapping resolved to nothing, so this token identifies nobody.")
        else validate rt
          [("tenant_id", .str tenant), ("original_tenant_id", .str tenant),
            ("user_id", .str (name ++ "_external")), ("roles", .arr (roles.map .str)),
            ("permissions", .arr []),
            ("organization_id",
              .str (if organizationId.isEmpty then defaultOrganization else organizationId)),
            ("is_authenticated", .bool true), ("email", email), ("user_name", userName),
            ("display_name", displayName), ("phone_number", .str ""), ("oauth_token", .str ""),
            ("request_uri", .str requestUri), ("application_domain", .str applicationDomain)]
          none
      | _ => .error (.attributeError "object has no attribute 'strip'")

def normalizeDomain (rt : Runtime) (url : String) : String :=
  if blank url then ""
  else
    let raw := strip url
    let candidate := if isIn "://" raw then raw else "//" ++ raw
    let fallback := rt.lower (strip (before ':' (before '/' (remove "http://" (remove "https://" raw)))))
    match rt.hostname candidate with
    | .ok (some host) => if host.isEmpty then fallback else rt.lower (strip host)
    | _ => fallback

def isLocalhostHost (rt : Runtime) (host : String) : Bool :=
  ["localhost", "127.0.0.1", "::1"].contains (normalizeDomain rt host)

def claimList (claims : Fields) (name : String) : Json :=
  match claims.getD name (.arr []) with
  | .str s => .arr [.str s]
  | .arr xs => .arr xs
  | _ => .arr []

/-- A date that does not parse is dropped; one that is out of range is not caught. -/
def orNone : Except Exc DateTime → Except Exc (Option DateTime)
  | .ok d => .ok (some d)
  | .error e =>
    match e with
    | .typeError _ => .ok none
    | _ => if e.isValueError then .ok none else .error e

def claimExpiry (rt : Runtime) (claims : Fields) : Except Exc (Option DateTime) :=
  let exp := claims.get expireOnClaim
  if !exp.truthy then .ok none
  else match exp with
    | .int _ | .float _ | .bool _ => orNone (rt.fromTimestamp exp)
    | .str s => orNone (rt.fromIsoFormat (replaceChar 'Z' "+00:00" s))
    | _ => .ok none

/-- The original tenant of a Blocks token: the argument when there is one, and only then
the claims. -/
def claimOriginalTenant (claims : Fields) (originalTenantId : String) : Json :=
  if !originalTenantId.isEmpty then .str originalTenantId
  else (claims.getD originalTenantIdClaim (.str "")).orElse (claims.getD tenantIdClaim (.str ""))

def createFromJwtClaims (rt : Runtime) (claims : Fields) (originalTenantId applicationDomain : String) :
    Except Exc BlocksContext := do
  let expireOn ← claimExpiry rt claims
  validate rt
    [("tenant_id", claims.getD tenantIdClaim (.str "")), ("roles", claimList claims rolesClaim),
      ("user_id", claims.getD userIdClaim (.str "")), ("is_authenticated", .bool true),
      ("request_uri", claims.getD requestUriClaim (.str "")),
      ("organization_id", claims.getD organizationIdClaim (.str "")),
      ("email", claims.getD emailClaim (.str "")),
      ("permissions", claimList claims permissionClaim),
      ("user_name", claims.getD userNameClaim (.str "")),
      ("phone_number", claims.getD phoneNumberClaim (.str "")),
      ("display_name", claims.getD displayNameClaim (.str "")),
      ("oauth_token", claims.getD tokenClaim (.str "")),
      ("original_tenant_id", claimOriginalTenant claims originalTenantId),
      ("application_domain", .str applicationDomain),
      ("impersonated", claims.getD impersonatedClaim (.bool false)),
      ("impersonation_session_id", claims.getD impersonationSessionIdClaim (.str "")),
      ("client_id", claims.getD clientIdClaim (.str "")),
      ("session_id", claims.getD sessionIdClaim (.str ""))]
    expireOn

/-! ## What the constructors give -/

theorem readStr_ok {field : String} {v : Json} {s : String} (h : readStr field v = .ok s) :
    v = .str s := by
  cases v <;> simp [readStr] at h
  rw [h]

theorem strField_ok {values : Fields} {name x : String} {v : Json} (h : strField values name = .ok x)
    (hv : values.lookup name = some v) : v = .str x := by
  rw [strField, hv] at h
  exact readStr_ok h

theorem strField_given {values : Fields} {name s x : String} (hv : values.lookup name = some (.str s))
    (h : strField values name = .ok x) : x = s :=
  (Json.str.inj (strField_ok h hv)).symm

theorem strField_absent {values : Fields} {name x : String} (hv : values.lookup name = none)
    (h : strField values name = .ok x) : x = "" := by
  simp only [strField, hv, Except.ok.injEq] at h
  exact h.symm

theorem createFromJwtClaims_tenant {rt : Runtime} {claims : Fields} {original domain : String}
    {c : BlocksContext} (h : createFromJwtClaims rt claims original domain = .ok c) :
    claims.getD tenantIdClaim (.str "") = .str c.tenantId := by
  obtain ⟨_, _, h⟩ := bind_ok_iff.mp h
  exact strField_ok (validate_ok h).tenantId rfl

theorem createFromJwtClaims_original {rt : Runtime} {claims : Fields} {original domain : String}
    {c : BlocksContext} (h : createFromJwtClaims rt claims original domain = .ok c)
    (ho : original ≠ "") : c.originalTenantId = original := by
  obtain ⟨_, _, h⟩ := bind_ok_iff.mp h
  have hv : claimOriginalTenant claims original = .str c.originalTenantId :=
    strField_ok (validate_ok h).originalTenantId rfl
  simpa [claimOriginalTenant, ho] using hv.symm

theorem boolField_ok {rt : Runtime} {values : Fields} {name : String} {x b : Bool}
    (h : boolField rt values name = .ok x) (hv : values.lookup name = some (.bool b)) : x = b := by
  rw [boolField, hv] at h
  exact (Except.ok.inj h).symm

theorem createFromJwtClaims_impersonated {rt : Runtime} {claims : Fields} {original domain : String}
    {c : BlocksContext} (h : createFromJwtClaims rt claims original domain = .ok c) (b : Bool)
    (hb : claims.getD impersonatedClaim (.bool false) = .bool b) : c.impersonated = b := by
  obtain ⟨_, _, h⟩ := bind_ok_iff.mp h
  apply boolField_ok (validate_ok h).impersonated
  rw [← hb]
  rfl

/-- The keyword arguments a payload gives are those of the wire table. -/
theorem transportValues_keys {payload : Json} {table : List (String × String)} {values : Fields}
    (h : transportValues payload table = .ok values) : ∀ v ∈ values, v.1 ∈ table.map Prod.snd := by
  induction table generalizing values with
  | nil =>
    cases h
    intro v hv
    cases hv
  | cons entry table ih =>
    obtain ⟨wireName, field⟩ := entry
    obtain ⟨value, _, h⟩ := bind_ok_iff.mp h
    obtain ⟨rest, hrest, h⟩ := bind_ok_iff.mp h
    have hrest := ih hrest
    intro v hv
    rw [List.map_cons]
    split at h
    · rw [← pure_ok_iff.mp h] at hv
      exact List.mem_cons_of_mem _ (hrest v hv)
    · rw [← pure_ok_iff.mp h] at hv
      exact List.mem_cons_of_mem _ (hrest v hv)
    · rw [← pure_ok_iff.mp h] at hv
      rcases List.mem_cons.mp hv with rfl | hv
      · exact List.mem_cons_self
      · exact List.mem_cons_of_mem _ (hrest v hv)

/-- No payload carries an impersonation session: the wire table has no name for it. -/
theorem fromTransport_session {rt : Runtime} {payload : Json} {c : BlocksContext}
    (h : fromTransport rt payload = .ok (some c)) : c.impersonationSessionId = "" := by
  unfold fromTransport at h
  split at h
  · cases h
  · obtain ⟨values, hvalues, h⟩ := bind_ok_iff.mp h
    obtain ⟨expireOn, _, h⟩ := bind_ok_iff.mp h
    obtain ⟨built, hbuilt, h⟩ := bind_ok_iff.mp h
    cases pure_ok_iff.mp h
    apply strField_absent _ (validate_ok hbuilt).impersonationSessionId
    rw [List.lookup_eq_none_iff]
    intro v hv
    have hkey := transportValues_keys hvalues v hv
    have hnone : "impersonation_session_id" ∉ transportFields.map Prod.snd := by decide
    rw [bne_iff_ne]
    intro hname
    rw [← hname] at hkey
    exact hnone hkey

/-- A third-party context takes its tenant from the record and its organization from the
provider, and holds nothing that was not handed over. -/
theorem createThirdPartyContext_ok {rt : Runtime} {tenantId : Option String} {subject : Json}
    {organizationId : String} {roles : List String} {email userName displayName : Json}
    {applicationDomain requestUri : String} {c : BlocksContext}
    (h : createThirdPartyContext rt tenantId subject organizationId roles email userName displayName
      applicationDomain requestUri = .ok c) :
    (tenantId = some c.tenantId ∧ blank c.tenantId = false ∧ c.originalTenantId = c.tenantId ∧
      c.organizationId = if organizationId.isEmpty then defaultOrganization else organizationId) ∧
    (∃ name, blank name = false ∧ c.userId = name ++ "_external") ∧ c.isAuthenticated = true ∧
    c.permissions = [] ∧ c.impersonated = false ∧ c.impersonationSessionId = "" ∧ c.clientId = "" ∧
    c.sessionId = "" ∧ c.phoneNumber = "" ∧ c.oauthToken = "" := by
  unfold createThirdPartyContext at h
  cases tenantId with
  | none => cases h
  | some tenant =>
    dsimp only at h
    split at h
    · cases h
    · rename_i htenant
      split at h
      · cases h
      · cases subject with
        | str name =>
          dsimp only at h
          split at h
          · cases h
          · rename_i hblank
            have hr := validate_ok h
            refine ⟨⟨?_, ?_, ?_, ?_⟩, ⟨name, eq_false_of_ne_true hblank, ?_⟩, ?_, ?_, ?_, ?_, ?_, ?_, ?_, ?_⟩
            · exact congrArg some (strField_given rfl hr.tenantId).symm
            · rw [strField_given rfl hr.tenantId]
              exact eq_false_of_ne_true htenant
            · rw [strField_given rfl hr.tenantId, strField_given rfl hr.originalTenantId]
            · exact strField_given rfl hr.organizationId
            · exact strField_given rfl hr.userId
            · exact (Except.ok.inj hr.isAuthenticated).symm
            · exact (Except.ok.inj hr.permissions).symm
            · exact (Except.ok.inj hr.impersonated).symm
            · exact strField_absent rfl hr.impersonationSessionId
            · exact strField_absent rfl hr.clientId
            · exact strField_absent rfl hr.sessionId
            · exact strField_given rfl hr.phoneNumber
            · exact strField_given rfl hr.oauthToken
        | _ => cases h

end BlocksGenesis.Auth
