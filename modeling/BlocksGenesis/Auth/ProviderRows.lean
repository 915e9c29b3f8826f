import BlocksGenesis.Auth.ProviderStore
import BlocksGenesis.Mongo.Bson
import BlocksGenesis.Python.Lower
import BlocksGenesis.Python.Raises

/-! The rows of a tenant's providers, from the documents to what `get_active` answers. -/

namespace BlocksGenesis.Auth.ProviderRows
open Python Mongo ProviderStore

/-! ## One row -/

/-- The members of the enumeration by the number they are stored as. -/
def JwtSigningAlgorithm.ofNumber : Int → Option JwtSigningAlgorithm
  | 0 => some .unspecified
  | 1 => some .rs256 | 2 => some .rs384 | 3 => some .rs512
  | 4 => some .es256 | 5 => some .es384 | 6 => some .es512
  | 7 => some .ps256 | 8 => some .ps384 | 9 => some .ps512
  | 10 => some .hs256 | 11 => some .hs384 | 12 => some .hs512
  | _ => none

/-- `JwtSigningAlgorithm(item)`, which goes by equality: a bool or a float may equal a number. -/
def signingAlgorithm : Bson → Option JwtSigningAlgorithm
  | .int n => JwtSigningAlgorithm.ofNumber n
  | .bool b => JwtSigningAlgorithm.ofNumber (if b then 1 else 0)
  | .float x =>
    if x.zero then some .unspecified
    else (x.whole.filter (fun n => x.repr == toString n ++ ".0")).bind JwtSigningAlgorithm.ofNumber
  | _ => none

/-- A number this build does not know is dropped rather than raising. -/
def dropUnknownAlgorithms (value : Bson) : Except Exc (List JwtSigningAlgorithm) :=
  if !value.truthy then .ok [] else (List.filterMap signingAlgorithm) <$> value.items

/-- An organization by its name, which is not blank. -/
abbrev Organization := { name : String // blank name = false }

def defaultOrganizationId : Organization := ⟨defaultOrganization, rfl⟩

theorem blank_strip {s : String} (h : blank s = false) : blank (strip s) = false := by
  unfold blank at h ⊢
  rw [strip_strip, h]

/-- Blank is normalised away on assignment, so nothing that reads this has to guard against it. -/
def normaliseOrganization (rt : Mongo.Runtime) : Bson → Organization
  | .null => defaultOrganizationId
  | value =>
    if h : blank (value.toStr rt) = false then ⟨strip (value.toStr rt), blank_strip h⟩
    else defaultOrganizationId

def claimsMapping : Bson → Except Exc ThirdPartyClaimsMapping
  | .obj fields => do
    let row : Row := fields
    return {
      userId := ← row.field "UserId" "user_id" "" readText
      email := ← row.field "Email" "email" "" readText
      userName := ← row.field "UserName" "user_name" "" readText
      name := ← row.field "Name" "name" "" readText
      roles := ← row.field "Roles" "roles" "" readText }
  | _ => .error (.validation "ClaimsMapping")

/-- What `BaseEntity` reads of a row. Nothing here uses its fields, but each has to parse. -/
def checkEntity (rt : Mongo.Runtime) (row : Row) : Except Exc Unit := do
  let _ ← row.required "_id" "id" readText
  let _ ← row.field "CreatedDate" "created_date" none (fun field v => some <$> readDate rt field v)
  let _ ← row.field "LastUpdatedDate" "last_updated_date" none (fun field v => some <$> readDate rt field v)
  let _ ← row.field "CreatedBy" "created_by" none (fun field => optional (readText field))
  let _ ← row.field "Language" "language" none (fun field => optional (readText field))
  let _ ← row.field "LastUpdatedBy" "last_updated_by" none (fun field => optional (readText field))
  let _ ← row.field "OrganizationIds" "organization_ids" [] readTexts
  let _ ← row.field "Tags" "tags" [] readTexts

/-- The fields of a provider that only describe it. -/
def checkDescription (rt : Mongo.Runtime) (row : Row) : Except Exc Unit := do
  let _ ← row.field "ProviderName" "provider_name" "" readText
  let _ ← row.field "CertificateSubject" "certificate_subject" "" readText
  let _ ← row.field "CertificateThumbprint" "certificate_thumbprint" "" readText
  let _ ← row.field "CertificateNotAfter" "certificate_not_after" none (fun field => optional (readDate rt field))
  let _ ← row.field "CookieKey" "cookie_key" "" readText

/-- `ThirdPartyJwtProvider(**row)`. -/
def readProvider (rt : Mongo.Runtime) (row : Row) : Except Exc ThirdPartyJwtProvider := do
  checkEntity rt row
  checkDescription rt row
  let organization ← row.field "DefaultOrganizationId" "default_organization_id" defaultOrganizationId
    (fun _ value => .ok (normaliseOrganization rt value))
  return {
    tenantId := ← row.field "TenantId" "tenant_id" "" readText
    key := ← row.field "Key" "key" "" readText
    isActive := ← row.field "IsActive" "is_active" false (readFlag rt)
    issuer := ← row.field "Issuer" "issuer" "" readText
    audiences := ← row.field "Audiences" "audiences" [] readTexts
    algorithms := ← row.field "Algorithms" "algorithms" [] (fun _ => dropUnknownAlgorithms)
    jwksUrl := ← row.field "JwksUrl" "jwks_url" "" readText
    publicCertificatePath := ← row.field "PublicCertificatePath" "public_certificate_path" "" readText
    publicCertificatePasswordCipher :=
      ← row.field "PublicCertificatePasswordCipher" "public_certificate_password_cipher" "" readText
    signingSecretCipher := ← row.field "SigningSecretCipher" "signing_secret_cipher" "" readText
    defaultOrganizationId := organization.val
    claimsMapping := ← row.field "ClaimsMapping" "claims_mapping" {} (fun _ => claimsMapping)
    organizationNamed := organization.property }

def Parses (rt : Mongo.Runtime) (row : Row) : Prop := ∃ provider, readProvider rt row = .ok provider

/-- The providers of the rows that can be parsed, in order. -/
def parsed (rt : Mongo.Runtime) (rows : List Row) : Providers :=
  rows.filterMap (fun row => (readProvider rt row).toOption)

/-! ## All rows of a tenant -/

/-- One `try` around the query and the whole list. -/
def load (rt : Mongo.Runtime) (query : Except Exc (List Row)) : Providers :=
  match query >>= List.mapM (readProvider rt) with
  | .ok providers => providers
  | .error _ => []

section Load
variable {rt : Mongo.Runtime} {rows before after : List Row} {bad row : Row}

theorem load_parsed (h : ∀ row ∈ rows, Parses rt row) : load rt (.ok rows) = parsed rt rows := by
  have hall : rows.mapM (readProvider rt) = .ok (parsed rt rows) := mapM_returns h
  unfold load
  rw [show (Except.ok rows >>= List.mapM (readProvider rt)) = .ok (parsed rt rows) from hall]

/-- One row that does not parse leaves none. -/
theorem load_bad (hm : bad ∈ rows) (hbad : ¬ Parses rt bad) : load rt (.ok rows) = [] := by
  obtain ⟨e, he⟩ := mapM_raises hm hbad
  unfold load
  rw [show (Except.ok rows >>= List.mapM (readProvider rt)) = .error e from he]

theorem not_parses_iff : ¬ Parses rt row ↔ (readProvider rt row).toOption = none := by
  unfold Parses
  cases readProvider rt row with
  | ok provider => simp [Except.toOption]
  | error e => simp [Except.toOption]

theorem parsed_eq_nil_iff : parsed rt rows = [] ↔ ∀ row ∈ rows, ¬ Parses rt row := by
  unfold parsed
  rw [List.filterMap_eq_nil_iff]
  simp only [not_parses_iff]

end Load

/-! ## What a call is answered -/

/-- A call that finds nothing cached, and starts the load that answers it. -/
def coldCall (tenantId : String) (providers : Providers) (now : Int) : List Event :=
  [.get tenantId now, .enterLock 0, .begin 0, .answer 0 providers, .settle 0, .resume 0, .finish 0 now]

/-- What a call was answered, if it has returned a load. -/
def answered (s : State) (call : Nat) : Option Providers :=
  match (s.calls[call]?).map Asyncio.SharedLoad.Call.progress with
  | some (.returned (.loaded _ loaded)) => some loaded.value
  | _ => none

/-- What `get_active` returns for a tenant whose documents the database gives. -/
def getActiveCold (rt : Mongo.Runtime) (tenantId : String) (now : Int) (rows : List Row) : Option Providers :=
  ((coldCall tenantId (load rt (.ok rows)) now).foldlM (Asyncio.SharedLoad.step ProviderStore.getActive)
    { cache := [] }).bind (answered · 0)

theorem getActiveCold_eq (rt : Mongo.Runtime) {tenantId : String} (now : Int) (rows : List Row)
    (h : blank tenantId = false) : getActiveCold rt tenantId now rows = some (load rt (.ok rows)) := by
  have hrefuse : ProviderStore.getActive.refuse tenantId = none := by
    simp only [ProviderStore.getActive, h]
    rfl
  have hget : Asyncio.SharedLoad.get ProviderStore.getActive { cache := [] } tenantId now =
      { cache := [], calls := [⟨tenantId, 0, false, .locking⟩] } := by
    unfold Asyncio.SharedLoad.get
    rw [hrefuse]
    rfl
  have hstarted : Asyncio.SharedLoad.step ProviderStore.getActive { cache := [] } (.get tenantId now) =
      some { cache := [], calls := [⟨tenantId, 0, false, .locking⟩], clock := 1 } := by
    change some { Asyncio.SharedLoad.get ProviderStore.getActive { cache := [] } tenantId now with clock := 1 } = _
    rw [hget]
  unfold getActiveCold coldCall
  rw [List.foldlM_cons, hstarted]
  rfl

/-- One bad row does not lock out the others: what is returned is what parses, the same as without
the row. -/
structure Contained (rt : Mongo.Runtime) (tenantId : String) (now : Int) (rows : List Row) : Prop where
  exact : getActiveCold rt tenantId now rows = some (parsed rt rows)
  apart : ∀ before bad after, rows = before ++ bad :: after → ¬ Parses rt bad →
    getActiveCold rt tenantId now rows = getActiveCold rt tenantId now (before ++ after)

/-- The rows are read one by one as well as together exactly when they all parse or none does. -/
theorem bad_row_contained_iff (rt : Mongo.Runtime) {tenantId : String} (now : Int) (rows : List Row)
    (h : blank tenantId = false) :
    Contained rt tenantId now rows ↔ (∀ row ∈ rows, Parses rt row) ∨ ∀ row ∈ rows, ¬ Parses rt row := by
  constructor
  · intro hc
    by_cases hall : ∀ row ∈ rows, Parses rt row
    · exact .inl hall
    · push Not at hall
      obtain ⟨bad, hm, hbad⟩ := hall
      have hexact := hc.exact
      rw [getActiveCold_eq rt now rows h, load_bad hm hbad] at hexact
      exact .inr (parsed_eq_nil_iff.mp (Option.some.inj hexact).symm)
  · intro hcond
    rcases hcond with hall | hnone
    · constructor
      · rw [getActiveCold_eq rt now rows h, load_parsed hall]
      · intro before bad after he hbad
        exact absurd (hall bad (by simp [he])) hbad
    · have hload : ∀ part : List Row, (∀ row ∈ part, row ∈ rows) →
          getActiveCold rt tenantId now part = some [] := by
        intro part hpart
        rw [getActiveCold_eq rt now part h]
        cases part with
        | nil => rfl
        | cons first part =>
          have hfirst := hpart first List.mem_cons_self
          rw [load_bad List.mem_cons_self (hnone first hfirst)]
      constructor
      · rw [hload rows (fun row hm => hm), parsed_eq_nil_iff.mpr hnone]
      · intro before bad after he _
        rw [hload rows (fun row hm => hm), hload (before ++ after)]
        intro row hm
        rw [he]
        rcases List.mem_append.mp hm with hm | hm
        · exact List.mem_append_left _ hm
        · exact List.mem_append_right _ (List.mem_cons_of_mem _ hm)

def plainRuntime : Mongo.Runtime := { asciiRuntime with print := fun _ => "" }

def auth0Row : Row :=
  [("_id", .str "p1"), ("TenantId", .str "acme"), ("Key", .str "auth0-main"), ("IsActive", .bool true),
    ("Issuer", .str "https://acme.auth0.test/"), ("Algorithms", .arr [.int 1, .int 99])]

/-- A row whose issuer was stored as null. -/
def nullIssuerRow : Row :=
  [("_id", .str "p2"), ("TenantId", .str "acme"), ("Key", .str "okta-hr"), ("IsActive", .bool true), ("Issuer", .null)]

theorem bad_row_contained_iff_acme :
    Contained plainRuntime "acme" 0 [auth0Row] ↔
      (∀ row ∈ [auth0Row], Parses plainRuntime row) ∨ ∀ row ∈ [auth0Row], ¬ Parses plainRuntime row :=
  bad_row_contained_iff plainRuntime 0 [auth0Row] (by decide)

/-- The row with the null issuer locks out the other provider of the tenant. -/
theorem null_issuer_locks_out :
    ¬ ∀ (rt : Mongo.Runtime) (tenantId : String) (now : Int) (rows : List Row), blank tenantId = false →
      Contained rt tenantId now rows := by
  intro h
  have hexact := (h plainRuntime "acme" 0 [auth0Row, nullIssuerRow] (by decide)).exact
  have hbad : ¬ Parses plainRuntime nullIssuerRow := by
    intro hp
    obtain ⟨provider, hp⟩ := hp
    cases hp
  rw [getActiveCold_eq _ _ _ (by decide), load_bad (List.mem_cons_of_mem _ List.mem_cons_self) hbad] at hexact
  exact parsed_eq_nil_iff.mp (Option.some.inj hexact).symm auth0Row List.mem_cons_self ⟨_, rfl⟩

end BlocksGenesis.Auth.ProviderRows
