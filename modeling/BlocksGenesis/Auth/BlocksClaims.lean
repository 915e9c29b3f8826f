import BlocksGenesis.Auth.Disabled
import BlocksGenesis.Auth.Transport
import BlocksGenesis.Python.Raises

/-! Which claims of a Blocks token fit the context they are read into, and what is raised of the others. -/

namespace BlocksGenesis.Auth
open Python BlocksContext

def isHttp : Exc → Prop
  | .http _ _ => True
  | _ => False

/-- It raises an `HTTPException` and nothing else. -/
abbrev HttpOnly {α : Type} (x : Except Exc α) : Prop := RaisesOnly isHttp x

abbrev NoHttp {α : Type} (x : Except Exc α) : Prop := RaisesOnly (fun e => ¬ isHttp e) x

theorem NoHttp.iff_ok {α : Type} {x : Except Exc α} (h : NoHttp x) : HttpOnly x ↔ ∃ a, x = .ok a :=
  RaisesOnly.iff_ok h (fun _ hno => hno)

theorem httpOnly_http {α : Type} (status : Nat) (detail : String) :
    HttpOnly (.error (.http status detail) : Except Exc α) :=
  raisesOnly_error.mpr trivial

theorem not_http_of_validation {e : Exc} (h : e.isValidation) : ¬ isHttp e := by
  intro hhttp
  cases e with
  | http status detail => exact h
  | _ => exact hhttp

/-- What is relied on of the libraries: `json`, `datetime` and PyJWT know of no `HTTPException`, and
`fromtimestamp` raises what the claims of a date may make it raise. -/
structure Libraries (w : World) : Prop where
  loads s : NoHttp (w.runtime.loads s)
  fromTimestamp {v e} : w.runtime.fromTimestamp v = .error e →
    e = .overflow ∨ (∃ message, e = .osError message) ∨ ∃ message, e = .valueError message
  fromIsoFormat {s e} : w.runtime.fromIsoFormat s = .error e → e.isValueError = true
  decode call now token : NoHttp (w.jwt.decode call now token)
  /-- The certificate of a tenant is found or it is not. -/
  getTenantCert tenant : ∃ bytes, w.getTenantCert tenant = .ok bytes

/-! ## What building a context raises -/

section Fields
variable {rt : Runtime} {field : String}

theorem strField_raises (values : Fields) : RaisesOnly Exc.isValidation (strField values field) := by
  unfold strField
  split
  · exact raisesOnly_ok _
  · exact readStr_raises _

theorem listField_raises (values : Fields) : RaisesOnly Exc.isValidation (listField values field) := by
  unfold listField
  split
  · exact raisesOnly_ok _
  · exact readStrList_raises _

theorem boolField_raises (values : Fields) : RaisesOnly Exc.isValidation (boolField rt values field) := by
  unfold boolField
  split
  · exact raisesOnly_ok _
  · exact readBool_raises rt _

theorem validate_raises (values : Fields) (expireOn : Option DateTime) :
    RaisesOnly Exc.isValidation (validate rt values expireOn) := by
  unfold validate
  repeat' first
    | exact raisesOnly_ok _
    | apply (strField_raises values).bind
    | apply (listField_raises values).bind
    | apply (boolField_raises values).bind
    | intro x

end Fields

/-! ## The claims of a Blocks token -/

def isNumber : Json → Bool
  | .int _ | .float _ | .bool _ => true
  | _ => false

/-- The claims that become a text of the context. -/
def textClaims : List String :=
  [tenantIdClaim, userIdClaim, requestUriClaim, organizationIdClaim, emailClaim, userNameClaim, phoneNumberClaim,
    displayNameClaim, tokenClaim, impersonationSessionIdClaim, clientIdClaim, sessionIdClaim]

/-- The claims fit the context: a date in range, texts where texts are read, texts in the lists, and an
impersonation that is a truth value. A text claim that is not there is fine, one that is null is not. -/
structure ClaimsFit (rt : Runtime) (claims : Fields) : Prop where
  expiry : (claims.get expireOnClaim).truthy = true → isNumber (claims.get expireOnClaim) = true →
    ∀ e, rt.fromTimestamp (claims.get expireOnClaim) = .error e → ∃ message, e = .valueError message
  texts : ∀ name ∈ textClaims, ∃ s, claims.getD name (.str "") = .str s
  lists : ∀ name ∈ [rolesClaim, permissionClaim], ∀ items, claims.getD name (.arr []) = .arr items →
    ∀ item ∈ items, ∃ s, item = .str s
  impersonated : ∃ b, readBool rt "impersonated" (claims.getD impersonatedClaim (.bool false)) = .ok b

section Claims
variable {rt : Runtime} {claims : Fields} {field : String}

theorem claimList_ok_iff {name : String} :
    (∃ xs, readStrList field (claimList claims name) = .ok xs) ↔
      ∀ items, claims.getD name (.arr []) = .arr items → ∀ item ∈ items, ∃ s, item = .str s := by
  unfold claimList
  cases claims.getD name (.arr []) with
  | str s => simp [readStrList, readStrings_ok_iff]
  | arr items => simp [readStrList, readStrings_ok_iff]
  | null | bool | int | float | obj => simp [readStrList, readStrings]

/-- The keyword arguments of a Blocks token's context. -/
def blocksValues (claims : Fields) (originalTenantId applicationDomain : String) : Fields :=
  [("tenant_id", claims.getD tenantIdClaim (.str "")), ("roles", claimList claims rolesClaim),
    ("user_id", claims.getD userIdClaim (.str "")), ("is_authenticated", .bool true),
    ("request_uri", claims.getD requestUriClaim (.str "")),
    ("organization_id", claims.getD organizationIdClaim (.str "")),
    ("email", claims.getD emailClaim (.str "")),
    ("permissions", claimList claims permissionClaim),
    ("user_name", claims.getD userNameClaim (.str "")),
    ("phone_number", claims.getD phoneNumberClaim (.str "")),
    ("display_name", claims.getD displayNameClaim (.str "")),
    ("oauth_token", claims.getD tokenClaim (.str "")),
    ("original_tenant_id", claimOriginalTenant claims originalTenantId),
    ("application_domain", .str applicationDomain),
    ("impersonated", claims.getD impersonatedClaim (.bool false)),
    ("impersonation_session_id", claims.getD impersonationSessionIdClaim (.str "")),
    ("client_id", claims.getD clientIdClaim (.str "")),
    ("session_id", claims.getD sessionIdClaim (.str ""))]

theorem validate_blocks_iff {originalTenantId : String} (h : originalTenantId ≠ "") (domain : String)
    (expireOn : Option DateTime) :
    (∃ c, validate rt (blocksValues claims originalTenantId domain) expireOn = .ok c) ↔
      (∀ name ∈ textClaims, ∃ s, claims.getD name (.str "") = .str s) ∧
        (∀ name ∈ [rolesClaim, permissionClaim], ∀ items, claims.getD name (.arr []) = .arr items →
          ∀ item ∈ items, ∃ s, item = .str s) ∧
        ∃ b, readBool rt "impersonated" (claims.getD impersonatedClaim (.bool false)) = .ok b := by
  simp only [textClaims, List.forall_mem_cons]
  constructor
  · intro hsome
    obtain ⟨c, hc⟩ := hsome
    have hr := validate_ok hc
    have htext : ∀ {field name s : String}, readStr field (claims.getD name (.str "")) = .ok s →
        ∃ s, claims.getD name (.str "") = .str s := fun h => readStr_ok_iff.mp ⟨_, h⟩
    exact ⟨⟨htext hr.tenantId, htext hr.userId, htext hr.requestUri, htext hr.organizationId, htext hr.email,
        htext hr.userName, htext hr.phoneNumber, htext hr.displayName, htext hr.oauthToken,
        htext hr.impersonationSessionId, htext hr.clientId, htext hr.sessionId, nofun⟩,
      ⟨claimList_ok_iff.mp ⟨_, hr.roles⟩, claimList_ok_iff.mp ⟨_, hr.permissions⟩, nofun⟩, _, hr.impersonated⟩
  · rintro ⟨⟨⟨tenantId, h1⟩, ⟨userId, h2⟩, ⟨requestUri, h3⟩, ⟨organizationId, h4⟩, ⟨email, h5⟩, ⟨userName, h6⟩,
      ⟨phoneNumber, h7⟩, ⟨displayName, h8⟩, ⟨oauthToken, h9⟩, ⟨session, h10⟩, ⟨clientId, h11⟩, ⟨sessionId, h12⟩,
      _⟩, ⟨hroles, hpermissions, _⟩, impersonated, himpersonated⟩
    obtain ⟨roles, hroles⟩ := claimList_ok_iff.mpr hroles
    obtain ⟨permissions, hpermissions⟩ := claimList_ok_iff.mpr hpermissions
    have htext : ∀ {field name s : String}, claims.getD name (.str "") = .str s →
        readStr field (claims.getD name (.str "")) = .ok s := by
      intro field name s hs
      rw [hs]
      rfl
    have horiginal : readStr "original_tenant_id" (claimOriginalTenant claims originalTenantId) =
        .ok originalTenantId := by
      simp [claimOriginalTenant, h, readStr]
    let c : BlocksContext := {
      tenantId, roles, userId, expireOn, requestUri, oauthToken, organizationId, isAuthenticated := true, email,
      permissions, userName, phoneNumber, displayName, originalTenantId, applicationDomain := domain, impersonated,
      impersonationSessionId := session, clientId, sessionId }
    refine ⟨c, validate_of_readFrom ?_⟩
    exact ⟨htext h1, hroles, htext h2, rfl, htext h3, htext h9, htext h4, rfl, htext h5, hpermissions, htext h6,
      htext h7, htext h8, horiginal, rfl, himpersonated, htext h10, htext h11, htext h12⟩

theorem orNone_error {r : Except Exc DateTime} {e : Exc} (h : orNone r = .error e) :
    r = .error e ∧ e.isValueError = false := by
  cases r with
  | ok date => cases h
  | error raised =>
    cases raised <;> cases h <;> exact ⟨rfl, rfl⟩

theorem orNone_value {r : Except Exc DateTime} (h : ∀ e, r = .error e → e.isValueError = true) :
    ∃ date, orNone r = .ok date := by
  cases hr : orNone r with
  | ok date => exact ⟨date, rfl⟩
  | error e =>
    obtain ⟨he, hvalue⟩ := orNone_error hr
    cases (h e he).symm.trans hvalue

end Claims

section Blocks
variable {w : World} {claims : Fields}

theorem noHttp_claimExpiry (hlib : Libraries w) : NoHttp (claimExpiry w.runtime claims) := by
  unfold claimExpiry
  have hdate : ∀ v, NoHttp (orNone (w.runtime.fromTimestamp v)) := by
    intro v e he
    obtain ⟨hraised, _⟩ := orNone_error he
    rcases hlib.fromTimestamp hraised with rfl | ⟨_, rfl⟩ | ⟨_, rfl⟩ <;> exact id
  have htext : ∀ s, NoHttp (orNone (w.runtime.fromIsoFormat s)) := by
    intro s e he
    obtain ⟨hraised, hvalue⟩ := orNone_error he
    cases (hlib.fromIsoFormat hraised).symm.trans hvalue
  dsimp only
  split
  · exact raisesOnly_ok _
  · split
    · exact hdate _
    · exact hdate _
    · exact hdate _
    · exact htext _
    · exact raisesOnly_ok _

/-- A date that is a number has to be one `fromtimestamp` can take. -/
theorem claimExpiry_ok_iff (hlib : Libraries w) :
    (∃ date, claimExpiry w.runtime claims = .ok date) ↔
      ((claims.get expireOnClaim).truthy = true → isNumber (claims.get expireOnClaim) = true →
        ∀ e, w.runtime.fromTimestamp (claims.get expireOnClaim) = .error e → ∃ message, e = .valueError message) := by
  unfold claimExpiry
  generalize claims.get expireOnClaim = exp
  have hdate : (∃ date, orNone (w.runtime.fromTimestamp exp) = .ok date) ↔
      ∀ e, w.runtime.fromTimestamp exp = .error e → ∃ message, e = .valueError message := by
    constructor
    · intro hsome e he
      obtain ⟨date, h⟩ := hsome
      rcases hlib.fromTimestamp he with rfl | ⟨_, rfl⟩ | hvalue
      · rw [he] at h
        cases h
      · rw [he] at h
        cases h
      · exact hvalue
    · intro h
      apply orNone_value
      intro e he
      obtain ⟨_, rfl⟩ := h e he
      rfl
  by_cases htruthy : exp.truthy = true
  · rw [if_neg (by simp [htruthy])]
    cases exp with
    | int n | float x | bool b => simpa [isNumber, htruthy] using hdate
    | str s => exact ⟨fun _ _ => nofun, fun _ => orNone_value (fun e he => hlib.fromIsoFormat he)⟩
    | null | arr items | obj fields => simp [isNumber]
  · rw [if_pos (by simp [htruthy])]
    exact ⟨fun _ ht => absurd ht htruthy, fun _ => ⟨none, rfl⟩⟩

theorem noHttp_createFromJwtClaims (hlib : Libraries w) (original domain : String) :
    NoHttp (createFromJwtClaims w.runtime claims original domain) :=
  (noHttp_claimExpiry hlib).bind (fun _ => (validate_raises _ _).mono (fun _ h => not_http_of_validation h))

theorem createFromJwtClaims_fit_iff (hlib : Libraries w) {original : String} (h : original ≠ "") (domain : String) :
    (∃ c, createFromJwtClaims w.runtime claims original domain = .ok c) ↔ ClaimsFit w.runtime claims := by
  have hbuild : ∀ c, createFromJwtClaims w.runtime claims original domain = .ok c ↔
      ∃ date, claimExpiry w.runtime claims = .ok date ∧
        validate w.runtime (blocksValues claims original domain) date = .ok c := fun _ => bind_ok_iff
  simp only [hbuild]
  constructor
  · intro hsome
    obtain ⟨c, date, hdate, hc⟩ := hsome
    obtain ⟨htexts, hlists, himpersonated⟩ := (validate_blocks_iff h domain date).mp ⟨c, hc⟩
    exact ⟨(claimExpiry_ok_iff hlib).mp ⟨date, hdate⟩, htexts, hlists, himpersonated⟩
  · intro hfit
    obtain ⟨date, hdate⟩ := (claimExpiry_ok_iff hlib).mpr hfit.expiry
    obtain ⟨c, hc⟩ := (validate_blocks_iff h domain date).mpr ⟨hfit.texts, hfit.lists, hfit.impersonated⟩
    exact ⟨c, date, hdate, hc⟩

end Blocks

end BlocksGenesis.Auth
