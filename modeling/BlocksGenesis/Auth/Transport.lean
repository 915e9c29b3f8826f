import BlocksGenesis.Auth.Context
import BlocksGenesis.Python.Dict

namespace BlocksGenesis.Auth
open Python BlocksContext

/-! ## What travels on a message -/

/-- Only the part after the first `@` is kept, up to the next one. -/
def maskedEmail (email : String) : String :=
  if isIn "@" email then "***@" ++ (split '@' email).getD 1 "" else "***"

/-- Only the last four characters are kept. -/
def maskedPhone (phone : String) : String :=
  if phone.isEmpty || phone == "***" then "***" else "***" ++ String.ofList (phone.toList.rtake 4)

/-- The context as it travels: email and phone number masked, no token, no impersonation session. -/
def createSanitizedForTransport (context : BlocksContext) : Fields :=
  [("TenantId", .str context.tenantId), ("Roles", .arr (context.roles.map .str)),
    ("UserId", .str context.userId), ("IsAuthenticated", .bool context.isAuthenticated),
    ("RequestUri", .str context.requestUri), ("OrganizationId", .str context.organizationId),
    ("ExpireOn", match context.expireOn with
      | some date => .str date.iso
      | none => .null),
    ("Email", .str (maskedEmail context.email)), ("Permissions", .arr (context.permissions.map .str)),
    ("UserName", .str context.userName), ("PhoneNumber", .str (maskedPhone context.phoneNumber)),
    ("DisplayName", .str context.displayName), ("OauthToken", .str ""),
    ("OriginalTenantId",
      .str (if context.originalTenantId.isEmpty then context.tenantId else context.originalTenantId)),
    ("ApplicationDomain", .str context.applicationDomain), ("Impersonated", .bool context.impersonated),
    ("ClientId", .str context.clientId), ("SessionId", .str context.sessionId)]

/-- What of a context is left at the other end. -/
def BlocksContext.sanitized (context : BlocksContext) : BlocksContext :=
  { context with
    email := maskedEmail context.email
    phoneNumber := maskedPhone context.phoneNumber
    oauthToken := ""
    impersonationSessionId := ""
    originalTenantId := if context.originalTenantId.isEmpty then context.tenantId else context.originalTenantId }

def wireNames : List String := transportFields.map Prod.fst

/-- The payload is what was sent, with any keys added that are no wire names. -/
def AddsKeys (sent payload : Fields) : Prop :=
  payload.filter (fun entry => wireNames.contains entry.1) = sent

theorem addsKeys_append {context : BlocksContext} {extra : Fields}
    (hextra : ∀ name ∈ extra.map Prod.fst, wireNames.contains name = false) :
    AddsKeys (createSanitizedForTransport context) (createSanitizedForTransport context ++ extra) := by
  unfold AddsKeys
  rw [List.filter_append, List.filter_eq_self.mpr, List.filter_eq_nil_iff.mpr, List.append_nil]
  · intro entry hm
    rw [hextra entry.1 (List.mem_map_of_mem hm)]
    exact Bool.false_ne_true
  · intro entry hm
    have hname : entry.1 ∈ (createSanitizedForTransport context).map Prod.fst := List.mem_map_of_mem hm
    exact List.contains_iff_mem.mpr hname

/-! ## The way back -/

theorem lookup_filter_key {fields : Fields} {p : String → Bool} {name : String} (hp : p name = true) :
    (fields.filter (fun entry => p entry.1)).lookup name = fields.lookup name := by
  induction fields with
  | nil => rfl
  | cons entry fields ih =>
    by_cases hname : name = entry.1
    · subst hname
      rw [List.filter_cons, if_pos hp, List.lookup_cons, List.lookup_cons, beq_self_eq_true]
    · rw [Dict.lookup_cons_of_ne _ hname, ← ih, List.filter_cons]
      split
      · rw [Dict.lookup_cons_of_ne _ hname]
      · rfl

theorem readStrings_map (field : String) (xs : List String) : readStrings field (xs.map .str) = .ok xs := by
  induction xs with
  | nil => rfl
  | cons x xs ih =>
    simp only [List.map_cons, readStrings, ih]
    rfl

/-- Every field read under its own name is a built context. -/
theorem validate_of_readFrom {rt : Runtime} {values : Fields} {expireOn : Option DateTime}
    {c : BlocksContext} (h : ReadFrom rt values expireOn c) : validate rt values expireOn = .ok c := by
  simp only [validate, h.tenantId, h.roles, h.userId, h.requestUri, h.oauthToken, h.organizationId,
    h.isAuthenticated, h.email, h.permissions, h.userName, h.phoneNumber, h.displayName,
    h.originalTenantId, h.applicationDomain, h.impersonated, h.impersonationSessionId, h.clientId,
    h.sessionId, ← h.expireOn]
  rfl

/-- A payload counts by what it holds under the wire names, once each of them is there. -/
theorem transportValues_congr {payload sent : Fields} (table : List (String × String))
    (hsame : ∀ entry ∈ table, payload.lookup entry.1 = sent.lookup entry.1)
    (hthere : ∀ entry ∈ table, (sent.lookup entry.1).isSome = true) :
    transportValues (.obj payload) table = transportValues (.obj sent) table := by
  induction table with
  | nil => rfl
  | cons entry table ih =>
    obtain ⟨wireName, field⟩ := entry
    obtain ⟨v, hv⟩ := Option.isSome_iff_exists.mp (hthere _ List.mem_cons_self)
    have hpayload := (hsame _ List.mem_cons_self).trans hv
    have ih := ih (fun e hm => hsame e (List.mem_cons_of_mem _ hm))
      (fun e hm => hthere e (List.mem_cons_of_mem _ hm))
    simp only [transportValues, transportValue, payloadItem, hpayload, hv, ih]
    rfl

/-- The keyword arguments the payload that was sent gives. -/
def sanitizedValues (context : BlocksContext) : Fields :=
  [("tenant_id", .str context.tenantId), ("roles", .arr (context.roles.map .str)),
    ("user_id", .str context.userId), ("is_authenticated", .bool context.isAuthenticated),
    ("request_uri", .str context.requestUri), ("organization_id", .str context.organizationId)] ++
  (context.expireOn.map (fun date => ("expire_on", Json.str date.iso))).toList ++
  [("email", .str (maskedEmail context.email)), ("permissions", .arr (context.permissions.map .str)),
    ("user_name", .str context.userName), ("phone_number", .str (maskedPhone context.phoneNumber)),
    ("display_name", .str context.displayName), ("oauth_token", .str ""),
    ("original_tenant_id",
      .str (if context.originalTenantId.isEmpty then context.tenantId else context.originalTenantId)),
    ("application_domain", .str context.applicationDomain), ("impersonated", .bool context.impersonated),
    ("client_id", .str context.clientId), ("session_id", .str context.sessionId)]

theorem transportValues_sanitized (context : BlocksContext) :
    transportValues (.obj (createSanitizedForTransport context)) transportFields =
      .ok (sanitizedValues context) := by
  cases h : context.expireOn with
  | none =>
    simp only [createSanitizedForTransport, sanitizedValues, h]
    rfl
  | some date =>
    simp only [createSanitizedForTransport, sanitizedValues, h]
    rfl

theorem sanitized_readFrom (rt : Runtime) (context : BlocksContext) :
    ReadFrom rt (sanitizedValues context) context.expireOn context.sanitized := by
  have hlist : ∀ (xs : List String) field, readStrList field (.arr (xs.map .str)) = .ok xs :=
    fun xs field => readStrings_map field xs
  cases h : context.expireOn
  all_goals
    simp only [sanitizedValues, h]
    constructor
    case roles => exact hlist context.roles _
    case permissions => exact hlist context.permissions _
    case expireOn => exact h
    all_goals rfl

theorem transportExpiry_sanitized {rt : Runtime} {context : BlocksContext}
    (hdate : ∀ date, context.expireOn = some date → rt.readDateTime (.str date.iso) = .ok date) :
    transportExpiry rt (sanitizedValues context) = .ok context.expireOn := by
  cases h : context.expireOn with
  | none =>
    simp only [sanitizedValues, h]
    rfl
  | some date =>
    simp only [sanitizedValues, h]
    change some <$> rt.readDateTime (.str date.iso) = _
    rw [hdate date h]
    rfl

theorem wireNames_there (context : BlocksContext) :
    ∀ entry ∈ transportFields, ((createSanitizedForTransport context).lookup entry.1).isSome = true := by
  intro entry hm
  have hnames : (createSanitizedForTransport context).map Prod.fst = wireNames := rfl
  have hname : entry.1 ∈ (createSanitizedForTransport context).map Prod.fst := by
    rw [hnames]
    exact List.mem_map_of_mem hm
  obtain ⟨found, hfound, he⟩ := List.mem_map.mp hname
  apply Option.isSome_iff_ne_none.mpr
  intro hnone
  have hdiffers := List.lookup_eq_none_iff.mp hnone found hfound
  simp [he] at hdiffers

/-- A payload that gives the sanitized fields is rebuilt to the sanitized context. -/
theorem fromTransport_of_values {rt : Runtime} {context : BlocksContext} {payload : Fields}
    (hpayload : payload ≠ [])
    (hvalues : transportValues (.obj payload) transportFields = .ok (sanitizedValues context))
    (hdate : ∀ date, context.expireOn = some date → rt.readDateTime (.str date.iso) = .ok date) :
    fromTransport rt (.obj payload) = .ok (some context.sanitized) := by
  have htruthy : (Json.obj payload).truthy = true := by simpa [Json.truthy] using hpayload
  unfold fromTransport
  rw [hvalues]
  simp only [htruthy, bind, Except.bind, transportExpiry_sanitized hdate]
  rw [validate_of_readFrom (sanitized_readFrom rt context)]
  rfl

/-- Sent, encoded, decoded and rebuilt: the context comes back sanitized, whatever else the payload
holds by then. -/
theorem context_survives_the_wire {rt : Runtime} {dumps : Json → String} {context : BlocksContext}
    {payload : Fields} (hadds : AddsKeys (createSanitizedForTransport context) payload)
    (hjson : rt.loads (dumps (.obj payload)) = .ok (.obj payload))
    (hdate : ∀ date, context.expireOn = some date → rt.readDateTime (.str date.iso) = .ok date) :
    (rt.loads (dumps (.obj payload)) >>= fromTransport rt) = .ok (some context.sanitized) := by
  have hsame : ∀ entry ∈ transportFields,
      payload.lookup entry.1 = (createSanitizedForTransport context).lookup entry.1 := by
    intro entry hm
    rw [← hadds]
    apply (lookup_filter_key _).symm
    exact List.contains_iff_mem.mpr (List.mem_map_of_mem hm)
  have hvalues : transportValues (.obj payload) transportFields = .ok (sanitizedValues context) :=
    (transportValues_congr transportFields hsame (wireNames_there context)).trans
      (transportValues_sanitized context)
  have hpayload : payload ≠ [] := by
    rintro rfl
    cases hadds
  rw [hjson]
  exact fromTransport_of_values hpayload hvalues hdate

def adaOnTheWire : String :=
  "\x7b\"TenantId\": \"acme\", \"Roles\": [\"admin\"], \"UserId\": \"ada\", \"IsAuthenticated\": true, " ++
  "\"RequestUri\": \"\", \"OrganizationId\": \"hq\", \"ExpireOn\": \"2030-01-01T00:00:00\", " ++
  "\"Email\": \"***@acme.io\", \"Permissions\": [], \"UserName\": \"\", \"PhoneNumber\": \"***4567\", " ++
  "\"DisplayName\": \"\", \"OauthToken\": \"\", \"OriginalTenantId\": \"acme\", " ++
  "\"ApplicationDomain\": \"\", \"Impersonated\": false, \"ClientId\": \"\", \"SessionId\": \"s9\", " ++
  "\"Region\": \"eu\"\x7d"

def travellingAda : BlocksContext :=
  { tenantId := "acme", roles := ["admin"], userId := "ada", isAuthenticated := true, organizationId := "hq",
    expireOn := some ⟨"2030-01-01T00:00:00"⟩, email := "ada@acme.io", phoneNumber := "01234567",
    oauthToken := "secret", sessionId := "s9" }

def adaPayload : Fields := createSanitizedForTransport travellingAda ++ [("Region", .str "eu")]

def wireRuntime : Runtime :=
  { asciiRuntime with
    loads := fun text => if text = adaOnTheWire then .ok (.obj adaPayload) else .error .jsonDecode }

/-- Ada of acme, sent on with a key that means nothing here. -/
theorem context_survives_the_wire_ada :
    (wireRuntime.loads adaOnTheWire >>= fromTransport wireRuntime) = .ok (some travellingAda.sanitized) := by
  have hadds : AddsKeys (createSanitizedForTransport travellingAda) adaPayload := by
    apply addsKeys_append
    decide
  have hjson : wireRuntime.loads adaOnTheWire = .ok (.obj adaPayload) := by
    simp only [wireRuntime, if_true]
  refine @context_survives_the_wire wireRuntime (fun _ => adaOnTheWire) travellingAda adaPayload hadds hjson ?_
  intro date hdate
  cases hdate
  rfl

end BlocksGenesis.Auth
