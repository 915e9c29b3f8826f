import BlocksGenesis.Python.Footprint
import BlocksGenesis.Auth.Context

namespace BlocksGenesis.Auth
open Python BlocksContext

/-- Signing algorithm a third-party provider uses, as configured rather than as claimed. -/
inductive JwtSigningAlgorithm where
  | unspecified
  | rs256 | rs384 | rs512
  | es256 | es384 | es512
  | ps256 | ps384 | ps512
  | hs256 | hs384 | hs512
deriving DecidableEq, Repr

/-- True for the HMAC family, whose key is a shared secret rather than a published one. -/
def isSymmetric : JwtSigningAlgorithm → Bool
  | .hs256 | .hs384 | .hs512 => true
  | _ => false

def toWireName : JwtSigningAlgorithm → String
  | .unspecified => ""
  | .rs256 => "RS256" | .rs384 => "RS384" | .rs512 => "RS512"
  | .es256 => "ES256" | .es384 => "ES384" | .es512 => "ES512"
  | .ps256 => "PS256" | .ps384 => "PS384" | .ps512 => "PS512"
  | .hs256 => "HS256" | .hs384 => "HS384" | .hs512 => "HS512"

/-- The `alg` values validation will accept, each once and in order. -/
def toWireNames (algorithms : List JwtSigningAlgorithm) : List String :=
  algorithms.foldl (fun names algorithm =>
    let name := toWireName algorithm
    if !name.isEmpty && !names.contains name then names ++ [name] else names) []

/-- Whether every configured algorithm draws its key from the same place. -/
def isSingleKeySource (algorithms : List JwtSigningAlgorithm) : Bool :=
  if algorithms.isEmpty then false
  else if algorithms.any (· == .unspecified) then false
  else algorithms.all isSymmetric || !algorithms.any isSymmetric

theorem toWireNames_fold {algorithms : List JwtSigningAlgorithm} {names : List String} {name : String}
    (h : name ∈ algorithms.foldl (fun names algorithm =>
      let wire := toWireName algorithm
      if !wire.isEmpty && !names.contains wire then names ++ [wire] else names) names) :
    name ∈ names ∨ ∃ a ∈ algorithms, name = toWireName a := by
  induction algorithms generalizing names with
  | nil => exact .inl h
  | cons a algorithms ih =>
    rcases ih h with hn | ⟨b, hb, he⟩
    · dsimp only at hn
      split at hn
      · rcases List.mem_append.mp hn with hn | hn
        · exact .inl hn
        · exact .inr ⟨a, List.mem_cons_self, List.mem_singleton.mp hn⟩
      · exact .inl hn
    · exact .inr ⟨b, List.mem_cons_of_mem _ hb, he⟩

theorem mem_toWireNames {algorithms : List JwtSigningAlgorithm} {name : String}
    (h : name ∈ toWireNames algorithms) : ∃ a ∈ algorithms, name = toWireName a := by
  rcases toWireNames_fold h with hn | h
  · simp at hn
  · exact h

theorem isSingleKeySource_cases {algorithms : List JwtSigningAlgorithm}
    (h : isSingleKeySource algorithms = true) :
    algorithms ≠ [] ∧
      ((∀ a ∈ algorithms, isSymmetric a = true) ∨ ∀ a ∈ algorithms, isSymmetric a = false) := by
  unfold isSingleKeySource at h
  split at h
  · simp at h
  · rename_i hne
    split at h
    · simp at h
    · refine ⟨by simpa using hne, ?_⟩
      rcases Bool.or_eq_true _ _ ▸ h with h | h
      · exact .inl (by simpa using h)
      · exact .inr (by simpa using h)

structure ThirdPartyClaimsMapping where
  userId : String := ""
  email : String := ""
  userName : String := ""
  name : String := ""
  roles : String := ""
deriving DecidableEq, Repr

def ThirdPartyClaimsMapping.isConfigured (mapping : ThirdPartyClaimsMapping) : Bool :=
  [mapping.userId, mapping.email, mapping.userName, mapping.name, mapping.roles].any
    (fun value => !blank value)

/-- One external identity provider a tenant trusts tokens from. The organization its callers
act in is normalised when the row is read, so it is never blank. -/
structure ThirdPartyJwtProvider where
  tenantId : String := ""
  key : String := ""
  isActive : Bool := false
  issuer : String := ""
  audiences : List String := []
  algorithms : List JwtSigningAlgorithm := []
  jwksUrl : String := ""
  publicCertificatePath : String := ""
  publicCertificatePasswordCipher : String := ""
  signingSecretCipher : String := ""
  defaultOrganizationId : String := defaultOrganization
  claimsMapping : ThirdPartyClaimsMapping := {}
  organizationNamed : blank defaultOrganizationId = false := by decide
deriving DecidableEq

/-! ## Claim mapping -/

/-- `"" if value is None else str(value)`. -/
def printed (rt : Runtime) : Json → String
  | .null => ""
  | v => v.toStr rt

/-- A claim whose value is a JSON-encoded string is opened first; text that is not JSON opens
to nothing. -/
def openClaim (rt : Runtime) : Json → Except Exc (Option Json)
  | .str s =>
    match rt.loads s with
    | .ok v => .ok (some v)
    | .error .jsonDecode => .ok none
    | .error e => .error e
  | v => .ok (some v)

def claimProperty (rt : Runtime) (property : String) : Option Json → String
  | some (.obj fields) =>
    match fields.lookup property with
    | some v => printed rt v
    | none => ""
  | _ => ""

/-- Resolve a configured claim mapping to a single value: a literal claim name first, and
`claim.property` only when no claim has that exact name. -/
def extractClaimValue (rt : Runtime) (claims : Fields) (mapping : String) : Except Exc String :=
  if claims.isEmpty || mapping.isEmpty then .ok ""
  else match claims.lookup mapping with
    | some value => .ok (printed rt value)
    | none =>
      match split '.' mapping with
      | first :: property :: _ =>
        match claims.get first with
        | .null => .ok ""
        | container => do return claimProperty rt property (← openClaim rt container)
      | _ => .ok ""

def resolveMappedClaim (rt : Runtime) (claims : Fields) (mapping : String) : Except Exc String :=
  if blank mapping then .ok "" else extractClaimValue rt claims mapping

/-- The roles a claim lists by itself: one for a string, each truthy item of a list. -/
def literalRoles (rt : Runtime) : Json → List String
  | .str s => if s.isEmpty then [] else [s]
  | .arr items => (items.filter Json.truthy).map (Json.toStr rt)
  | _ => []

/-- The strings of a list held by a property of a claim that holds a JSON object. -/
def nestedRoles (property : String) : Option Json → List String
  | some (.obj fields) =>
    match fields.lookup property with
    | some (.arr items) => items.filterMap (fun item => match item with
      | .str s => some s
      | _ => none)
    | _ => []
  | _ => []

def extractRolesFromClaim (rt : Runtime) (claims : Fields) (rolesMapping : String) :
    Except Exc (List String) :=
  if claims.isEmpty || rolesMapping.isEmpty then .ok []
  else
    let found := literalRoles rt (claims.get rolesMapping)
    if !found.isEmpty then .ok found
    else match split '.' rolesMapping with
      | first :: property :: rest => do
        return nestedRoles ((property :: rest).getLastD property) (← openClaim rt (claims.get first))
      | _ => .ok []

structure MappedClaims where
  subject : Json
  email : Json
  userName : Json
  displayName : String
  roles : List String

def standardEmail (claims : Fields) : Json := (claims.get emailClaim).orElse (.str "")

/-- "sub" names the standard subject claim. Compared whole: a claim named "x.sub" is a
different claim. -/
def mapSubject (rt : Runtime) (claims : Fields) (mapping : ThirdPartyClaimsMapping) : Except Exc Json :=
  if mapping.userId == "sub" then .ok ((claims.get subjectClaim).orElse (.str ""))
  else .str <$> resolveMappedClaim rt claims mapping.userId

def mapEmail (rt : Runtime) (claims : Fields) (mapping : ThirdPartyClaimsMapping) : Except Exc Json :=
  if (standardEmail claims).truthy then .ok (standardEmail claims)
  else .str <$> resolveMappedClaim rt claims mapping.email

def mapUserName (rt : Runtime) (claims : Fields) (mapping : ThirdPartyClaimsMapping) : Except Exc Json :=
  if rt.lower mapping.userName == "email" then .ok (standardEmail claims)
  else .str <$> resolveMappedClaim rt claims mapping.userName

/-- Map validated claims through the provider's own mapping, none when it has no mapping. -/
def mapThirdPartyClaims (rt : Runtime) (claims : Fields) (provider : ThirdPartyJwtProvider) :
    Except Exc (Option MappedClaims) :=
  let mapping := provider.claimsMapping
  if !mapping.isConfigured then .ok none
  else do
    let subject ← mapSubject rt claims mapping
    let email ← mapEmail rt claims mapping
    let userName ← mapUserName rt claims mapping
    let displayName ← resolveMappedClaim rt claims mapping.name
    let roles ← extractRolesFromClaim rt claims mapping.roles
    return some { subject, email, userName, displayName, roles }

end BlocksGenesis.Auth
