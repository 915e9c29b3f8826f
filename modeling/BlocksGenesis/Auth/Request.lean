import BlocksGenesis.Auth.Context

namespace BlocksGenesis.Auth
open Python

/-- An HTTP request, as far as authentication reads it. Header names are kept in lower case,
the first of a name counts; of a repeated query parameter the last one does. -/
structure Request where
  headers : List (String × String) := []
  query : List (String × String) := []
  cookies : List (String × String) := []
  url : String := ""
deriving DecidableEq, Repr

/-- `request.headers.get(name)`, for a name in lower case. -/
def Request.header (request : Request) (name : String) : Option String :=
  request.headers.lookup name

def Request.queryParam (request : Request) (name : String) : Option String :=
  request.query.reverse.lookup name

def Request.cookie (request : Request) (name : String) : Option String :=
  request.cookies.lookup name

/-- A value that counts as present: neither `None` nor empty. -/
def given : Option String → Option String
  | some s => if s.isEmpty then none else some s
  | none => none

structure JwtTokenParameters where
  issuer : Option String := some ""
  audiences : List String := []
  publicCertificatePath : Option String := some ""
  publicCertificatePassword : Option String := some ""
deriving DecidableEq, Repr

structure ThirdPartyJwtTokenParameters where
  cookieKey : String := ""
deriving DecidableEq, Repr

structure Application where
  domain : Option String := some ""
deriving DecidableEq, Repr

/-- A tenant record, less the fields nothing here reads. -/
structure Tenant where
  tenantId : Option String := some ""
  applications : List Application := []
  isDisabled : Bool := false
  tenantSalt : String := ""
  jwtTokenParameters : Option JwtTokenParameters := none
  thirdPartyJwtTokenParameters : Option ThirdPartyJwtTokenParameters := none
  isThirdPartyJwtEnabled : Bool := false
deriving DecidableEq, Repr

/-- The context variables of one flow: the identity, the validated claims kept for later
sends, and the delegation grant a worker holds. -/
structure Ambient where
  context : Option BlocksContext := none
  authClaims : Option Fields := none
  grant : Option String := none

def resolveApplicationDomain (rt : Runtime) (request : Request) : Option String :=
  match (given (request.header "origin")).bind (fun url => given (some (normalizeDomain rt url))) with
  | some domain => some domain
  | none => (given (request.header "referer")).bind (fun url => given (some (normalizeDomain rt url)))

/-- What extraction returns: the token, whether it came from the third-party cookie, and the
application domain. -/
structure Extracted where
  token : Option String
  isThirdParty : Bool
  applicationDomain : Option String
deriving DecidableEq, Repr

/-- A cookie set under another loopback alias, when the application domain is a loopback host. -/
def tryLocalhostAliasCookie (rt : Runtime) (request : Request) (applicationDomain : Option String) :
    Option String :=
  match applicationDomain with
  | none => none
  | some domain =>
    if domain.isEmpty || !isLocalhostHost rt domain then none
    else ["localhost", "127.0.0.1", "::1"].findSome? (fun localHost =>
      if localHost == domain then none else given (request.cookie localHost))

/-- Extract a token from the cookies: a loopback alias, the application domain's own cookie,
then the tenant's third-party cookie. -/
def extractTokenFromCookie (rt : Runtime) (getTenant : String → Option Tenant) (request : Request)
    (context : Option BlocksContext) : Extracted :=
  match given (context.map BlocksContext.tenantId) with
  | none => ⟨none, false, none⟩
  | some tenantId =>
    let domain := resolveApplicationDomain rt request
    match tryLocalhostAliasCookie rt request domain with
    | some token => ⟨some token, false, domain⟩
    | none =>
      match (given domain).bind (fun name => given (request.cookie name)) with
      | some token => ⟨some token, false, domain⟩
      | none =>
        match (getTenant tenantId).bind Tenant.thirdPartyJwtTokenParameters with
        | none => ⟨none, false, none⟩
        | some parameters =>
          match (given (some parameters.cookieKey)).bind (fun key => given (request.cookie key)) with
          | some token => ⟨some token, true, domain⟩
          | none => ⟨none, false, none⟩

def extractTokenFromRequest (rt : Runtime) (getTenant : String → Option Tenant) (request : Request)
    (context : Option BlocksContext) : Extracted :=
  let authHeader := (request.header "authorization").getD ""
  let bearer := if startsWith (rt.lower authHeader) "bearer " then strip (dropChars 7 authHeader) else ""
  if bearer.isEmpty then extractTokenFromCookie rt getTenant request context
  else ⟨some bearer, false, resolveApplicationDomain rt request⟩

def requestTenantKey (request : Request) : Option String :=
  ((given (request.header "x-blocks-key")).or (given (request.queryParam "x-blocks-key"))).or
    (given (request.queryParam "tenant_id"))

/-- The tenant the request itself declares, from the header then the query. -/
def tenantDeclaredOnRequest (request : Request) : Option String :=
  match ["tenant_id", "x-blocks-key"].findSome? (fun key => given (request.header key)) with
  | some value => some value
  | none => ["tenant_id", "x-blocks-key"].findSome? (fun key => given (request.queryParam key))

theorem given_some {o : Option String} {s : String} (h : given o = some s) : o = some s := by
  cases o with
  | none => cases h
  | some t =>
    simp only [given] at h
    split at h
    · cases h
    · exact h

theorem given_ne_empty {o : Option String} {s : String} (h : given o = some s) : s ≠ "" := by
  cases o with
  | none => simp [given] at h
  | some t =>
    simp only [given] at h
    split at h
    · simp at h
    · rename_i hne
      cases h
      simpa using hne

end BlocksGenesis.Auth
