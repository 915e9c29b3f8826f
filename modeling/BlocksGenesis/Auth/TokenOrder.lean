import BlocksGenesis.Auth.Hosts

/-! Which of the tokens a request carries is the one that counts. -/

namespace BlocksGenesis.Auth
open Python

/-! ## The places a token can be in -/

def bearerToken (rt : Runtime) (request : Request) : Option String :=
  let authHeader := (request.header "authorization").getD ""
  if startsWith (rt.lower authHeader) "bearer " then given (some (strip (dropChars 7 authHeader))) else none

/-- The cookie that is named as the application domain is. -/
def domainCookie (rt : Runtime) (request : Request) : Option String :=
  (resolveApplicationDomain rt request).bind (fun domain => given (request.cookie domain))

/-- The first cookie that is named as another loopback host than the application domain is. -/
def loopbackAlias (rt : Runtime) (request : Request) : Option String :=
  loopbackNames.findSome? (fun name =>
    if resolveApplicationDomain rt request = some name then none else given (request.cookie name))

def thirdPartyCookie (getTenant : String → Option Tenant) (request : Request) (tenantId : String) : Option String :=
  ((getTenant tenantId).bind Tenant.thirdPartyJwtTokenParameters).bind
    (fun parameters => (given (some parameters.cookieKey)).bind (fun key => given (request.cookie key)))

def IsLoopback (domain : Option String) : Prop := ∃ name ∈ loopbackNames, domain = some name

/-- The token a request is documented to give, and whether that is a third party's. -/
inductive Documented (rt : Runtime) (getTenant : String → Option Tenant) (request : Request) (tenantId : String) :
    Option String → Bool → Prop where
  | bearer {token} : bearerToken rt request = some token → Documented rt getTenant request tenantId (some token) false
  | domain {token} : bearerToken rt request = none → domainCookie rt request = some token →
      Documented rt getTenant request tenantId (some token) false
  | loopback {name token} : bearerToken rt request = none → domainCookie rt request = none →
      IsLoopback (resolveApplicationDomain rt request) → name ∈ loopbackNames →
      resolveApplicationDomain rt request ≠ some name → given (request.cookie name) = some token →
      Documented rt getTenant request tenantId (some token) false
  | thirdParty {token} : bearerToken rt request = none → domainCookie rt request = none →
      (IsLoopback (resolveApplicationDomain rt request) → loopbackAlias rt request = none) →
      thirdPartyCookie getTenant request tenantId = some token →
      Documented rt getTenant request tenantId (some token) true
  | nothing : bearerToken rt request = none → domainCookie rt request = none →
      (IsLoopback (resolveApplicationDomain rt request) → loopbackAlias rt request = none) →
      thirdPartyCookie getTenant request tenantId = none → Documented rt getTenant request tenantId none false

/-- The code takes the application domain for a loopback host. -/
def takenForLoopback (rt : Runtime) (request : Request) : Bool :=
  (resolveApplicationDomain rt request).any (isLocalhostHost rt)

/-- A cookie under another loopback name is not in the way of the domain's own cookie, nor is it passed over where
there is none. -/
def AliasInPlace (rt : Runtime) (request : Request) : Prop :=
  ∀ other, bearerToken rt request = none → loopbackAlias rt request = some other →
    (∀ token, domainCookie rt request = some token → takenForLoopback rt request = true → other = token) ∧
    (domainCookie rt request = none →
      (takenForLoopback rt request = true ↔ IsLoopback (resolveApplicationDomain rt request)))

section Order
variable {rt : Runtime} {getTenant : String → Option Tenant} {request : Request} {context : Option BlocksContext}
  {tenantId token : String} {found : Option String} {isThirdParty : Bool}

theorem resolveApplicationDomain_ne_empty {domain : String} (h : resolveApplicationDomain rt request = some domain) :
    domain ≠ "" := by
  have hbind : ∀ {header : Option String}, header.bind (fun url => given (some (normalizeDomain rt url))) = some domain →
      domain ≠ "" := by
    intro header hdomain
    obtain ⟨url, _, hgiven⟩ := Option.bind_eq_some_iff.mp hdomain
    exact given_ne_empty hgiven
  unfold resolveApplicationDomain at h
  split at h
  · rename_i origin horigin
    cases h
    exact hbind horigin
  · exact hbind h

theorem tryLocalhostAliasCookie_eq (rt : Runtime) (request : Request) :
    tryLocalhostAliasCookie rt request (resolveApplicationDomain rt request) =
      if takenForLoopback rt request then loopbackAlias rt request else none := by
  unfold tryLocalhostAliasCookie takenForLoopback loopbackAlias
  cases hdomain : resolveApplicationDomain rt request with
  | none => rw [Option.any_none, if_neg Bool.false_ne_true]
  | some domain =>
    have hnamed : domain.isEmpty = false := by
      apply eq_false_of_ne_true
      intro hempty
      exact resolveApplicationDomain_ne_empty hdomain (String.isEmpty_iff.mp hempty)
    dsimp only
    rw [hnamed, Bool.false_or, Option.any_some]
    cases isLocalhostHost rt domain with
    | false => rw [Bool.not_false, if_pos rfl, if_neg Bool.false_ne_true]
    | true =>
      have hskip : (fun name => if name == domain then none else given (request.cookie name)) =
          (fun name => if some domain = some name then none else given (request.cookie name)) := by
        funext name
        refine if_congr ?_ rfl rfl
        rw [beq_iff_eq, Option.some.injEq, eq_comm]
      rw [Bool.not_true, if_neg Bool.false_ne_true, if_pos rfl, hskip, loopbackNames]

theorem extractTokenFromCookie_eq (h : given (context.map BlocksContext.tenantId) = some tenantId) :
    let extracted := extractTokenFromCookie rt getTenant request context
    (extracted.token, extracted.isThirdParty) =
      match if takenForLoopback rt request then loopbackAlias rt request else none with
      | some token => (some token, false)
      | none =>
        match domainCookie rt request with
        | some token => (some token, false)
        | none => (thirdPartyCookie getTenant request tenantId, (thirdPartyCookie getTenant request tenantId).isSome) := by
  have hown : (given (resolveApplicationDomain rt request)).bind (fun name => given (request.cookie name)) =
      domainCookie rt request := by
    unfold domainCookie
    cases hdomain : resolveApplicationDomain rt request with
    | none => rfl
    | some domain =>
      have hne := resolveApplicationDomain_ne_empty hdomain
      rw [given, if_neg (fun hempty => hne (String.isEmpty_iff.mp hempty))]
  unfold extractTokenFromCookie thirdPartyCookie
  rw [h]
  dsimp only
  rw [tryLocalhostAliasCookie_eq, hown]
  cases (if takenForLoopback rt request then loopbackAlias rt request else none) with
  | some token => rfl
  | none =>
    cases domainCookie rt request with
    | some token => rfl
    | none =>
      cases (getTenant tenantId).bind Tenant.thirdPartyJwtTokenParameters with
      | none => rfl
      | some parameters =>
        dsimp only [Option.bind_some]
        cases (given (some parameters.cookieKey)).bind (fun key => given (request.cookie key)) with
        | some token => rfl
        | none => rfl

theorem extractTokenFromRequest_bearer (h : bearerToken rt request = some token) :
    (extractTokenFromRequest rt getTenant request context).token = some token ∧
      (extractTokenFromRequest rt getTenant request context).isThirdParty = false := by
  unfold bearerToken at h
  unfold extractTokenFromRequest
  dsimp only at h ⊢
  split at h
  · rename_i hstart
    have hne := given_ne_empty h
    rw [← Option.some.inj (given_some h)] at hne ⊢
    rw [if_pos hstart, if_neg (fun hempty => hne (String.isEmpty_iff.mp hempty))]
    exact ⟨rfl, rfl⟩
  · cases h

theorem extractTokenFromRequest_cookie (h : bearerToken rt request = none) :
    extractTokenFromRequest rt getTenant request context = extractTokenFromCookie rt getTenant request context := by
  unfold bearerToken at h
  unfold extractTokenFromRequest
  dsimp only at h ⊢
  rw [if_pos]
  split
  · rename_i hstart
    rw [if_pos hstart, given] at h
    by_contra hne
    rw [if_neg hne] at h
    cases h
  · exact String.isEmpty_iff.mpr rfl

theorem loopbackAlias_some {other : String} (h : loopbackAlias rt request = some other) :
    ∃ name ∈ loopbackNames, resolveApplicationDomain rt request ≠ some name ∧
      given (request.cookie name) = some other := by
  obtain ⟨name, hname, hother⟩ := List.exists_of_findSome?_eq_some h
  split at hother
  · cases hother
  · rename_i hne
    exact ⟨name, hname, hne, hother⟩

/-! ## What the documentation asks, one place after another -/

theorem documented_domain (hbearer : bearerToken rt request = none) (hown : domainCookie rt request = some token) :
    Documented rt getTenant request tenantId found isThirdParty ↔ found = some token ∧ isThirdParty = false := by
  constructor
  · intro h
    cases h with
    | bearer hb =>
      rw [hbearer] at hb
      cases hb
    | domain _ hd => exact ⟨hd.symm.trans hown, rfl⟩
    | loopback _ hd =>
      rw [hown] at hd
      cases hd
    | thirdParty _ hd =>
      rw [hown] at hd
      cases hd
    | nothing _ hd =>
      rw [hown] at hd
      cases hd
  · intro h
    obtain ⟨rfl, rfl⟩ := h
    exact .domain hbearer hown

/-- Past the domain's own cookie an alias is asked for where the domain is a loopback name. -/
theorem documented_alias {other : String} (hbearer : bearerToken rt request = none)
    (hown : domainCookie rt request = none) (halias : loopbackAlias rt request = some other) :
    Documented rt getTenant request tenantId (some other) false ↔ IsLoopback (resolveApplicationDomain rt request) := by
  constructor
  · intro h
    cases h with
    | bearer hb =>
      rw [hbearer] at hb
      cases hb
    | domain _ hd =>
      rw [hown] at hd
      cases hd
    | loopback _ _ hloopback => exact hloopback
  · intro hloopback
    obtain ⟨name, hname, hne, hcookie⟩ := loopbackAlias_some halias
    exact .loopback hbearer hown hloopback hname hne hcookie

/-- What is left, where the aliases are passed over. -/
theorem documented_rest (hbearer : bearerToken rt request = none) (hown : domainCookie rt request = none) :
    Documented rt getTenant request tenantId (thirdPartyCookie getTenant request tenantId)
        (thirdPartyCookie getTenant request tenantId).isSome ↔
      (IsLoopback (resolveApplicationDomain rt request) → loopbackAlias rt request = none) := by
  constructor
  · intro h hloopback
    cases hthird : thirdPartyCookie getTenant request tenantId with
    | some token =>
      rw [hthird] at h
      cases h with
      | thirdParty _ _ hpassed => exact hpassed hloopback
    | none =>
      rw [hthird] at h
      cases h with
      | nothing _ _ hpassed => exact hpassed hloopback
  · intro hpassed
    cases hthird : thirdPartyCookie getTenant request tenantId with
    | some token => exact .thirdParty hbearer hown hpassed hthird
    | none => exact .nothing hbearer hown hpassed hthird

/-- What the other cookies give is what is documented, unless an alias was to be asked for before. -/
theorem documented_past_alias (hbearer : bearerToken rt request = none)
    (he : (found, isThirdParty) =
      match domainCookie rt request with
      | some token => (some token, false)
      | none => (thirdPartyCookie getTenant request tenantId,
          (thirdPartyCookie getTenant request tenantId).isSome)) :
    Documented rt getTenant request tenantId found isThirdParty ↔
      (domainCookie rt request = none → IsLoopback (resolveApplicationDomain rt request) →
        loopbackAlias rt request = none) := by
  cases hown : domainCookie rt request with
  | some token =>
    rw [hown] at he
    refine iff_of_true ((documented_domain hbearer hown).mpr (Prod.mk.inj he)) (fun hnone => ?_)
    cases hnone
  | none =>
    rw [hown] at he
    obtain ⟨rfl, rfl⟩ := Prod.mk.inj he
    rw [documented_rest hbearer hown]
    exact ⟨fun h _ => h, fun h => h rfl⟩

theorem aliasInPlace_of_none (halias : loopbackAlias rt request = none) : AliasInPlace rt request := by
  intro other _ hsome
  rw [halias] at hsome
  cases hsome

theorem aliasInPlace_iff {other : String} (hbearer : bearerToken rt request = none)
    (halias : loopbackAlias rt request = some other) :
    AliasInPlace rt request ↔
      (∀ token, domainCookie rt request = some token → takenForLoopback rt request = true → other = token) ∧
      (domainCookie rt request = none →
        (takenForLoopback rt request = true ↔ IsLoopback (resolveApplicationDomain rt request))) := by
  constructor
  · intro hplace
    exact hplace other hbearer halias
  · intro hplace first _ hfirst
    rw [halias] at hfirst
    cases hfirst
    exact hplace

/-- Extraction follows its documented order for exactly the requests whose loopback aliases are not in the way. -/
theorem documented_order_iff (h : given (context.map BlocksContext.tenantId) = some tenantId) :
    Documented rt getTenant request tenantId (extractTokenFromRequest rt getTenant request context).token
        (extractTokenFromRequest rt getTenant request context).isThirdParty ↔
      AliasInPlace rt request := by
  cases hbearer : bearerToken rt request with
  | some token =>
    have hextracted : (extractTokenFromRequest rt getTenant request context).token = some token ∧
        (extractTokenFromRequest rt getTenant request context).isThirdParty = false :=
      extractTokenFromRequest_bearer hbearer
    rw [hextracted.1, hextracted.2]
    refine iff_of_true (.bearer hbearer) (fun other hnone => ?_)
    rw [hbearer] at hnone
    cases hnone
  | none =>
    rw [extractTokenFromRequest_cookie hbearer]
    have hextracted := @extractTokenFromCookie_eq rt getTenant request context tenantId h
    dsimp only at hextracted
    generalize (extractTokenFromCookie rt getTenant request context).token = found at hextracted ⊢
    generalize (extractTokenFromCookie rt getTenant request context).isThirdParty = isThirdParty at hextracted ⊢
    cases halias : loopbackAlias rt request with
    | none =>
      rw [halias, ite_self] at hextracted
      refine iff_of_true ((documented_past_alias hbearer hextracted).mpr ?_) (aliasInPlace_of_none halias)
      exact fun _ _ => halias
    | some other =>
      rw [aliasInPlace_iff hbearer halias]
      cases htaken : takenForLoopback rt request with
      | true =>
        -- the alias is what is extracted
        rw [halias, htaken, if_pos rfl] at hextracted
        obtain ⟨rfl, rfl⟩ := Prod.mk.inj hextracted
        cases hown : domainCookie rt request with
        | some token =>
          rw [documented_domain hbearer hown]
          simp
        | none =>
          rw [documented_alias hbearer hown halias]
          simp
      | false =>
        rw [htaken, if_neg Bool.false_ne_true] at hextracted
        rw [documented_past_alias hbearer hextracted, halias]
        simp

end Order

/-- A request of a page on `localhost`, with sessions under two loopback names. -/
def loopbackRequest : Request where
  headers := [("origin", "http://localhost:3000")]
  cookies := [("127.0.0.1", "other-session"), ("localhost", "own-session")]

/-- A bearer token comes before every cookie. -/
theorem documented_order_bearer :
    Documented urlRuntime (fun _ => none) { loopbackRequest with headers := [("authorization", "Bearer abc")] } "acme"
      (some "abc") false := by
  have hplace : AliasInPlace urlRuntime { loopbackRequest with headers := [("authorization", "Bearer abc")] } := by
    intro other hbearer _
    have hfound : bearerToken urlRuntime { loopbackRequest with headers := [("authorization", "Bearer abc")] } =
        some "abc" := by decide +kernel
    rw [hfound] at hbearer
    cases hbearer
  have hcontext : given ((some ({ tenantId := "acme" } : BlocksContext)).map BlocksContext.tenantId) = some "acme" := rfl
  exact (documented_order_iff hcontext).mpr hplace

/-- The session of another loopback name is taken before the page's own. -/
theorem alias_before_own :
    extractTokenFromRequest urlRuntime (fun _ => none) loopbackRequest (some { tenantId := "acme" }) =
        ⟨some "other-session", false, some "localhost"⟩ ∧
      ¬ Documented urlRuntime (fun _ => none) loopbackRequest "acme" (some "other-session") false := by
  have hbearer : bearerToken urlRuntime loopbackRequest = none := by decide +kernel
  have hown : domainCookie urlRuntime loopbackRequest = some "own-session" := by decide +kernel
  refine ⟨by decide +kernel, fun h => ?_⟩
  have htoken := Option.some.inj ((documented_domain hbearer hown).mp h).1
  exact absurd htoken (by decide)

end BlocksGenesis.Auth
