import BlocksGenesis.Auth.External
import BlocksGenesis.Auth.ExternalClaims

/-! What the wash of an external token leaves its provider's mapping to read. -/

namespace BlocksGenesis.Auth
open Python BlocksContext

/-! ## Mappings that go through a reserved claim -/

/-- The dotted path of a mapping starts at a reserved claim. -/
def PathReserved (mapping : String) : Prop :=
  ∃ first property rest, split '.' mapping = first :: property :: rest ∧ first ∈ reservedClaims

def ThroughReserved (claims : Fields) (mapping : String) : Prop :=
  mapping ∈ reservedClaims ∨ (claims.lookup mapping = none ∧ PathReserved mapping)

/-- Roles go on to the path when the claim itself lists none. -/
def RolesReserved (rt : Runtime) (claims : Fields) (mapping : String) : Prop :=
  mapping ∈ reservedClaims ∨ (literalRoles rt (claims.get mapping) = [] ∧ PathReserved mapping)

section Washed
variable {rt : Runtime} {claims : Fields} {mapping : String}

/-- No reserved claim is a path of its own. -/
theorem split_reserved {name : String} (h : name ∈ reservedClaims) : split '.' name = [name] := by
  revert name
  decide

theorem resolveMappedClaim_through (h : ThroughReserved claims mapping) :
    resolveMappedClaim rt (stripReservedClaims claims) mapping = .ok "" := by
  unfold resolveMappedClaim
  split
  · rfl
  · rename_i hblank
    have hmapping := ne_empty_of_not_blank (eq_false_of_ne_true hblank)
    rw [extractClaimValue_eq (by simpa using hmapping), lookup_washed]
    rcases h with hreserved | ⟨hnone, first, property, rest, hsplit, hreserved⟩
    · rw [if_pos hreserved, split_reserved hreserved]
    · rw [hnone, ite_self, hsplit]
      dsimp only
      rw [get_washed_reserved hreserved]

theorem resolveMappedClaim_beside (h : ¬ ThroughReserved claims mapping) :
    resolveMappedClaim rt (stripReservedClaims claims) mapping = resolveMappedClaim rt claims mapping := by
  unfold resolveMappedClaim
  split
  · rfl
  · rename_i hblank
    have hmapping := ne_empty_of_not_blank (eq_false_of_ne_true hblank)
    have hempty : mapping.isEmpty = false := by simpa using hmapping
    rw [extractClaimValue_eq hempty, extractClaimValue_eq hempty, lookup_washed, if_neg (fun hr => h (.inl hr))]
    cases hlookup : claims.lookup mapping with
    | some value => rfl
    | none =>
      dsimp only
      split
      · rename_i first property rest hsplit
        rw [get_washed_other (fun hr => h (.inr ⟨hlookup, first, property, rest, hsplit, hr⟩))]
      · rfl

theorem extractRolesFromClaim_through (h : RolesReserved rt claims mapping) :
    extractRolesFromClaim rt (stripReservedClaims claims) mapping = .ok [] := by
  cases hempty : mapping.isEmpty with
  | true => simp [extractRolesFromClaim, hempty]
  | false =>
    rw [extractRolesFromClaim_eq hempty]
    have hliteral : literalRoles rt ((stripReservedClaims claims).get mapping) = [] := by
      by_cases hreserved : mapping ∈ reservedClaims
      · rw [get_washed_reserved hreserved]
        rfl
      · rw [get_washed_other hreserved]
        exact (h.resolve_left hreserved).1
    rw [hliteral]
    simp only [List.isEmpty_nil, Bool.not_true, Bool.false_eq_true, if_false]
    rcases h with hreserved | ⟨_, first, property, rest, hsplit, hreserved⟩
    · rw [split_reserved hreserved]
    · rw [hsplit]
      dsimp only
      rw [get_washed_reserved hreserved]
      rfl

theorem extractRolesFromClaim_beside (h : ¬ RolesReserved rt claims mapping) :
    extractRolesFromClaim rt (stripReservedClaims claims) mapping = extractRolesFromClaim rt claims mapping := by
  cases hempty : mapping.isEmpty with
  | true => simp [extractRolesFromClaim, hempty]
  | false =>
    rw [extractRolesFromClaim_eq hempty, extractRolesFromClaim_eq hempty, get_washed_other (fun hr => h (.inl hr))]
    split
    · rfl
    · rename_i hliteral
      have hnone : literalRoles rt (claims.get mapping) = [] := by simpa using hliteral
      split
      · rename_i first property rest hsplit
        rw [get_washed_other (fun hr => h (.inr ⟨hnone, first, property, rest, hsplit, hr⟩))]
      · rfl

/-- The mapping finds on washed claims what it finds on the token's: it goes through no reserved claim, or
finds nothing there. -/
def Kept (rt : Runtime) (claims : Fields) (mapping : String) : Prop :=
  ThroughReserved claims mapping → resolveMappedClaim rt claims mapping = .ok ""

def KeptRoles (rt : Runtime) (claims : Fields) (mapping : String) : Prop :=
  RolesReserved rt claims mapping → extractRolesFromClaim rt claims mapping = .ok []

/-- What is empty after the wash where it reaches, and the same elsewhere, is the same everywhere exactly when it
was empty before. -/
theorem washed_iff {α : Type} {through : Prop} {before after empty : α} (hthrough : through → after = empty)
    (hbeside : ¬ through → after = before) : (through → before = empty) ↔ before = after := by
  by_cases h : through
  · rw [hthrough h]
    exact ⟨fun hkept => hkept h, fun he _ => he⟩
  · rw [hbeside h]
    exact ⟨fun _ => rfl, fun _ hreached => absurd hreached h⟩

theorem kept_iff : Kept rt claims mapping ↔
    resolveMappedClaim rt claims mapping = resolveMappedClaim rt (stripReservedClaims claims) mapping :=
  washed_iff resolveMappedClaim_through resolveMappedClaim_beside

theorem keptRoles_iff : KeptRoles rt claims mapping ↔
    extractRolesFromClaim rt claims mapping = extractRolesFromClaim rt (stripReservedClaims claims) mapping :=
  washed_iff extractRolesFromClaim_through extractRolesFromClaim_beside

end Washed

theorem map_str_inj {x y : Except Exc String} : Json.str <$> x = Json.str <$> y ↔ x = y := by
  cases x <;> cases y <;> simp [Functor.map, Except.map]

/-! ## The context a mapping makes -/

/-- What the mapping makes of these claims, as a context. -/
def MapsTo (rt : Runtime) (tenantId applicationDomain : Option String) (url : String)
    (provider : ThirdPartyJwtProvider) (claims : Fields) (c : BlocksContext) : Prop :=
  ∃ mapped, mapThirdPartyClaims rt claims provider = .ok (some mapped) ∧
    createThirdPartyContext rt tenantId mapped.subject provider.defaultOrganizationId mapped.roles
      mapped.email mapped.userName (.str mapped.displayName) (applicationDomain.getD "") url = .ok c

/-- The fields a mapping documents, as a context holds them. -/
structure MappedInto (mapped : MappedClaims) (c : BlocksContext) : Prop where
  subject : ∃ name, mapped.subject = .str name ∧ c.userId = name ++ "_external"
  email : mapped.email = .str c.email
  userName : mapped.userName = .str c.userName
  displayName : c.displayName = mapped.displayName
  roles : c.roles = mapped.roles

section Mapped
variable {rt : Runtime} {tenantId applicationDomain : Option String} {url : String}
  {provider : ThirdPartyJwtProvider} {claims payload : Fields} {c : BlocksContext} {mapped other : MappedClaims}

theorem createThirdPartyContext_mapped {organizationId domain : String}
    (h : createThirdPartyContext rt tenantId mapped.subject organizationId mapped.roles mapped.email
      mapped.userName (.str mapped.displayName) domain url = .ok c) : MappedInto mapped c := by
  unfold createThirdPartyContext at h
  split at h
  · cases h
  · split at h
    · cases h
    · split at h
      · cases h
      · split at h
        · rename_i name hsubject
          split at h
          · cases h
          · have hr := validate_ok h
            have hroles : readStrings "roles" (mapped.roles.map .str) = .ok c.roles := hr.roles
            rw [readStrings_map] at hroles
            exact ⟨⟨name, hsubject, strField_given rfl hr.userId⟩, strField_ok hr.email rfl,
              strField_ok hr.userName rfl, strField_given rfl hr.displayName, (Except.ok.inj hroles).symm⟩
        · cases h

/-- A context says what was mapped into it. -/
theorem MappedInto.unique (h : MappedInto mapped c) (h' : MappedInto other c) : mapped = other := by
  obtain ⟨name, hname, huser⟩ := h.subject
  obtain ⟨name', hname', huser'⟩ := h'.subject
  have hsame : name = name' := by
    have happend := congrArg String.toList (huser.symm.trans huser')
    rw [String.toList_append, String.toList_append] at happend
    exact String.toList_injective (List.append_cancel_right happend)
  have hsubject : mapped.subject = other.subject := by rw [hname, hname', hsame]
  have hemail := h.email.trans h'.email.symm
  have huserName := h.userName.trans h'.userName.symm
  have hdisplay := h.displayName.symm.trans h'.displayName
  have hroles := h.roles.symm.trans h'.roles
  cases mapped
  cases other
  simp_all

theorem externalContext_mapsTo :
    (∃ payload, externalContext rt tenantId applicationDomain url claims provider = .ok (payload, c)) ↔
      MapsTo rt tenantId applicationDomain url provider (stripReservedClaims claims) c := by
  unfold MapsTo externalContext
  dsimp only
  constructor
  · intro hsome
    obtain ⟨payload, h⟩ := hsome
    obtain ⟨found, hfound, h⟩ := bind_ok_iff.mp h
    cases found with
    | none => cases h
    | some mapped =>
      dsimp only at h
      refine ⟨mapped, hfound, ?_⟩
      split at h
      · rename_i built hbuilt
        cases pure_ok_iff.mp h
        exact hbuilt
      · cases h
  · intro hsome
    obtain ⟨mapped, hfound, hbuilt⟩ := hsome
    refine ⟨stripReservedClaims claims, bind_ok_iff.mpr ⟨some mapped, hfound, ?_⟩⟩
    dsimp only
    rw [hbuilt]
    rfl

theorem MapsTo.configured (h : MapsTo rt tenantId applicationDomain url provider claims c) :
    provider.claimsMapping.isConfigured = true := by
  obtain ⟨mapped, hmapped, _⟩ := h
  cases hconfigured : provider.claimsMapping.isConfigured with
  | true => rfl
  | false =>
    rw [mapThirdPartyClaims_none hconfigured] at hmapped
    cases hmapped

/-- The standard email claim is the mailbox, and the name where the mapping says so. -/
theorem MapsTo.mailbox (h : MapsTo rt tenantId applicationDomain url provider claims c)
    (hemail : (claims.get emailClaim).truthy = true) :
    Json.str c.email = claims.get emailClaim ∧
      (rt.lower provider.claimsMapping.userName = "email" → Json.str c.userName = claims.get emailClaim) := by
  have hstandard : standardEmail claims = claims.get emailClaim := Json.orElse_truthy hemail
  have hconfigured := h.configured
  obtain ⟨mapped, hmapped, hbuilt⟩ := h
  have hinto := createThirdPartyContext_mapped hbuilt
  obtain ⟨_, hmail, hname, _, _⟩ := (mapThirdPartyClaims_some hconfigured).mp hmapped
  unfold mapEmail at hmail
  rw [hstandard, if_pos hemail] at hmail
  refine ⟨hinto.email.symm.trans (Except.ok.inj hmail).symm, fun hlower => ?_⟩
  unfold mapUserName at hname
  rw [hstandard, if_pos (beq_iff_eq.mpr hlower)] at hname
  exact hinto.userName.symm.trans (Except.ok.inj hname).symm

end Mapped

/-! ## What the wash takes from a mapping -/

/-- No documented field is lost to the wash: the mailbox is found again in another claim, and no mapping
has to go through a reserved one. -/
structure Unwashed (rt : Runtime) (claims : Fields) (mapping : ThirdPartyClaimsMapping) : Prop where
  email : .str <$> resolveMappedClaim rt (stripReservedClaims claims) mapping.email = .ok (claims.get emailClaim)
  userName : rt.lower mapping.userName ≠ "email" ∧ Kept rt claims mapping.userName
  userId : mapping.userId = "sub" ∨ Kept rt claims mapping.userId
  name : Kept rt claims mapping.name
  roles : KeptRoles rt claims mapping.roles

section Fields
variable {rt : Runtime} {claims : Fields} {mapping : ThirdPartyClaimsMapping}

theorem mapSubject_washed_iff :
    mapSubject rt claims mapping = mapSubject rt (stripReservedClaims claims) mapping ↔
      mapping.userId = "sub" ∨ Kept rt claims mapping.userId := by
  unfold mapSubject
  by_cases hsub : mapping.userId = "sub"
  · rw [if_pos (beq_iff_eq.mpr hsub), if_pos (beq_iff_eq.mpr hsub), get_washed_other (by decide)]
    exact ⟨fun _ => .inl hsub, fun _ => rfl⟩
  · rw [if_neg (by simpa using hsub), if_neg (by simpa using hsub), kept_iff, map_str_inj]
    exact ⟨.inr, fun h => h.resolve_left hsub⟩

theorem mapEmail_washed (hemail : (claims.get emailClaim).truthy = true) :
    mapEmail rt claims mapping = .ok (claims.get emailClaim) ∧
      mapEmail rt (stripReservedClaims claims) mapping =
        .str <$> resolveMappedClaim rt (stripReservedClaims claims) mapping.email := by
  have hstandard : standardEmail claims = claims.get emailClaim := Json.orElse_truthy hemail
  unfold mapEmail
  rw [hstandard, if_pos hemail, stripReservedClaims_standardEmail]
  exact ⟨rfl, rfl⟩

theorem mapUserName_washed_iff (hemail : (claims.get emailClaim).truthy = true) :
    mapUserName rt claims mapping = mapUserName rt (stripReservedClaims claims) mapping ↔
      rt.lower mapping.userName ≠ "email" ∧ Kept rt claims mapping.userName := by
  have hstandard : standardEmail claims = claims.get emailClaim := Json.orElse_truthy hemail
  unfold mapUserName
  by_cases hlower : rt.lower mapping.userName = "email"
  · rw [if_pos (beq_iff_eq.mpr hlower), if_pos (beq_iff_eq.mpr hlower), hstandard,
      stripReservedClaims_standardEmail]
    refine ⟨fun h => ?_, fun h => absurd hlower h.1⟩
    rw [Except.ok.inj h] at hemail
    cases hemail
  · rw [if_neg (by simpa using hlower), if_neg (by simpa using hlower), kept_iff, map_str_inj]
    exact ⟨fun h => ⟨hlower, h⟩, fun h => h.2⟩

end Fields

section Unwashed
variable {rt : Runtime} {tenantId applicationDomain : Option String} {url : String}
  {provider : ThirdPartyJwtProvider} {claims : Fields} {c : BlocksContext}

theorem Unwashed.mapThirdPartyClaims_eq (hemail : (claims.get emailClaim).truthy = true)
    (h : Unwashed rt claims provider.claimsMapping) :
    mapThirdPartyClaims rt claims provider = mapThirdPartyClaims rt (stripReservedClaims claims) provider := by
  obtain ⟨hmail, hwashed⟩ := @mapEmail_washed rt _ provider.claimsMapping hemail
  unfold mapThirdPartyClaims
  dsimp only
  rw [mapSubject_washed_iff.mpr h.userId, (mapUserName_washed_iff hemail).mpr h.userName, hmail, hwashed, h.email,
    kept_iff.mp h.name, keptRoles_iff.mp h.roles]

/-- What the claims say before and after the wash, a context cannot hold both if they differ. -/
theorem unwashed_of_both (hemail : (claims.get emailClaim).truthy = true)
    (h : MapsTo rt tenantId applicationDomain url provider claims c)
    (h' : MapsTo rt tenantId applicationDomain url provider (stripReservedClaims claims) c) :
    Unwashed rt claims provider.claimsMapping := by
  have hconfigured := h.configured
  obtain ⟨mapped, hmapped, hbuilt⟩ := h
  obtain ⟨washed, hwashed, hbuilt'⟩ := h'
  have hsame := (createThirdPartyContext_mapped hbuilt).unique (createThirdPartyContext_mapped hbuilt')
  rw [← hsame] at hwashed
  obtain ⟨hsubject, hmail, hname, hdisplay, hroles⟩ := (mapThirdPartyClaims_some hconfigured).mp hmapped
  obtain ⟨hsubject', hmail', hname', hdisplay', hroles'⟩ := (mapThirdPartyClaims_some hconfigured).mp hwashed
  obtain ⟨hstandard, hresolved⟩ := @mapEmail_washed rt _ provider.claimsMapping hemail
  refine ⟨?_, (mapUserName_washed_iff hemail).mp (hname.trans hname'.symm),
    mapSubject_washed_iff.mp (hsubject.trans hsubject'.symm), kept_iff.mpr (hdisplay.trans hdisplay'.symm),
    keptRoles_iff.mpr (hroles.trans hroles'.symm)⟩
  rw [← hresolved, ← hstandard, hmail, hmail']

end Unwashed

/-! ## What authenticate stores -/

/-- The context that is stored is the one the mapping makes of the validated claims: the mailbox is the email
claim, and so is the name the mapping calls by it. -/
structure MappingHonoured (w : World) (now : Jwt.Micros) (request : Request) (ambient : Ambient) (v : Validated)
    (provider : ThirdPartyJwtProvider) : Prop where
  stored c : outcome (authenticate w now request ambient) = .ok (some c) ↔
    MapsTo w.runtime v.tenant.tenantId v.applicationDomain request.url provider v.claims c
  email c : outcome (authenticate w now request ambient) = .ok (some c) →
    Json.str c.email = v.claims.get emailClaim
  userName c : w.runtime.lower provider.claimsMapping.userName = "email" →
    outcome (authenticate w now request ambient) = .ok (some c) → Json.str c.userName = v.claims.get emailClaim

/-- A context comes of the claims, as they are or washed. -/
def Identifies (w : World) (request : Request) (v : Validated) (provider : ThirdPartyJwtProvider) : Prop :=
  ∃ claims c, (claims = v.claims ∨ claims = stripReservedClaims v.claims) ∧
    MapsTo w.runtime v.tenant.tenantId v.applicationDomain request.url provider claims c

section Stored
variable {w : World} {now : Jwt.Micros} {request : Request} {ambient : Ambient} {v : Validated}
  {provider : ThirdPartyJwtProvider}

theorem stored_iff (hv : authenticateToken w now request ambient.context = .ok v)
    (hp : v.provider = some provider) {c : BlocksContext} :
    outcome (authenticate w now request ambient) = .ok (some c) ↔
      MapsTo w.runtime v.tenant.tenantId v.applicationDomain request.url provider
        (stripReservedClaims v.claims) c := by
  rw [outcome_external hv hp, ← externalContext_mapsTo]
  cases externalContext w.runtime v.tenant.tenantId v.applicationDomain request.url v.claims provider with
  | error e => simp [Except.map]
  | ok built =>
    obtain ⟨payload, made⟩ := built
    simp [Except.map]

/-- The wash comes before the mapping, so the mapping is honoured where it never asks for what was washed
away. -/
theorem mapping_honoured_iff (hv : authenticateToken w now request ambient.context = .ok v)
    (hp : v.provider = some provider) (hemail : (v.claims.get emailClaim).truthy = true) :
    MappingHonoured w now request ambient v provider ↔
      (Identifies w request v provider → Unwashed w.runtime v.claims provider.claimsMapping) := by
  constructor
  · intro h ⟨claims, c, hclaims, hc⟩
    have hboth := (h.stored c).symm.trans (stored_iff hv hp)
    rcases hclaims with rfl | rfl
    · exact unwashed_of_both hemail hc (hboth.mp hc)
    · exact unwashed_of_both hemail (hboth.mpr hc) hc
  · intro h
    have hsame : ∀ c, outcome (authenticate w now request ambient) = .ok (some c) ↔
        MapsTo w.runtime v.tenant.tenantId v.applicationDomain request.url provider v.claims c := by
      intro c
      rw [stored_iff hv hp]
      constructor
      · intro hc
        have hunwashed := h ⟨_, c, .inr rfl, hc⟩
        unfold MapsTo at hc ⊢
        rwa [hunwashed.mapThirdPartyClaims_eq hemail]
      · intro hc
        have hunwashed := h ⟨_, c, .inl rfl, hc⟩
        unfold MapsTo at hc ⊢
        rwa [← hunwashed.mapThirdPartyClaims_eq hemail]
    refine ⟨hsame, fun c hc => ?_, fun c hlower hc => ?_⟩
    · exact (((hsame c).mp hc).mailbox hemail).1
    · exact (((hsame c).mp hc).mailbox hemail).2 hlower

end Stored

/-! ### A name that is to be the mailbox -/

def mailProvider : ThirdPartyJwtProvider := { acmeProvider with claimsMapping := { userId := "sub", userName := "Email" } }

def mailClaims : Fields := adaClaims ++ [("email", .str "ada@acme")]

def mailProviderWorld : World :=
  .ofTables [⟨"token", "HS256", .secret "secret", mailClaims⟩] [("acme", acmeTenant)] [("acme", [mailProvider])]

def mailValidated : Validated :=
  ⟨"token", "acme", acmeTenant, none, mailClaims.set requestUriClaim (.str ""), some mailProvider⟩

theorem mapping_honoured_iff_mail :
    MappingHonoured mailProviderWorld 0 (bearerRequest "token") {} mailValidated mailProvider ↔
      (Identifies mailProviderWorld (bearerRequest "token") mailValidated mailProvider →
        Unwashed asciiRuntime mailValidated.claims mailProvider.claimsMapping) :=
  @mapping_honoured_iff mailProviderWorld 0 (bearerRequest "token") {} mailValidated mailProvider rfl rfl rfl

/-- The email claim is gone before the mapping asks for it. -/
theorem mailbox_washed_away :
    ¬ ∀ (w : World) (now : Jwt.Micros) (request : Request) (ambient : Ambient) (v : Validated)
      (provider : ThirdPartyJwtProvider), authenticateToken w now request ambient.context = .ok v →
      v.provider = some provider → (v.claims.get emailClaim).truthy = true →
      MappingHonoured w now request ambient v provider := by
  intro hall
  have hmail := hall mailProviderWorld 0 (bearerRequest "token") {} mailValidated mailProvider rfl rfl rfl
  have hname := hmail.userName _ rfl rfl
  exact absurd (Json.str.inj hname) (by decide)

end BlocksGenesis.Auth
