import BlocksGenesis.Auth.BlocksClaims

/-! Which claims of an external token its provider's mapping can read, and what is raised of the others. -/

namespace BlocksGenesis.Auth
open Python BlocksContext

/-- A text that is opened as JSON opens, or is found to be no JSON. -/
def OpensText (rt : Runtime) (v : Json) : Prop := ∀ s e, v = .str s → rt.loads s = .error e → e = .jsonDecode

/-- The claim a dotted mapping goes through opens. -/
def PathOpens (rt : Runtime) (claims : Fields) (mapping : String) : Prop :=
  ∀ first property rest, split '.' mapping = first :: property :: rest → OpensText rt (claims.get first)

def MappingOpens (rt : Runtime) (claims : Fields) (mapping : String) : Prop :=
  blank mapping = true ∨ claims.has mapping = true ∨ PathOpens rt claims mapping

/-- Every mapping that is looked up opens. -/
structure MappingsOpen (rt : Runtime) (claims : Fields) (mapping : ThirdPartyClaimsMapping) : Prop where
  userId : mapping.userId = "sub" ∨ MappingOpens rt claims mapping.userId
  email : (standardEmail claims).truthy = true ∨ MappingOpens rt claims mapping.email
  userName : rt.lower mapping.userName = "email" ∨ MappingOpens rt claims mapping.userName
  name : MappingOpens rt claims mapping.name
  roles : literalRoles rt (claims.get mapping.roles) ≠ [] ∨ PathOpens rt claims mapping.roles

section External
variable {rt : Runtime} {claims : Fields} {mapping : String} {P : Exc → Prop}

theorem openClaim_ok_iff {v : Json} : (∃ opened, openClaim rt v = .ok opened) ↔ OpensText rt v := by
  unfold openClaim OpensText
  cases v with
  | str s =>
    dsimp only
    cases hloads : rt.loads s with
    | ok parsed =>
      refine ⟨fun _ s' e hs he => ?_, fun _ => ⟨some parsed, rfl⟩⟩
      cases hs
      cases hloads.symm.trans he
    | error e =>
      constructor
      · intro hsome s' e' hs he
        obtain ⟨opened, h⟩ := hsome
        cases hs
        cases hloads.symm.trans he
        cases e <;> first | rfl | cases h
      · intro h
        cases h s e rfl hloads
        exact ⟨none, rfl⟩
  | null | bool | int | float | arr | obj => simp

theorem openClaim_raises (hloads : ∀ s, RaisesOnly P (rt.loads s)) (v : Json) : RaisesOnly P (openClaim rt v) := by
  unfold openClaim
  split
  · split
    · exact raisesOnly_ok _
    · exact raisesOnly_ok _
    · rename_i e _ he
      exact raisesOnly_error.mpr (hloads _ e he)
  · exact raisesOnly_ok _

theorem pathOpens_split {first property : String} {rest : List String}
    (h : split '.' mapping = first :: property :: rest) :
    PathOpens rt claims mapping ↔ OpensText rt (claims.get first) := by
  unfold PathOpens
  rw [h]
  constructor
  · exact fun h => h first property rest rfl
  · intro hopens f p r he
    cases he
    exact hopens

theorem pathOpens_whole (h : ∀ first property rest, split '.' mapping ≠ first :: property :: rest) :
    PathOpens rt claims mapping :=
  fun first property rest hsplit => absurd hsplit (h first property rest)

theorem pathOpens_nil : PathOpens rt [] mapping := fun _ _ _ _ => nofun

theorem extractClaimValue_ok_iff :
    (∃ value, extractClaimValue rt claims mapping = .ok value) ↔
      mapping = "" ∨ claims.has mapping = true ∨ PathOpens rt claims mapping := by
  unfold extractClaimValue Fields.has
  by_cases hnone : (claims.isEmpty || mapping.isEmpty) = true
  · rw [if_pos hnone]
    refine ⟨fun _ => ?_, fun _ => ⟨_, rfl⟩⟩
    rcases Bool.or_eq_true_iff.mp hnone with hempty | hempty
    · rw [List.isEmpty_iff.mp hempty]
      exact .inr (.inr pathOpens_nil)
    · exact .inl (String.isEmpty_iff.mp hempty)
  · rw [if_neg hnone]
    have hmapping : mapping ≠ "" := by
      rintro rfl
      simp at hnone
    cases hlookup : claims.lookup mapping with
    | some value => simp
    | none =>
      simp only [hmapping, Option.isSome_none, Bool.false_eq_true, false_or]
      split
      · rename_i first property rest hsplit
        rw [pathOpens_split hsplit, ← openClaim_ok_iff]
        cases claims.get first with
        | null => exact ⟨fun _ => ⟨_, rfl⟩, fun _ => ⟨_, rfl⟩⟩
        | bool | int | float | arr | obj => exact ⟨fun _ => ⟨_, rfl⟩, fun _ => ⟨_, rfl⟩⟩
        | str s => exact returns_iff
      · rename_i hsplit
        exact ⟨fun _ => pathOpens_whole hsplit, fun _ => ⟨_, rfl⟩⟩

theorem resolveMappedClaim_ok_iff :
    (∃ value, resolveMappedClaim rt claims mapping = .ok value) ↔ MappingOpens rt claims mapping := by
  unfold resolveMappedClaim MappingOpens
  by_cases hblank : blank mapping = true
  · rw [if_pos hblank]
    exact ⟨fun _ => .inl hblank, fun _ => ⟨_, rfl⟩⟩
  · rw [if_neg hblank, extractClaimValue_ok_iff]
    have hmapping : mapping ≠ "" := ne_empty_of_not_blank (by simpa using hblank)
    simp [hblank, hmapping]

theorem extractRolesFromClaim_ok_iff :
    (∃ roles, extractRolesFromClaim rt claims mapping = .ok roles) ↔
      literalRoles rt (claims.get mapping) ≠ [] ∨ PathOpens rt claims mapping := by
  unfold extractRolesFromClaim
  by_cases hnone : (claims.isEmpty || mapping.isEmpty) = true
  · rw [if_pos hnone]
    refine ⟨fun _ => .inr ?_, fun _ => ⟨_, rfl⟩⟩
    rcases Bool.or_eq_true_iff.mp hnone with hempty | hempty
    · rw [List.isEmpty_iff.mp hempty]
      exact pathOpens_nil
    · rw [String.isEmpty_iff.mp hempty]
      exact pathOpens_whole nofun
  · rw [if_neg hnone]
    dsimp only
    cases hfound : literalRoles rt (claims.get mapping) with
    | cons role roles => simp
    | nil =>
      simp only [List.isEmpty_nil, Bool.not_true, Bool.false_eq_true, if_false, ne_eq, not_true_eq_false, false_or]
      split
      · rename_i first property rest hsplit
        rw [pathOpens_split hsplit, ← openClaim_ok_iff]
        exact returns_iff
      · rename_i hsplit
        exact ⟨fun _ => pathOpens_whole hsplit, fun _ => ⟨_, rfl⟩⟩

theorem extractClaimValue_raises (hloads : ∀ s, RaisesOnly P (rt.loads s)) : RaisesOnly P (extractClaimValue rt claims mapping) := by
  unfold extractClaimValue
  split
  · exact raisesOnly_ok _
  · split
    · exact raisesOnly_ok _
    · split
      · split
        · exact raisesOnly_ok _
        · exact (openClaim_raises hloads _).bind (fun _ => raisesOnly_ok _)
      · exact raisesOnly_ok _

theorem resolveMappedClaim_raises (hloads : ∀ s, RaisesOnly P (rt.loads s)) :
    RaisesOnly P (resolveMappedClaim rt claims mapping) := by
  unfold resolveMappedClaim
  split
  · exact raisesOnly_ok _
  · exact extractClaimValue_raises hloads

theorem extractRolesFromClaim_raises (hloads : ∀ s, RaisesOnly P (rt.loads s)) :
    RaisesOnly P (extractRolesFromClaim rt claims mapping) := by
  unfold extractRolesFromClaim
  dsimp only
  split
  · exact raisesOnly_ok _
  · split
    · exact raisesOnly_ok _
    · split
      · exact (openClaim_raises hloads _).bind (fun _ => raisesOnly_ok _)
      · exact raisesOnly_ok _

/-- A value taken as it is when the test holds, and looked up by its mapping when it does not. -/
theorem standard_ok_iff {T : Prop} [Decidable T] {v : Json} :
    (∃ value, (if T then .ok v else .str <$> resolveMappedClaim rt claims mapping : Except Exc Json) = .ok value) ↔
      T ∨ MappingOpens rt claims mapping := by
  rw [← resolveMappedClaim_ok_iff]
  by_cases hp : T
  · simp [hp]
  · simp only [hp, if_false, false_or]
    exact mapped_iff

theorem standard_raises {T : Prop} [Decidable T] {v : Json} (hloads : ∀ s, RaisesOnly P (rt.loads s)) :
    RaisesOnly P (if T then .ok v else .str <$> resolveMappedClaim rt claims mapping : Except Exc Json) := by
  split
  · exact raisesOnly_ok _
  · exact (resolveMappedClaim_raises hloads).map _

end External

section Mapped
variable {rt : Runtime} {claims : Fields} {provider : ThirdPartyJwtProvider} {P : Exc → Prop}

theorem mapThirdPartyClaims_raises (hloads : ∀ s, RaisesOnly P (rt.loads s)) :
    RaisesOnly P (mapThirdPartyClaims rt claims provider) := by
  unfold mapThirdPartyClaims
  dsimp only
  split
  · exact raisesOnly_ok _
  · apply (standard_raises hloads).bind
    intro subject
    apply (standard_raises hloads).bind
    intro email
    apply (standard_raises hloads).bind
    intro userName
    apply (resolveMappedClaim_raises hloads).bind
    intro displayName
    apply (extractRolesFromClaim_raises hloads).bind
    intro roles
    exact raisesOnly_ok _

/-- What a configured mapping gives, field by field. -/
theorem mapThirdPartyClaims_some {mapped : MappedClaims} (hconfigured : provider.claimsMapping.isConfigured = true) :
    mapThirdPartyClaims rt claims provider = .ok (some mapped) ↔
      mapSubject rt claims provider.claimsMapping = .ok mapped.subject ∧
        mapEmail rt claims provider.claimsMapping = .ok mapped.email ∧
        mapUserName rt claims provider.claimsMapping = .ok mapped.userName ∧
        resolveMappedClaim rt claims provider.claimsMapping.name = .ok mapped.displayName ∧
        extractRolesFromClaim rt claims provider.claimsMapping.roles = .ok mapped.roles := by
  unfold mapThirdPartyClaims
  simp only [hconfigured, Bool.not_true, Bool.false_eq_true, if_false, bind_ok_iff, pure_ok_iff, Option.some.injEq]
  constructor
  · rintro ⟨subject, h1, email, h2, userName, h3, displayName, h4, roles, h5, rfl⟩
    exact ⟨h1, h2, h3, h4, h5⟩
  · intro h
    obtain ⟨h1, h2, h3, h4, h5⟩ := h
    exact ⟨_, h1, _, h2, _, h3, _, h4, _, h5, rfl⟩

theorem mapThirdPartyClaims_ok_iff (hconfigured : provider.claimsMapping.isConfigured = true) :
    (∃ mapped, mapThirdPartyClaims rt claims provider = .ok (some mapped)) ↔
      MappingsOpen rt claims provider.claimsMapping := by
  simp only [mapThirdPartyClaims_some hconfigured]
  have huserId : (∃ v, mapSubject rt claims provider.claimsMapping = .ok v) ↔
      provider.claimsMapping.userId = "sub" ∨ MappingOpens rt claims provider.claimsMapping.userId := by
    rw [← beq_iff_eq]
    exact standard_ok_iff
  have hemail : (∃ v, mapEmail rt claims provider.claimsMapping = .ok v) ↔
      (standardEmail claims).truthy = true ∨ MappingOpens rt claims provider.claimsMapping.email := standard_ok_iff
  have huserName : (∃ v, mapUserName rt claims provider.claimsMapping = .ok v) ↔
      rt.lower provider.claimsMapping.userName = "email" ∨
        MappingOpens rt claims provider.claimsMapping.userName := by
    rw [← beq_iff_eq]
    exact standard_ok_iff
  constructor
  · intro hsome
    obtain ⟨mapped, h1, h2, h3, h4, h5⟩ := hsome
    exact ⟨huserId.mp ⟨_, h1⟩, hemail.mp ⟨_, h2⟩, huserName.mp ⟨_, h3⟩, resolveMappedClaim_ok_iff.mp ⟨_, h4⟩,
      extractRolesFromClaim_ok_iff.mp ⟨_, h5⟩⟩
  · intro h
    obtain ⟨subject, h1⟩ := huserId.mpr h.userId
    obtain ⟨email, h2⟩ := hemail.mpr h.email
    obtain ⟨userName, h3⟩ := huserName.mpr h.userName
    obtain ⟨displayName, h4⟩ := resolveMappedClaim_ok_iff.mpr h.name
    obtain ⟨roles, h5⟩ := extractRolesFromClaim_ok_iff.mpr h.roles
    exact ⟨⟨subject, email, userName, displayName, roles⟩, h1, h2, h3, h4, h5⟩

theorem mapThirdPartyClaims_none (hconfigured : provider.claimsMapping.isConfigured = false) :
    mapThirdPartyClaims rt claims provider = .ok none := by
  simp only [mapThirdPartyClaims, hconfigured]
  rfl

end Mapped

/-! ## The context of an external token -/

/-- With a tenant to be in, a subject is a text when there is one. -/
def SubjectFits (tenantId : Option String) (subject : Json) : Prop :=
  (∃ tenant, tenantId = some tenant ∧ blank tenant = false) → subject.truthy = true → ∃ s, subject = .str s

section Context
variable {rt : Runtime} {tenantId : Option String} {subject : Json} {organizationId : String} {roles : List String}
  {email userName displayName : Json} {domain uri : String}

theorem createThirdPartyContext_raises (h : SubjectFits tenantId subject) :
    RaisesOnly (fun e => e.isValueError = true)
      (createThirdPartyContext rt tenantId subject organizationId roles email userName displayName domain uri) := by
  have hvalidation : ∀ e, Exc.isValidation e → e.isValueError = true := by
    intro e he
    cases e with
    | validation field => rfl
    | _ => cases he
  unfold createThirdPartyContext
  split
  · exact raisesOnly_error.mpr rfl
  · rename_i tenant
    split
    · exact raisesOnly_error.mpr rfl
    · rename_i hblank
      split
      · exact raisesOnly_error.mpr rfl
      · rename_i htruthy
        obtain ⟨s, rfl⟩ := h ⟨tenant, rfl, by simpa using hblank⟩ (by simpa using htruthy)
        dsimp only
        split
        · exact raisesOnly_error.mpr rfl
        · exact (validate_raises _ _).mono hvalidation

/-- A subject that is a number, a list or an object has no `strip`. -/
theorem createThirdPartyContext_unfit (h : ¬ SubjectFits tenantId subject) :
    ∃ message, createThirdPartyContext rt tenantId subject organizationId roles email userName displayName domain uri =
      .error (.attributeError message) := by
  simp only [SubjectFits, Classical.not_imp] at h
  obtain ⟨⟨tenant, rfl, hblank⟩, htruthy, hno⟩ := h
  unfold createThirdPartyContext
  simp only [hblank, htruthy, Bool.false_eq_true, Bool.not_true, if_false]
  cases subject with
  | str s => exact absurd ⟨s, rfl⟩ hno
  | _ => exact ⟨_, rfl⟩

end Context

/-- The washed claims fit the mapping, and its subject the context. -/
structure ExternalFits (rt : Runtime) (tenantId : Option String) (claims : Fields)
    (mapping : ThirdPartyClaimsMapping) : Prop where
  opens : MappingsOpen rt claims mapping
  subject : mapping.userId = "sub" → SubjectFits tenantId (claims.get subjectClaim)

section Washed
variable {rt : Runtime} {tenantId domain : Option String} {uri : String} {claims : Fields}
  {provider : ThirdPartyJwtProvider}

theorem mapThirdPartyClaims_mapped {found : Option MappedClaims}
    (hconfigured : provider.claimsMapping.isConfigured = true)
    (h : mapThirdPartyClaims rt claims provider = .ok found) : ∃ mapped, found = some mapped := by
  unfold mapThirdPartyClaims at h
  simp only [hconfigured, Bool.not_true, Bool.false_eq_true, if_false, bind_ok_iff, pure_ok_iff] at h
  obtain ⟨_, _, _, _, _, _, _, _, _, _, rfl⟩ := h
  exact ⟨_, rfl⟩

/-- Only the standard subject claim gives a subject that may be no text. -/
theorem subjectFits_iff {mapping : ThirdPartyClaimsMapping} {subject : Json}
    (h : mapSubject rt claims mapping = .ok subject) :
    SubjectFits tenantId subject ↔ (mapping.userId = "sub" → SubjectFits tenantId (claims.get subjectClaim)) := by
  unfold mapSubject at h
  by_cases hsub : mapping.userId = "sub"
  · rw [if_pos (beq_iff_eq.mpr hsub)] at h
    cases h
    simp only [hsub, true_implies]
    unfold SubjectFits
    cases htruthy : (claims.get subjectClaim).truthy with
    | true => rw [Json.orElse_truthy htruthy, htruthy]
    | false => simp [Json.orElse_falsy htruthy]
  · rw [if_neg (fun he => hsub (beq_iff_eq.mp he))] at h
    obtain ⟨s, _, rfl⟩ := map_ok_iff.mp h
    exact ⟨fun _ he => absurd he hsub, fun _ _ _ => ⟨s, rfl⟩⟩

theorem externalContext_httpOnly_iff (hloads : ∀ s, NoHttp (rt.loads s)) :
    HttpOnly (externalContext rt tenantId domain uri claims provider) ↔
      (provider.claimsMapping.isConfigured = true →
        ExternalFits rt tenantId (stripReservedClaims claims) provider.claimsMapping) := by
  unfold externalContext
  dsimp only
  refine raisesOnly_bind.trans ((and_congr_left' (NoHttp.iff_ok (mapThirdPartyClaims_raises hloads))).trans ?_)
  cases hconfigured : provider.claimsMapping.isConfigured with
  | false =>
    rw [mapThirdPartyClaims_none hconfigured]
    refine ⟨fun _ => nofun, fun _ => ⟨⟨none, rfl⟩, ?_⟩⟩
    intro found hfound
    cases hfound
    exact httpOnly_http _ _
  | true =>
    simp only [true_implies]
    constructor
    · intro h
      obtain ⟨⟨found, hfound⟩, hrest⟩ := h
      obtain ⟨mapped, rfl⟩ := mapThirdPartyClaims_mapped hconfigured hfound
      refine ⟨(mapThirdPartyClaims_ok_iff hconfigured).mp ⟨mapped, hfound⟩, ?_⟩
      rw [← subjectFits_iff ((mapThirdPartyClaims_some hconfigured).mp hfound).1]
      have hcontext := hrest _ hfound
      apply Classical.byContradiction
      intro hunfit
      dsimp only at hcontext
      obtain ⟨message, he⟩ := @createThirdPartyContext_unfit rt _ _ provider.defaultOrganizationId mapped.roles
        mapped.email mapped.userName (.str mapped.displayName) (domain.getD "") uri hunfit
      rw [he] at hcontext
      exact raisesOnly_error.mp hcontext
    · intro hfits
      refine ⟨?_, ?_⟩
      · obtain ⟨mapped, hmapped⟩ := (mapThirdPartyClaims_ok_iff hconfigured).mpr hfits.opens
        exact ⟨some mapped, hmapped⟩
      · intro found hfound
        obtain ⟨mapped, rfl⟩ := mapThirdPartyClaims_mapped hconfigured hfound
        have hsubject := (subjectFits_iff ((mapThirdPartyClaims_some hconfigured).mp hfound).1).mpr hfits.subject
        have hraises := @createThirdPartyContext_raises rt _ _ provider.defaultOrganizationId mapped.roles
          mapped.email mapped.userName (.str mapped.displayName) (domain.getD "") uri hsubject
        dsimp only
        split
        · exact raisesOnly_ok _
        · rename_i e he
          rw [hraises e he]
          exact httpOnly_http _ _

end Washed

end BlocksGenesis.Auth
