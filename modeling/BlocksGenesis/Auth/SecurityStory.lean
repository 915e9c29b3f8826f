import BlocksGenesis.Auth.SecurityLog

/-! What can be read off the `[Security]` channel: which tokens were refused, and why. -/

namespace BlocksGenesis.Auth.SecurityLog
open Python BlocksContext Telemetry

section Fallback
variable (providerName : ThirdPartyJwtProvider → String)

/-! ## What the fallback tells -/

/-- Why a token is not accepted by a provider. -/
def fallbackReasons : List String :=
  ["fallback_missing_tenant_config", "third_party_not_enabled", "fallback_no_token", "fallback_missing_tenant_context",
    "third_party_provider_store_missing", "third_party_no_providers_configured", "third_party_provider_unmatched",
    "third_party_provider_ambiguous", "third_party_algorithm_invalid", "third_party_key_source_missing",
    "third_party_secret_undecryptable", "third_party_certificate_unreadable", "fallback_validation_failed",
    "fallback_unhandled_exception"]

def SecurityEvent.IsReason (event : SecurityEvent) : Prop := event.eventName ∈ fallbackReasons

/-- One reason is told of what ends with nothing, and none of anything else. -/
inductive Explained {α : Type} : Telling (Option α) → Prop where
  | found (a : α) : Explained ⟨[], .ok (some a)⟩
  | missed (reason : SecurityEvent) : reason.IsReason → Explained ⟨[reason], .ok none⟩
  | raised (e : Exc) : Explained ⟨[], .error e⟩

section Told
variable {w : World} {now : Jwt.Micros} {token : String} {tenant : Tenant} {provider : ThirdPartyJwtProvider}
  {request : Request}

theorem decryptProviderSecret_explained (cipher purpose : String) :
    Explained (decryptProviderSecret w tenant provider cipher purpose) := by
  unfold decryptProviderSecret
  split
  · exact .missed _ (by simp [SecurityEvent.IsReason, fallbackReasons])
  · cases w.decrypt cipher tenant.tenantSalt with
    | error e => exact .raised e
    | ok plaintext =>
      rw [Told.bind_ok rfl]
      cases given plaintext with
      | some plaintext => exact .found plaintext
      | none => exact .missed _ (by simp [SecurityEvent.IsReason, fallbackReasons])

theorem certificateKey_explained (password : Option String) : Explained (certificateKey w provider password) := by
  have hread : ∀ bytes, Explained (readCertificate w provider password bytes) := by
    intro bytes
    unfold readCertificate
    split
    · exact .found _
    · exact .missed _ (by simp [SecurityEvent.IsReason, fallbackReasons, unparsedEvent])
  unfold certificateKey
  split
  · exact hread _
  · split
    · exact hread _
    · exact .missed _ (by simp [SecurityEvent.IsReason, fallbackReasons, unfetchedEvent])

theorem resolveCertificateKey_explained : Explained (resolveCertificateKey w tenant provider) := by
  unfold resolveCertificateKey
  split
  · exact certificateKey_explained none
  · have hsecret := @decryptProviderSecret_explained w tenant provider provider.publicCertificatePasswordCipher
      "certificate passphrase"
    generalize decryptProviderSecret w tenant provider provider.publicCertificatePasswordCipher
      "certificate passphrase" = secret at hsecret
    cases hsecret with
    | found password => exact certificateKey_explained (some password)
    | missed reason hreason => exact .missed reason hreason
    | raised e => exact .raised e

theorem resolveProviderKey_explained : Explained (resolveProviderKey w token tenant provider) := by
  unfold resolveProviderKey
  split
  · exact .missed _ (by simp [SecurityEvent.IsReason, fallbackReasons])
  split
  · split
    · exact .missed _ (by simp [SecurityEvent.IsReason, fallbackReasons])
    · have hsecret := @decryptProviderSecret_explained w tenant provider provider.signingSecretCipher "signing secret"
      generalize decryptProviderSecret w tenant provider provider.signingSecretCipher "signing secret" = secret
        at hsecret
      cases hsecret with
      | found plaintext => exact .found _
      | missed reason hreason => exact .missed reason hreason
      | raised e => exact .raised e
  split
  · cases w.jwksKey provider.jwksUrl token with
    | ok key => exact .found _
    | error e => exact .missed _ (by simp [SecurityEvent.IsReason, fallbackReasons])
  split
  · exact resolveCertificateKey_explained
  · exact .missed _ (by simp [SecurityEvent.IsReason, fallbackReasons])

/-- What a run of the fallback has told by its end. -/
inductive Story : Telling (Option ThirdPartyValidation × ThirdPartyProviderSelection) → Prop where
  | unselected (reason : SecurityEvent) (outcome : ThirdPartyProviderSelection) : reason.IsReason →
      Story ⟨[reason], .ok (none, outcome)⟩
  | unread (e : Exc) : Story ⟨[], .error e⟩
  | refused (provider : ThirdPartyJwtProvider) (count : Nat) (reason : SecurityEvent) : reason.IsReason →
      Story ⟨[selectedEvent providerName provider count, reason], .ok (none, .selected)⟩
  | failed (provider : ThirdPartyJwtProvider) (count : Nat) (e : Exc) :
      Story ⟨[selectedEvent providerName provider count], .error e⟩
  | accepted (v : ThirdPartyValidation) (count : Nat) :
      Story ⟨[selectedEvent providerName v.provider count, validatedEvent providerName v.provider],
        .ok (some v, .selected)⟩

theorem validateWithProvider_story (count : Nat) :
    Story providerName (validateWithProvider providerName w now token tenant request provider count) := by
  have hkey := @resolveProviderKey_explained w token tenant provider
  unfold validateWithProvider
  generalize resolveProviderKey w token tenant provider = key at hkey
  cases hkey with
  | missed reason hreason => exact .refused provider count reason hreason
  | raised e => exact .failed provider count e
  | found key =>
    rw [Told.tell_bind, Told.bind_ok rfl]
    cases hdecode : w.jwt.decode (fallbackCall provider key) now token with
    | error e =>
      simp only [hdecode]
      exact .refused provider count _ (by simp [SecurityEvent.IsReason, fallbackReasons])
    | ok claims =>
      simp only [hdecode]
      exact .accepted ⟨_, provider⟩ count

theorem narrow_outcome (matched : List ThirdPartyJwtProvider) (audiences : List Json) (headerKey : Option String) :
    (narrow matched audiences headerKey).provider ≠ none ∨
      (narrow matched audiences headerKey).outcome ≠ .selected := by
  unfold narrow
  dsimp only
  split
  · exact .inr nofun
  · exact .inl nofun
  · split
    · exact .inr nofun
    · split
      · exact .inr nofun
      · split
        · exact .inr nofun
        · exact .inl nofun

theorem select_outcome {providers : List ThirdPartyJwtProvider} {issuer : Json} {audiences : List Json}
    {headerKey : Option String} {selection : ThirdPartyProviderResult}
    (h : select providers issuer audiences headerKey = .ok selection) :
    selection.provider ≠ none ∨ selection.outcome ≠ .selected := by
  have habsent : (select.absent audiences headerKey providers).provider ≠ none ∨
      (select.absent audiences headerKey providers).outcome ≠ .selected := by
    unfold select.absent
    dsimp only
    split
    · exact .inr nofun
    · exact narrow_outcome _ _ _
  unfold select at h
  split at h
  · cases h
    exact .inr nofun
  split at h
  · cases h
    exact habsent
  split at h
  · split at h
    · cases h
      exact habsent
    · dsimp only at h
      split at h
      · cases h
        exact .inr nofun
      · cases h
        exact narrow_outcome _ _ _
  · cases h

theorem runFallback_story (tenant : Option Tenant) :
    Story providerName (runFallback providerName w now token tenant request) := by
  unfold runFallback
  cases tenant with
  | none => exact .unselected _ _ (by simp [SecurityEvent.IsReason, fallbackReasons])
  | some tenant =>
    dsimp only
    split
    · exact .unselected _ _ (by simp [SecurityEvent.IsReason, fallbackReasons])
    split
    · exact .unselected _ _ (by simp [SecurityEvent.IsReason, fallbackReasons])
    split
    · exact .unselected _ _ (by simp [SecurityEvent.IsReason, fallbackReasons])
    split
    · exact .unselected _ _ (by simp [SecurityEvent.IsReason, fallbackReasons])
    · rename_i rows _
      cases readTokenRouting w token with
      | error e => exact .unread e
      | ok routing =>
        obtain ⟨issuer, audiences⟩ := routing
        rw [Told.bind_ok rfl]
        dsimp only [Told.told_ofExcept]
        cases hselect : select (getActive rows tenant.tenantId) issuer audiences (request.header "x-blocks-idp") with
        | error e => exact .unread e
        | ok selection =>
          rw [Told.bind_ok rfl]
          dsimp only [Told.told_ofExcept]
          cases hprovider : selection.provider with
          | some provider => exact validateWithProvider_story providerName _
          | none =>
            rcases select_outcome hselect with hsome | houtcome
            · exact absurd hprovider hsome
            · dsimp only
              cases hout : selection.outcome with
              | selected => exact absurd hout houtcome
              | _ => exact .unselected _ _ (by simp [SecurityEvent.IsReason, fallbackReasons])

/-- A refusal: at most that a provider was selected is told before its reason. -/
def Refusal (told ending : List SecurityEvent) : Prop :=
  ∃ before reason, told = before ++ reason :: ending ∧ reason.IsReason ∧
    ∀ event ∈ before, event.eventName = "third_party_provider_selected"

/-- An everyday miss: the run of the fallback ends with it. -/
def Routine (w : World) (now : Jwt.Micros) (token : String) (tenant : Option Tenant) (request : Request) : Prop :=
  ∃ outcome ∈ routineMisses, Auth.runFallback w now token tenant request = .ok (none, outcome)

theorem Refusal.last {told ending : List SecurityEvent} (h : Refusal told ending) :
    ∃ reason, reason.IsReason ∧ told.getLast? = some (ending.getLast?.getD reason) := by
  obtain ⟨before, reason, rfl, hreason, _⟩ := h
  refine ⟨reason, hreason, ?_⟩
  cases ending with
  | nil => simp
  | cons event ending => simp [List.getLast?_cons]

theorem rejected_no_reason : ¬ rejectedEvent.IsReason := by
  simp [SecurityEvent.IsReason, fallbackReasons, rejectedEvent]

theorem validated_no_reason (provider : ThirdPartyJwtProvider) : ¬ (validatedEvent providerName provider).IsReason := by
  simp [SecurityEvent.IsReason, fallbackReasons, validatedEvent]

/-- What is told, beside what the providers say and whether it is an everyday miss. -/
inductive Ending (told : List SecurityEvent) (result : Option ThirdPartyValidation) (routine : Prop) : Prop where
  | accepted (v : ThirdPartyValidation) (count : Nat) :
      told = [selectedEvent providerName v.provider count, validatedEvent providerName v.provider] →
      result = some v → ¬ routine → Ending told result routine
  | missed : Refusal told [] → result = none → routine → Ending told result routine
  | rejected : Refusal told [rejectedEvent] → result = none → ¬ routine → Ending told result routine

theorem fallback_ending (w : World) (now : Jwt.Micros) (token : String) (tenant : Option Tenant) (request : Request) :
    Ending providerName (validateWithFallback providerName w now token tenant request).told
      (Auth.validateWithFallback w now token tenant request) (Routine w now token tenant request) := by
  have hsame := @runFallback_same providerName w now token request tenant
  have hstory := @runFallback_story providerName w now token request tenant
  have hdecided := @validateWithFallback_same providerName w now token request tenant
  unfold Routine
  rw [← hsame]
  unfold validateWithFallback at hdecided ⊢
  generalize runFallback providerName w now token tenant request = run at hstory hdecided
  -- What ends with an outcome of its own ends with no other.
  have hroutine : ∀ told result outcome, run = ⟨told, .ok (result, outcome)⟩ →
      (∃ missed ∈ routineMisses, run.result = .ok (none, missed)) → result = none ∧ outcome ∈ routineMisses := by
    rintro told result outcome rfl ⟨missed, hm, hsame⟩
    cases hsame
    exact ⟨rfl, hm⟩
  cases hstory with
  | unselected reason outcome hreason =>
    rw [closeFallback_ok] at hdecided ⊢
    have hnone := (Except.ok.inj hdecided).symm
    by_cases hmissed : outcome ∈ routineMisses
    · refine .missed ⟨[], reason, ?_, hreason, nofun⟩ hnone ⟨outcome, hmissed, rfl⟩
      simp [hmissed]
    · refine .rejected ⟨[], reason, ?_, hreason, nofun⟩ hnone (fun h => hmissed (hroutine _ _ _ rfl h).2)
      simp [hmissed]
  | unread e =>
    rw [closeFallback_error] at hdecided ⊢
    refine .rejected ⟨[], unhandledEvent e, rfl, ?_, nofun⟩ (Except.ok.inj hdecided).symm ?_
    · simp [SecurityEvent.IsReason, fallbackReasons, unhandledEvent]
    · rintro ⟨_, _, hended⟩
      cases hended
  | refused provider count reason hreason =>
    rw [closeFallback_ok] at hdecided ⊢
    refine .rejected ⟨[selectedEvent providerName provider count], reason, by simp [routineMisses], hreason, ?_⟩
      (Except.ok.inj hdecided).symm (fun h => nomatch (hroutine _ _ _ rfl h).2)
    simp [selectedEvent]
  | failed provider count e =>
    rw [closeFallback_error] at hdecided ⊢
    refine .rejected ⟨[selectedEvent providerName provider count], unhandledEvent e, rfl, ?_, ?_⟩
      (Except.ok.inj hdecided).symm ?_
    · simp [SecurityEvent.IsReason, fallbackReasons, unhandledEvent]
    · simp [selectedEvent]
    · rintro ⟨_, _, hended⟩
      cases hended
  | accepted v count =>
    rw [closeFallback_ok] at hdecided ⊢
    exact .accepted v count (by simp) (Except.ok.inj hdecided).symm
      (fun h => Option.some_ne_none v (hroutine _ _ _ rfl h).1)

/-- The channel tells the whole story of the providers' part. Of a token that one of them takes it tells twice, and
nothing else. A refusal has one reason, and ends there if it is an everyday miss, in a line of its own if not. -/
theorem fallback_reported (w : World) (now : Jwt.Micros) (token : String) (tenant : Option Tenant) (request : Request) :
    (validateWithFallback providerName w now token tenant request).result =
        .ok (Auth.validateWithFallback w now token tenant request) ∧
      ((∃ provider count, (validateWithFallback providerName w now token tenant request).told =
          [selectedEvent providerName provider count, validatedEvent providerName provider]) ↔
        (Auth.validateWithFallback w now token tenant request).isSome) ∧
      (Refusal (validateWithFallback providerName w now token tenant request).told [] ↔
        Routine w now token tenant request) ∧
      (Refusal (validateWithFallback providerName w now token tenant request).told [rejectedEvent] ↔
        Auth.validateWithFallback w now token tenant request = none ∧ ¬ Routine w now token tenant request) := by
  refine ⟨validateWithFallback_same providerName tenant, ?_⟩
  have hending := fallback_ending providerName w now token tenant request
  generalize (validateWithFallback providerName w now token tenant request).told = told at hending
  generalize Auth.validateWithFallback w now token tenant request = result at hending
  generalize Routine w now token tenant request = routine at hending
  -- The last event tells the three endings apart.
  have hvalidated : ∀ provider count ending, told = [selectedEvent providerName provider count,
      validatedEvent providerName provider] → ending = [] ∨ ending = [rejectedEvent] → ¬ Refusal told ending := by
    rintro provider count ending rfl hending hrefused
    obtain ⟨reason, hreason, hlast⟩ := hrefused.last
    rcases hending with rfl | rfl
    · cases hlast
      exact validated_no_reason providerName provider hreason
    · have hname := congrArg SecurityEvent.eventName (Option.some.inj hlast)
      simp [validatedEvent, rejectedEvent] at hname
  have hapart : ¬ (Refusal told [] ∧ Refusal told [rejectedEvent]) := by
    rintro ⟨hmissed, hrejected⟩
    obtain ⟨reason, hreason, hlast⟩ := hmissed.last
    obtain ⟨_, _, hlast'⟩ := hrejected.last
    cases hlast.symm.trans hlast'
    exact rejected_no_reason hreason
  cases hending with
  | accepted v count htold hsome hnot =>
    subst hsome
    refine ⟨⟨fun _ => rfl, fun _ => ⟨v.provider, count, htold⟩⟩, ⟨fun h => ?_, fun h => absurd h hnot⟩,
      ⟨fun h => ?_, ?_⟩⟩
    · exact absurd h (hvalidated v.provider count [] htold (.inl rfl))
    · exact absurd h (hvalidated v.provider count _ htold (.inr rfl))
    · rintro ⟨hnone, _⟩
      cases hnone
  | missed hrefused hnone hroutine =>
    subst hnone
    refine ⟨⟨fun ⟨provider, count, htold⟩ => ?_, nofun⟩, ⟨fun _ => hroutine, fun _ => hrefused⟩, ⟨fun h => ?_, ?_⟩⟩
    · exact absurd hrefused (hvalidated provider count [] htold (.inl rfl))
    · exact absurd ⟨hrefused, h⟩ hapart
    · rintro ⟨_, hnot⟩
      exact absurd hroutine hnot
  | rejected hrefused hnone hnot =>
    subst hnone
    refine ⟨⟨fun ⟨provider, count, htold⟩ => ?_, nofun⟩, ⟨fun h => ?_, fun h => absurd h hnot⟩,
      ⟨fun _ => ⟨rfl, hnot⟩, fun _ => hrefused⟩⟩
    · exact absurd hrefused (hvalidated provider count _ htold (.inr rfl))
    · exact absurd ⟨h, hrefused⟩ hapart

end Told

/-! ## What authentication tells -/

/-- Why a token is not accepted at all. -/
def reasons : List String :=
  fallbackReasons ++ ["token_expired", "authentication_failed", "third_party_claims_mapper_missing",
    "third_party_subject_missing"]

def Explains (told : List SecurityEvent) : Prop := ∃ event ∈ told, event.eventName ∈ reasons

/-- What raises tells why, or is one of these errors. -/
def Reported {α : Type} (silent : Exc → Prop) (m : Telling α) : Prop :=
  ∀ e, m.result = .error e → Explains m.told ∨ silent e

section Reported
variable {α β : Type} {silent : Exc → Prop}

theorem Reported.bind {m : Telling α} {f : α → Telling β} (h : Reported silent m)
    (hf : ∀ a, m.result = .ok a → Explains m.told ∨ Reported silent (f a)) : Reported silent (m >>= f) := by
  intro e he
  cases hm : m.result with
  | error e' =>
    rw [Told.bind_error hm] at he ⊢
    cases he
    exact h e hm
  | ok a =>
    rw [Told.bind_ok hm] at he ⊢
    have hkept : ∀ told, Explains told → told ⊆ m.told ++ (f a).told → Explains (m.told ++ (f a).told) :=
      fun told ⟨event, hm, hreason⟩ hsub => ⟨event, hsub hm, hreason⟩
    rcases hf a hm with htold | hrest
    · exact .inl (hkept _ htold (List.subset_append_left _ _))
    · rcases hrest e he with htold | hsilent
      · exact .inl (hkept _ htold (List.subset_append_right _ _))
      · exact .inr hsilent

theorem Reported.ofExcept {r : Except Exc α} (h : ∀ e, r = .error e → silent e) :
    Reported silent (Told.ofExcept r) := fun e he => .inr (h e he)

theorem Reported.raise {e : Exc} (h : silent e) : Reported silent (Told.raise e : Telling α) := by
  intro e' he
  cases he
  exact .inr h

theorem Reported.tells {event : SecurityEvent} {f : Unit → Telling α} (h : event.eventName ∈ reasons) :
    Reported silent (Told.tell event >>= f) := by
  intro e _
  rw [Told.tell_bind]
  exact .inl ⟨event, List.mem_cons_self, h⟩

end Reported

theorem Refusal.explains {told ending : List SecurityEvent} (h : Refusal told ending) : Explains told := by
  obtain ⟨before, reason, rfl, hreason, _⟩ := h
  exact ⟨reason, by simp, List.mem_append_left _ hreason⟩

/-- The errors of which nothing says why: there is no token or no tenant, the signer or its key cannot be had, and what
is made of claims that were accepted raises. -/
inductive Silent (w : World) (now : Jwt.Micros) (request : Request) (context : Option BlocksContext) : Exc → Prop where
  | noToken : given (extractTokenFromRequest w.runtime w.getTenant request context).token = none →
      Silent w now request context (.http 401 "Token missing")
  | noTenant : loadTenant w request context = none → Silent w now request context (.http 401 "Tenant not found")
  | signer {tenantId : String} {tenant : Tenant} {token : String} {e : Exc} :
      loadTenant w request context = some (tenantId, tenant) →
      resolveSigningTenant w token tenant tenantId = .error e → Silent w now request context e
  | unconfigured {tenantId : String} {tenant signer : Tenant} {token : String} :
      loadTenant w request context = some (tenantId, tenant) →
      resolveSigningTenant w token tenant tenantId = .ok signer → signer.jwtTokenParameters = none →
      Silent w now request context (.http 401 "Invalid tenant configuration")
  | key {tenantId : String} {tenant signer : Tenant} {token : String} {parameters : JwtTokenParameters} {e : Exc} :
      loadTenant w request context = some (tenantId, tenant) →
      resolveSigningTenant w token tenant tenantId = .ok signer → signer.jwtTokenParameters = some parameters →
      tenantKey w signer parameters = .error e → Silent w now request context e
  | decode {parameters : JwtTokenParameters} {key : VerificationKey} {token : String} {e : Exc} :
      w.jwt.decode (primaryCall parameters key) now token = .error e → e.isInvalidToken = false →
      Silent w now request context e
  | claims {v : Validated} {e : Exc} : Auth.authenticateToken w now request context = .ok v → v.provider = none →
      createFromJwtClaims w.runtime v.claims v.tenantId (v.applicationDomain.getD "") = .error e →
      Silent w now request context e
  | mapping {v : Validated} {provider : ThirdPartyJwtProvider} {e : Exc} :
      Auth.authenticateToken w now request context = .ok v → v.provider = some provider →
      Auth.mapThirdPartyClaims w.runtime (stripReservedClaims v.claims) provider = .error e →
      Silent w now request context e
  | created {v : Validated} {provider : ThirdPartyJwtProvider} {mapped : MappedClaims} {e : Exc} :
      Auth.authenticateToken w now request context = .ok v → v.provider = some provider →
      createThirdPartyContext w.runtime v.tenant.tenantId mapped.subject provider.defaultOrganizationId mapped.roles
        mapped.email mapped.userName (.str mapped.displayName) (v.applicationDomain.getD "") request.url = .error e →
      e.isValueError = false → Silent w now request context e

section Authentication
variable {w : World} {now : Jwt.Micros} {request : Request} {context : Option BlocksContext}

theorem validateJwtToken_reported {tenantId token : String} {tenant signer : Tenant}
    (hload : loadTenant w request context = some (tenantId, tenant))
    (hsigner : resolveSigningTenant w token tenant tenantId = .ok signer) :
    Reported (fun e => e.isInvalidToken = false → Silent w now request context e)
      (validateJwtToken w now token signer request) := by
  unfold validateJwtToken
  cases hparameters : signer.jwtTokenParameters with
  | none => exact .raise (fun _ => .unconfigured hload hsigner hparameters)
  | some parameters =>
    refine .bind (.ofExcept (fun e hkey _ => .key hload hsigner hparameters hkey)) (fun key _ => .inr ?_)
    cases hdecode : w.jwt.decode (primaryCall parameters key) now token with
    | ok claims => nofun
    | error e =>
      cases e with
      | expiredSignature => exact .tells (by simp [reasons])
      | _ => exact .raise (fun hquiet => .decode hdecode hquiet)

/-- A refusal by the primary validation is told of where it is the token's. -/
theorem primary_reported {tenantId token : String} {tenant signer : Tenant}
    (hload : loadTenant w request context = some (tenantId, tenant))
    (hsigner : resolveSigningTenant w token tenant tenantId = .ok signer) :
    Reported (Silent w now request context)
      ((validateJwtToken w now token signer request).handle primaryFailed) := by
  have hprimary := @validateJwtToken_reported w now request context _ _ _ _ hload hsigner
  intro e he
  cases hended : (validateJwtToken w now token signer request).result with
  | ok claims =>
    rw [Told.handle_ok hended, hended] at he
    cases he
  | error raised =>
    rw [Told.handle_error hended] at he ⊢
    dsimp only at he ⊢
    rw [primaryFailed_result] at he
    cases hinvalid : raised.isInvalidToken with
    | true =>
      left
      unfold primaryFailed
      rw [if_pos hinvalid]
      exact ⟨_, List.mem_append_right _ List.mem_cons_self, by simp [reasons]⟩
    | false =>
      rw [hinvalid] at he
      cases he
      rcases hprimary raised hended with ⟨event, hm, hreason⟩ | hsilent
      · exact .inl ⟨event, List.mem_append_left _ hm, hreason⟩
      · exact .inr (hsilent hinvalid)

theorem tryProviders_told {isThirdParty : Bool} {tenant : Tenant} {token : String}
    (h : (tryProviders providerName w now token isThirdParty tenant request).result = .ok none) :
    Explains (tryProviders providerName w now token isThirdParty tenant request).told ∨ isThirdParty = false := by
  have hending := fallback_ending providerName w now token (some tenant) request
  have hsame := @validateWithFallback_same providerName w now token request (some tenant)
  unfold tryProviders at h ⊢
  split
  · rename_i hasked
    rw [if_pos hasked, hsame] at h
    cases hending with
    | accepted v count _ hsome _ =>
      rw [Except.ok.inj h] at hsome
      cases hsome
    | missed hrefused _ _ => exact .inl hrefused.explains
    | rejected hrefused _ _ => exact .inl hrefused.explains
  · rename_i hasked
    right
    simp only [Bool.or_eq_true, not_or, Bool.not_eq_true] at hasked
    exact hasked.1

theorem validateAuthenticatedToken_reported {tenantId token : String} {tenant : Tenant} {isThirdParty : Bool}
    (hload : loadTenant w request context = some (tenantId, tenant)) :
    Reported (Silent w now request context)
      (validateAuthenticatedToken providerName w now token isThirdParty tenant tenantId request) := by
  have hproviders : ∀ e, (tryProviders providerName w now token isThirdParty tenant request).result ≠ .error e := by
    intro e he
    unfold tryProviders at he
    split at he
    · rw [validateWithFallback_same] at he
      cases he
    · cases he
  refine .bind (fun e he => absurd he (hproviders e)) (fun external hexternal => ?_)
  cases external with
  | some v => exact .inr nofun
  | none =>
    rcases tryProviders_told providerName hexternal with htold | hprimary
    · exact .inl htold
    · right
      subst hprimary
      refine .bind (.ofExcept (fun e he => .signer hload he)) (fun signer hsigner => .inr ?_)
      refine .bind (primary_reported hload hsigner) (fun claims _ => .inr nofun)

theorem authenticateToken_reported :
    Reported (Silent w now request context) (authenticateToken providerName w now request context) := by
  unfold authenticateToken
  dsimp only
  cases htoken : given (extractTokenFromRequest w.runtime w.getTenant request context).token with
  | none => exact .raise (.noToken htoken)
  | some token =>
    dsimp only
    cases hload : loadTenant w request context with
    | none => exact .raise (.noTenant hload)
    | some loaded =>
      refine .bind (validateAuthenticatedToken_reported providerName hload) (fun validated _ => .inr nofun)

theorem mapped_of_configured {rt : Runtime} {claims : Fields} {provider : ThirdPartyJwtProvider}
    (h : ¬ (!provider.claimsMapping.isConfigured) = true) :
    Auth.mapThirdPartyClaims rt claims provider ≠ .ok none := by
  intro hnone
  unfold Auth.mapThirdPartyClaims at hnone
  dsimp only at hnone
  rw [if_neg h] at hnone
  obtain ⟨_, _, hnone⟩ := bind_ok_iff.mp hnone
  obtain ⟨_, _, hnone⟩ := bind_ok_iff.mp hnone
  obtain ⟨_, _, hnone⟩ := bind_ok_iff.mp hnone
  obtain ⟨_, _, hnone⟩ := bind_ok_iff.mp hnone
  obtain ⟨_, _, hnone⟩ := bind_ok_iff.mp hnone
  cases hnone

/-- A mapping that is missing is told of. -/
theorem mapThirdPartyClaims_missing {rt : Runtime} {claims : Fields} {provider : ThirdPartyJwtProvider}
    (h : (mapThirdPartyClaims rt claims provider).result = .ok none) :
    Explains (mapThirdPartyClaims rt claims provider).told := by
  have hmissing : (!provider.claimsMapping.isConfigured) = true := by
    by_contra hconfigured
    exact mapped_of_configured hconfigured (mapThirdPartyClaims_same.symm.trans h)
  unfold mapThirdPartyClaims
  dsimp only
  rw [if_pos hmissing, Told.tell_bind]
  exact ⟨_, List.mem_cons_self, by simp [reasons]⟩

theorem createContext_reported {v : Validated} (h : Auth.authenticateToken w now request context = .ok v) :
    Reported (Silent w now request context) (createContext w request v) := by
  unfold createContext
  cases hprovider : v.provider with
  | none => exact .bind (.ofExcept (fun e he => .claims h hprovider he)) (fun stored _ => .inr nofun)
  | some provider =>
    unfold externalContext
    refine .bind (fun e he => .inr (.mapping h hprovider (mapThirdPartyClaims_same ▸ he))) (fun mapped hm => ?_)
    cases mapped with
    | none => exact .inl (mapThirdPartyClaims_missing hm)
    | some mapped =>
      right
      dsimp only
      cases hcreated : createThirdPartyContext w.runtime v.tenant.tenantId mapped.subject
          provider.defaultOrganizationId mapped.roles mapped.email mapped.userName (.str mapped.displayName)
          (v.applicationDomain.getD "") request.url with
      | ok stored => nofun
      | error e =>
        dsimp only
        split
        · exact .tells (by simp [reasons])
        · rename_i hvalue
          exact .raise (.created h hprovider hcreated (by simpa using hvalue))

theorem validateJwtToken_quiet {token : String} {tenant : Tenant} {claims : Fields}
    (h : (validateJwtToken w now token tenant request).result = .ok claims) :
    (validateJwtToken w now token tenant request).told = [] := by
  unfold validateJwtToken at h ⊢
  cases hparameters : tenant.jwtTokenParameters with
  | none =>
    rw [hparameters] at h
    cases h
  | some parameters =>
    rw [hparameters] at h
    dsimp only at h ⊢
    rw [Told.result_bind, Told.result_ofExcept] at h
    obtain ⟨key, hkey, h⟩ := bind_ok_iff.mp h
    rw [hkey, Told.bind_ok rfl]
    cases hdecode : w.jwt.decode (primaryCall parameters key) now token with
    | ok claims => simp
    | error e =>
      simp only [hdecode] at h
      cases e <;> cases h

/-- A validated token is told of by the providers alone. -/
theorem validateAuthenticatedToken_told {isThirdParty : Bool} {tenant : Tenant} {tenantId token : String}
    {claims : Fields} {provider : Option ThirdPartyJwtProvider}
    (h : (validateAuthenticatedToken providerName w now token isThirdParty tenant tenantId request).result =
      .ok (claims, provider)) :
    (validateAuthenticatedToken providerName w now token isThirdParty tenant tenantId request).told =
        (tryProviders providerName w now token isThirdParty tenant request).told ∧
      ∃ external, (tryProviders providerName w now token isThirdParty tenant request).result = .ok external ∧
        provider = external.map (·.provider) ∧ (external = none → isThirdParty = false) := by
  unfold validateAuthenticatedToken at h ⊢
  rw [Told.result_bind] at h
  obtain ⟨external, hexternal, h⟩ := bind_ok_iff.mp h
  rw [Told.bind_ok hexternal]
  cases external with
  | some v =>
    cases h
    exact ⟨List.append_nil _, _, hexternal, rfl, nofun⟩
  | none =>
    dsimp only at h ⊢
    cases isThirdParty with
    | true => cases h
    | false =>
      simp only [Bool.false_eq_true, if_false] at h ⊢
      rw [Told.result_bind, Told.result_ofExcept] at h
      obtain ⟨signer, hsigner, h⟩ := bind_ok_iff.mp h
      rw [Told.result_bind] at h
      obtain ⟨validated, hvalidated, h⟩ := bind_ok_iff.mp h
      cases h
      have hprimary : (validateJwtToken w now token signer request).result = .ok claims := by
        cases hended : (validateJwtToken w now token signer request).result with
        | ok validated => rwa [Told.handle_ok hended, hended] at hvalidated
        | error e =>
          rw [Told.handle_error hended] at hvalidated
          dsimp only at hvalidated
          rw [primaryFailed_result] at hvalidated
          cases hvalidated
      rw [hsigner, Told.bind_ok rfl, Told.handle_ok hprimary, Told.bind_ok hprimary, validateJwtToken_quiet hprimary]
      exact ⟨by simp, none, hexternal, by simp⟩

/-- What is told of a token by the time it is validated. -/
structure Heard (told : List SecurityEvent) (v : Validated) : Prop where
  external : ∀ provider, v.provider = some provider → ∃ count,
    told = [selectedEvent providerName provider count, validatedEvent providerName provider]
  unasked : v.provider = none → v.tenant.isThirdPartyJwtEnabled = false → told = []
  passed : v.provider = none → v.tenant.isThirdPartyJwtEnabled = true → Refusal told [] ∨ Refusal told [rejectedEvent]

theorem authenticateToken_heard {v : Validated}
    (h : (authenticateToken providerName w now request context).result = .ok v) :
    Heard providerName (authenticateToken providerName w now request context).told v := by
  unfold authenticateToken at h ⊢
  dsimp only at h ⊢
  cases htoken : given (extractTokenFromRequest w.runtime w.getTenant request context).token with
  | none =>
    rw [htoken] at h
    cases h
  | some token =>
    rw [htoken] at h
    dsimp only at h ⊢
    cases hload : loadTenant w request context with
    | none =>
      rw [hload] at h
      cases h
    | some loaded =>
      obtain ⟨tenantId, tenant⟩ := loaded
      rw [hload] at h
      dsimp only at h ⊢
      rw [Told.result_bind] at h
      obtain ⟨⟨claims, provider⟩, hvalidated, h⟩ := bind_ok_iff.mp h
      cases h
      rw [Told.bind_ok hvalidated]
      obtain ⟨htold, external, hexternal, hprovider, hown⟩ := validateAuthenticatedToken_told providerName hvalidated
      have hending := fallback_ending providerName w now token (some tenant) request
      have hsame := @validateWithFallback_same providerName w now token request (some tenant)
      dsimp only [Told.told_pure]
      rw [List.append_nil, htold]
      unfold tryProviders at hexternal ⊢
      split
      · rename_i hasked
        rw [if_pos hasked, hsame] at hexternal
        rw [Except.ok.inj hexternal] at hending
        cases hending with
        | accepted accepted count htold hsome _ =>
          rw [hsome] at hprovider
          refine ⟨fun provider hp => ?_, fun hp => ?_, fun hp => ?_⟩
          · cases hprovider.symm.trans hp
            exact ⟨count, htold⟩
          · cases hprovider.symm.trans hp
          · cases hprovider.symm.trans hp
        | missed hrefused hmissed _ =>
          rw [hmissed] at hprovider
          refine ⟨fun provider hp => ?_, fun _ hoff => ?_, fun _ _ => .inl hrefused⟩
          · cases hprovider.symm.trans hp
          rw [hown hmissed, show tenant.isThirdPartyJwtEnabled = false from hoff] at hasked
          cases hasked
        | rejected hrefused hmissed _ =>
          rw [hmissed] at hprovider
          refine ⟨fun provider hp => ?_, fun _ hoff => ?_, fun _ _ => .inr hrefused⟩
          · cases hprovider.symm.trans hp
          rw [hown hmissed, show tenant.isThirdPartyJwtEnabled = false from hoff] at hasked
          cases hasked
      · rename_i hasked
        rw [if_neg hasked] at hexternal
        cases hexternal
        simp only [Bool.or_eq_true, not_or, Bool.not_eq_true] at hasked
        refine ⟨fun provider hp => ?_, fun _ _ => rfl, fun _ hon => ?_⟩
        · cases hprovider.symm.trans hp
        rw [show tenant.isThirdPartyJwtEnabled = true from hon] at hasked
        cases hasked.2

/-! ## What the mapping tells -/

section Mapping
variable {rt : Runtime} {claims : Fields}

/-- The claim a mapping goes into, where its text is no JSON. -/
def unopened (rt : Runtime) (claims : Fields) (mapping : String) : Option String :=
  if claims.isEmpty || mapping.isEmpty || (claims.lookup mapping).isSome then none
  else match split '.' mapping with
    | first :: _ :: _ =>
      match claims.get first with
      | .str s =>
        match rt.loads s with
        | .error .jsonDecode => some first
        | _ => none
      | _ => none
    | _ => none

/-- What is told of a field that is looked up: that it has no mapping, or that its mapping leads nowhere. -/
def fieldEvents (rt : Runtime) (claims : Fields) (field mapping : String) : List SecurityEvent :=
  if blank mapping then [unmappedEvent field]
  else (unopened rt claims mapping).toList.map (invalidJsonEvent mapping) ++
    if (Auth.extractClaimValue rt claims mapping).toOption = some "" then [unresolvedEvent field mapping] else []

/-- A standard claim that is taken as it is tells nothing, and neither do the roles. -/
def mappedEvents (rt : Runtime) (claims : Fields) (mapping : ThirdPartyClaimsMapping) : List SecurityEvent :=
  (if mapping.userId == "sub" then [] else fieldEvents rt claims "UserId" mapping.userId) ++
    (if (standardEmail claims).truthy then [] else fieldEvents rt claims "Email" mapping.email) ++
    (if rt.lower mapping.userName == "email" then [] else fieldEvents rt claims "UserName" mapping.userName) ++
    fieldEvents rt claims "Name" mapping.name

theorem extractClaimValue_told (mapping : String) :
    (extractClaimValue rt claims mapping).told =
      (unopened rt claims mapping).toList.map (invalidJsonEvent mapping) := by
  unfold extractClaimValue unopened
  cases hgiven : (claims.isEmpty || mapping.isEmpty) with
  | true => rfl
  | false =>
    simp only [Bool.false_or, Bool.false_eq_true, if_false]
    cases claims.lookup mapping with
    | some value => rfl
    | none =>
      rcases split '.' mapping with _ | ⟨first, _ | ⟨property, rest⟩⟩
      · rfl
      · rfl
      simp only [Option.isSome_none, Bool.false_eq_true, if_false]
      cases claims.get first with
      | str s =>
        dsimp only
        unfold openClaim
        dsimp only
        cases rt.loads s with
        | ok v => rfl
        | error e => cases e <;> rfl
      | _ => rfl

theorem resolveMappedClaim_told (field mapping : String) :
    (resolveMappedClaim rt claims field mapping).told = fieldEvents rt claims field mapping := by
  unfold resolveMappedClaim fieldEvents
  split
  · rfl
  rw [← extractClaimValue_told, ← extractClaimValue_same]
  cases hvalue : (extractClaimValue rt claims mapping).result with
  | error e =>
    rw [Told.bind_error hvalue]
    exact (List.append_nil _).symm
  | ok value =>
    rw [Told.bind_ok hvalue]
    simp only [Except.toOption, Option.some.injEq, ← String.isEmpty_iff]
    split <;> rfl

theorem mapSubject_told (mapping : ThirdPartyClaimsMapping) : (mapSubject rt claims mapping).told =
    if mapping.userId == "sub" then [] else fieldEvents rt claims "UserId" mapping.userId := by
  unfold mapSubject
  split
  · rfl
  · rw [Told.told_map, resolveMappedClaim_told]

theorem mapEmail_told (mapping : ThirdPartyClaimsMapping) : (mapEmail rt claims mapping).told =
    if (standardEmail claims).truthy then [] else fieldEvents rt claims "Email" mapping.email := by
  unfold mapEmail
  split
  · rfl
  · rw [Told.told_map, resolveMappedClaim_told]

theorem mapUserName_told (mapping : ThirdPartyClaimsMapping) : (mapUserName rt claims mapping).told =
    if rt.lower mapping.userName == "email" then [] else fieldEvents rt claims "UserName" mapping.userName := by
  unfold mapUserName
  split
  · rfl
  · rw [Told.told_map, resolveMappedClaim_told]

theorem mapThirdPartyClaims_told {provider : ThirdPartyJwtProvider} {mapped : MappedClaims}
    (h : Auth.mapThirdPartyClaims rt claims provider = .ok (some mapped)) :
    (mapThirdPartyClaims rt claims provider).told =
      mappingEvent claims provider :: mappedEvents rt claims provider.claimsMapping := by
  rw [← mapThirdPartyClaims_same] at h
  unfold mapThirdPartyClaims at h ⊢
  dsimp only at h ⊢
  split
  · rename_i hmissing
    rw [if_pos hmissing, Told.tell_bind] at h
    cases h
  · rename_i hconfigured
    rw [if_neg hconfigured, Told.tell_bind] at h
    dsimp only at h
    rw [Told.result_bind] at h
    obtain ⟨subject, hsubject, h⟩ := bind_ok_iff.mp h
    rw [Told.result_bind] at h
    obtain ⟨email, hemail, h⟩ := bind_ok_iff.mp h
    rw [Told.result_bind] at h
    obtain ⟨userName, huserName, h⟩ := bind_ok_iff.mp h
    rw [Told.result_bind] at h
    obtain ⟨displayName, hdisplayName, h⟩ := bind_ok_iff.mp h
    rw [Told.result_bind] at h
    obtain ⟨roles, hroles, _⟩ := bind_ok_iff.mp h
    rw [Told.tell_bind, Told.bind_ok hsubject, Told.bind_ok hemail, Told.bind_ok huserName, Told.bind_ok hdisplayName,
      Told.bind_ok hroles]
    unfold mappedEvents
    rw [mapSubject_told, mapEmail_told, mapUserName_told, resolveMappedClaim_told, Told.told_ofExcept, Told.told_pure]
    simp only [List.append_assoc, List.append_nil]

end Mapping

/-- What is told of the mapping of a token that is taken from a provider. -/
def contextEvents (rt : Runtime) (claims : Fields) (provider : ThirdPartyJwtProvider) (context : BlocksContext)
    (mapped : MappedClaims) : List SecurityEvent :=
  mappingEvent claims provider :: mappedEvents rt claims provider.claimsMapping ++
    [createdEvent provider context mapped]

theorem createContext_told {v : Validated} {stored : Fields × BlocksContext}
    (h : (createContext w request v).result = .ok stored) :
    (v.provider = none → (createContext w request v).told = []) ∧
      ∀ provider, v.provider = some provider → ∃ mapped,
        Auth.mapThirdPartyClaims w.runtime (stripReservedClaims v.claims) provider = .ok (some mapped) ∧
          (createContext w request v).told =
            contextEvents w.runtime (stripReservedClaims v.claims) provider stored.2 mapped := by
  unfold createContext at h ⊢
  cases hprovider : v.provider with
  | none =>
    rw [hprovider] at h
    dsimp only at h ⊢
    rw [Told.result_bind, Told.result_ofExcept] at h
    obtain ⟨made, hmade, h⟩ := bind_ok_iff.mp h
    rw [hmade, Told.bind_ok rfl]
    refine ⟨fun _ => rfl, fun _ hsome => ?_⟩
    cases hsome
  | some provider =>
    rw [hprovider] at h
    refine ⟨nofun, fun chosen hchosen => ?_⟩
    cases hchosen
    unfold externalContext at h ⊢
    dsimp only at h ⊢
    rw [Told.result_bind] at h
    obtain ⟨mapped, hmapped, h⟩ := bind_ok_iff.mp h
    rw [Told.bind_ok hmapped]
    rw [mapThirdPartyClaims_same] at hmapped
    cases mapped with
    | none => cases h
    | some mapped =>
      refine ⟨mapped, hmapped, ?_⟩
      dsimp only at h ⊢
      rw [mapThirdPartyClaims_told hmapped]
      cases hcreated : createThirdPartyContext w.runtime v.tenant.tenantId mapped.subject
          provider.defaultOrganizationId mapped.roles mapped.email mapped.userName (.str mapped.displayName)
          (v.applicationDomain.getD "") request.url with
      | ok context =>
        rw [hcreated] at h
        cases h
        rfl
      | error e =>
        rw [hcreated] at h
        dsimp only at h
        split at h
        · cases h
        · cases h

/-- The channel tells the whole story of a request. Every refusal has its reason there, but for errors that are not the
token's. Of a token of a provider it tells of the provider that took it, of each field its mapping leaves empty and of
the context that was made, and of nothing else. Of a Blocks token it tells what the providers said of it, where the
tenant has opted in. -/
theorem authentication_reported (w : World) (now : Jwt.Micros) (request : Request) (context : Option BlocksContext) :
    (authenticatedContext providerName w now request context).result =
        (Auth.authenticateToken w now request context >>= Auth.createContext w request) ∧
      (∀ e, (Auth.authenticateToken w now request context >>= Auth.createContext w request) = .error e →
        Explains (authenticatedContext providerName w now request context).told ∨ Silent w now request context e) ∧
      ∀ v stored, Auth.authenticateToken w now request context = .ok v → Auth.createContext w request v = .ok stored →
        (∀ provider, v.provider = some provider → ∃ count mapped,
          Auth.mapThirdPartyClaims w.runtime (stripReservedClaims v.claims) provider = .ok (some mapped) ∧
            (authenticatedContext providerName w now request context).told =
              selectedEvent providerName provider count :: validatedEvent providerName provider ::
                contextEvents w.runtime (stripReservedClaims v.claims) provider stored.2 mapped) ∧
        (v.provider = none → v.tenant.isThirdPartyJwtEnabled = false →
          (authenticatedContext providerName w now request context).told = []) ∧
        (v.provider = none → v.tenant.isThirdPartyJwtEnabled = true →
          Refusal (authenticatedContext providerName w now request context).told [] ∨
            Refusal (authenticatedContext providerName w now request context).told [rejectedEvent]) := by
  have hsame := @authenticatedContext_same providerName w now request context
  refine ⟨hsame, fun e he => ?_, fun v stored hv hstored => ?_⟩
  · have hreported : Reported (Silent w now request context)
        (authenticatedContext providerName w now request context) := by
      refine .bind (authenticateToken_reported providerName) (fun v hv => .inr ?_)
      exact createContext_reported (authenticateToken_same providerName ▸ hv)
    exact hreported e (hsame.trans he)
  · rw [← authenticateToken_same providerName] at hv
    rw [← createContext_same] at hstored
    have hheard := authenticateToken_heard providerName hv
    obtain ⟨hown, hexternal⟩ := createContext_told hstored
    unfold authenticatedContext
    rw [Told.bind_ok hv]
    refine ⟨fun provider hp => ?_, fun hp hoff => ?_, fun hp hon => ?_⟩
    · obtain ⟨count, htold⟩ := hheard.external provider hp
      obtain ⟨mapped, hmapped, hcontext⟩ := hexternal provider hp
      refine ⟨count, mapped, hmapped, ?_⟩
      rw [htold, hcontext]
      rfl
    · rw [hheard.unasked hp hoff, hown hp]
      rfl
    · rw [hown hp, List.append_nil]
      exact hheard.passed hp hon

end Authentication

/-! ## What the channel does not show -/

/-- A cache that has the certificate. -/
def hit : Except Exc (Option Bytes) → Bool
  | .ok (some (_ :: _)) => true
  | _ => false

/-- Two worlds, each with a token and its tenant, that are alike in what is asked of them and how it ends. The tokens,
the salts, the secrets, the certificates and the claims may be any. -/
structure AlikeOutside (w w' : World) (now : Jwt.Micros) (token token' : String) (tenant tenant' : Tenant) : Prop where
  tenantId : tenant.tenantId = tenant'.tenantId
  enabled : tenant.isThirdPartyJwtEnabled = tenant'.isThirdPartyJwtEnabled
  salted : tenant.tenantSalt.isEmpty = tenant'.tenantSalt.isEmpty
  present : token.isEmpty = token'.isEmpty
  routed : readTokenRouting w token = readTokenRouting w' token'
  stored : w.providerStore = w'.providerStore
  decrypted : ∀ cipher, Told.Ends (fun plaintext plaintext' => (given plaintext).isSome = (given plaintext').isSome)
    (w.decrypt cipher tenant.tenantSalt) (w'.decrypt cipher tenant'.tenantSalt)
  signed : ∀ url, Told.Ends (fun _ _ => True) (w.jwksKey url token) (w'.jwksKey url token')
  cached : ∀ name, hit (w.cachedBytes name) = hit (w'.cachedBytes name)
  fetched : ∀ path, Told.Ends (fun _ _ => True) (w.fetchCertBytes path) (w'.fetchCertBytes path)
  opened : ∀ provider, Told.Ends (fun key key' => key.isSome = key'.isSome)
    (Auth.resolveCertificateKey w tenant provider) (Auth.resolveCertificateKey w' tenant' provider)
  decoded : ∀ provider key key', Auth.resolveProviderKey w token tenant provider = .ok (some key) →
    Auth.resolveProviderKey w' token' tenant' provider = .ok (some key') →
    Told.Ends (fun _ _ => True) (w.jwt.decode (fallbackCall provider key) now token)
      (w'.jwt.decode (fallbackCall provider key') now token')

section Blind
variable {w w' : World} {now : Jwt.Micros} {token token' : String} {tenant tenant' : Tenant} {request : Request}
  {provider : ThirdPartyJwtProvider}

theorem decryptProviderSecret_alike (h : AlikeOutside w w' now token token' tenant tenant') (cipher purpose : String) :
    Told.Alike (fun plaintext plaintext' => plaintext.isSome = plaintext'.isSome)
      (decryptProviderSecret w tenant provider cipher purpose)
      (decryptProviderSecret w' tenant' provider cipher purpose) := by
  unfold decryptProviderSecret
  rw [h.salted]
  split
  · exact .tell _ (.ret rfl)
  · refine .bind (.ofExcept (h.decrypted cipher)) (fun plaintext plaintext' _ _ hsame => ?_)
    cases hplain : given plaintext with
    | some text =>
      rw [hplain] at hsame
      obtain ⟨text', hplain'⟩ := Option.isSome_iff_exists.mp hsame.symm
      rw [hplain']
      exact .ret rfl
    | none =>
      rw [hplain] at hsame
      cases hplain' : given plaintext' with
      | some text' =>
        rw [hplain'] at hsame
        cases hsame
      | none => exact .tell _ (.ret rfl)

theorem readCertificate_eq (w : World) (provider : ThirdPartyJwtProvider) (password : Option String) (bytes : Bytes) :
    (∃ key, keyIn w password (some bytes) = some key ∧ readCertificate w provider password bytes = pure (some key)) ∨
      keyIn w password (some bytes) = none ∧ readCertificate w provider password bytes =
        (do Told.tell (unparsedEvent provider password.isSome); return none) := by
  unfold readCertificate
  cases bytes with
  | nil => exact .inr ⟨rfl, rfl⟩
  | cons byte bytes =>
    dsimp only [List.isEmpty_cons, keyIn]
    cases w.publicKey (byte :: bytes) password with
    | some pem => exact .inl ⟨_, rfl, rfl⟩
    | none => exact .inr ⟨rfl, rfl⟩

theorem readCertificate_alike {password password' : Option String} {bytes bytes' : Bytes}
    (hpassword : password.isSome = password'.isSome)
    (hkey : (keyIn w password (some bytes)).isSome = (keyIn w' password' (some bytes')).isSome) :
    Told.Alike (fun key key' => key.isSome = key'.isSome) (readCertificate w provider password bytes)
      (readCertificate w' provider password' bytes') := by
  rcases readCertificate_eq w provider password bytes with ⟨key, hread, he⟩ | ⟨hread, he⟩ <;>
    rcases readCertificate_eq w' provider password' bytes' with ⟨key', hread', he'⟩ | ⟨hread', he'⟩ <;>
    rw [hread, hread'] at hkey
  · rw [he, he']
    exact .ret rfl
  · cases hkey
  · cases hkey
  · rw [he, he', hpassword]
    exact .tell _ (.ret rfl)

/-- Where the certificate is looked for. -/
theorem certificateKey_eq (w : World) (provider : ThirdPartyJwtProvider) (password : Option String) :
    (∃ bytes, hit (w.cachedBytes ("tpprovcert::" ++ provider.tenantId ++ "::" ++ provider.key)) = true ∧
        providerCertificate w provider = some bytes ∧
        certificateKey w provider password = readCertificate w provider password bytes) ∨
      hit (w.cachedBytes ("tpprovcert::" ++ provider.tenantId ++ "::" ++ provider.key)) = false ∧
        ((∃ bytes, w.fetchCertBytes provider.publicCertificatePath = .ok bytes ∧
            providerCertificate w provider = some bytes ∧
            certificateKey w provider password = readCertificate w provider password bytes) ∨
          ∃ e, w.fetchCertBytes provider.publicCertificatePath = .error e ∧
            certificateKey w provider password =
              (do Told.tell (unfetchedEvent provider e); return none)) := by
  unfold certificateKey providerCertificate
  generalize w.cachedBytes ("tpprovcert::" ++ provider.tenantId ++ "::" ++ provider.key) = cached
  rcases cached with e | _ | _ | ⟨byte, bytes⟩
  case ok.some.cons => exact .inl ⟨_, rfl, rfl, rfl⟩
  -- Whatever else the cache answers, the certificate is fetched.
  all_goals
    refine .inr ⟨rfl, ?_⟩
    dsimp only
    cases w.fetchCertBytes provider.publicCertificatePath with
    | ok bytes => exact .inl ⟨bytes, rfl, rfl, rfl⟩
    | error e => exact .inr ⟨e, rfl, rfl⟩

theorem certificateKey_alike (h : AlikeOutside w w' now token token' tenant tenant')
    {password password' : Option String} (hpassword : password.isSome = password'.isSome)
    (hkey : (keyIn w password (providerCertificate w provider)).isSome =
      (keyIn w' password' (providerCertificate w' provider)).isSome) :
    Told.Alike (fun key key' => key.isSome = key'.isSome) (certificateKey w provider password)
      (certificateKey w' provider password') := by
  have hcached := h.cached ("tpprovcert::" ++ provider.tenantId ++ "::" ++ provider.key)
  have hfetched := h.fetched provider.publicCertificatePath
  rcases certificateKey_eq w provider password with
    ⟨bytes, hhit, hfound, he⟩ | ⟨hhit, ⟨bytes, hfetch, hfound, he⟩ | ⟨e, hfetch, he⟩⟩ <;>
    rcases certificateKey_eq w' provider password' with
      ⟨bytes', hhit', hfound', he'⟩ | ⟨hhit', ⟨bytes', hfetch', hfound', he'⟩ | ⟨e', hfetch', he'⟩⟩
  case inl.inl =>
    rw [hfound, hfound'] at hkey
    rw [he, he']
    exact readCertificate_alike hpassword hkey
  case inr.inl.inr.inl =>
    rw [hfound, hfound'] at hkey
    rw [he, he']
    exact readCertificate_alike hpassword hkey
  case inr.inr.inr.inr =>
    rw [hfetch, hfetch'] at hfetched
    cases hfetched
    rw [he, he']
    exact .tell _ (.ret rfl)
  case inr.inl.inr.inr | inr.inr.inr.inl =>
    rw [hfetch, hfetch'] at hfetched
    cases hfetched
  all_goals
    rw [hhit, hhit'] at hcached
    cases hcached

theorem resolveCertificateKey_alike (h : AlikeOutside w w' now token token' tenant tenant') :
    Told.Alike (fun key key' => key.isSome = key'.isSome) (resolveCertificateKey w tenant provider)
      (resolveCertificateKey w' tenant' provider) := by
  have hopened := h.opened provider
  rw [← resolveCertificateKey_same, ← resolveCertificateKey_same] at hopened
  unfold resolveCertificateKey at hopened ⊢
  split
  · rename_i hopen
    rw [if_pos hopen, if_pos hopen, certificateKey_same, certificateKey_same] at hopened
    cases hopened with
    | ok hkey => exact certificateKey_alike h rfl hkey
  · rename_i hclosed
    rw [if_neg hclosed, if_neg hclosed] at hopened
    refine .bind (decryptProviderSecret_alike h _ _) (fun password password' hp hp' hsame => ?_)
    rw [Told.bind_ok hp, Told.bind_ok hp'] at hopened
    cases password with
    | none =>
      cases password' with
      | none => exact .ret rfl
      | some _ => cases hsame
    | some password =>
      cases password' with
      | none => cases hsame
      | some password' =>
        dsimp only at hopened ⊢
        rw [certificateKey_same, certificateKey_same] at hopened
        cases hopened with
        | ok hkey => exact certificateKey_alike h rfl hkey

theorem resolveProviderKey_alike (h : AlikeOutside w w' now token token' tenant tenant') :
    Told.Alike (fun key key' => key.isSome = key'.isSome) (resolveProviderKey w token tenant provider)
      (resolveProviderKey w' token' tenant' provider) := by
  unfold resolveProviderKey
  split
  · exact .tell _ (.ret rfl)
  split
  · split
    · exact .tell _ (.ret rfl)
    · refine .bind (decryptProviderSecret_alike h _ _) (fun secret secret' _ _ hsame => .ret ?_)
      simpa using hsame
  split
  · have hsigned := h.signed provider.jwksUrl
    generalize w.jwksKey provider.jwksUrl token = key at hsigned
    generalize w'.jwksKey provider.jwksUrl token' = key' at hsigned
    cases hsigned with
    | ok _ => exact .ret rfl
    | error e => exact .tell _ (.ret rfl)
  split
  · exact resolveCertificateKey_alike h
  · exact .tell _ (.ret rfl)

theorem validateWithProvider_alike (h : AlikeOutside w w' now token token' tenant tenant') (count : Nat) :
    Told.Alike (fun ended ended' => ended.1.isSome = ended'.1.isSome ∧ ended.2 = ended'.2)
      (validateWithProvider providerName w now token tenant request provider count)
      (validateWithProvider providerName w' now token' tenant' request provider count) := by
  unfold validateWithProvider
  refine .tell _ (.bind (resolveProviderKey_alike h) (fun key key' hkey hkey' hsame => ?_))
  cases key with
  | none =>
    cases key' with
    | none => exact .ret ⟨rfl, rfl⟩
    | some _ => cases hsame
  | some key =>
    cases key' with
    | none => cases hsame
    | some key' =>
      have hdecoded := h.decoded provider key key' (resolveProviderKey_same.symm.trans hkey)
        (resolveProviderKey_same.symm.trans hkey')
      dsimp only
      generalize w.jwt.decode (fallbackCall provider key) now token = decoded at hdecoded
      generalize w'.jwt.decode (fallbackCall provider key') now token' = decoded' at hdecoded
      cases hdecoded with
      | ok _ => exact .tell _ (.ret ⟨rfl, rfl⟩)
      | error e => exact .tell _ (.ret ⟨rfl, rfl⟩)

theorem runFallback_alike (h : AlikeOutside w w' now token token' tenant tenant') :
    Told.Alike (fun ended ended' => ended.1.isSome = ended'.1.isSome ∧ ended.2 = ended'.2)
      (runFallback providerName w now token (some tenant) request)
      (runFallback providerName w' now token' (some tenant') request) := by
  unfold runFallback
  dsimp only
  rw [h.tenantId, h.enabled, h.present, h.stored, h.routed]
  split
  · exact .tell _ (.ret ⟨rfl, rfl⟩)
  split
  · exact .tell _ (.ret ⟨rfl, rfl⟩)
  split
  · exact .tell _ (.ret ⟨rfl, rfl⟩)
  split
  · exact .tell _ (.ret ⟨rfl, rfl⟩)
  · refine .bind (.ofExcept (.same _)) (fun routing routing' _ _ hrouting => ?_)
    subst hrouting
    obtain ⟨issuer, audiences⟩ := routing
    refine .bind (.ofExcept (.same _)) (fun selection selection' _ _ hselection => ?_)
    subst hselection
    dsimp only
    cases selection.provider with
    | some provider => exact validateWithProvider_alike providerName h selection.candidateCount
    | none =>
      dsimp only
      cases selection.outcome with
      | selected => exact .ret ⟨rfl, rfl⟩
      | _ => exact .tell _ (.ret ⟨rfl, rfl⟩)

/-- What the channel tells of a token never depends on the token, but for its issuer and audience, nor on a salt, a
secret, a passphrase, a certificate or a claim: it is the same for any of them that end the same steps alike, with the
same errors where they raise. -/
theorem fallback_blind (h : AlikeOutside w w' now token token' tenant tenant') :
    (validateWithFallback providerName w now token (some tenant) request).told =
      (validateWithFallback providerName w' now token' (some tenant') request).told := by
  have halike : Told.Alike (fun accepted accepted' => accepted.isSome = accepted'.isSome)
      (validateWithFallback providerName w now token (some tenant) request)
      (validateWithFallback providerName w' now token' (some tenant') request) := by
    unfold validateWithFallback closeFallback
    refine .bind (.handle (runFallback_alike providerName h) (fun e => .tell _ (.ret ⟨rfl, rfl⟩))) ?_
    rintro ⟨result, outcome⟩ ⟨result', outcome'⟩ _ _ ⟨hsame, houtcome⟩
    dsimp only at hsame houtcome ⊢
    subst houtcome
    have hnone : result.isNone = result'.isNone := by
      rw [← Option.not_isSome, ← Option.not_isSome, hsame]
    rw [hnone]
    split
    · exact .tell _ (.ret hsame)
    · exact .ret hsame
  exact halike.told

end Blind

end Fallback

/-- The same secret under another salt. -/
theorem fallback_blind_salt :
    (validateWithFallback (fun _ => "idp") (acmeWorld [("iss", .str "https://idp"), ("exp", .int 10)]) 0 "token"
        (some acmeTenant) {}).told =
      (validateWithFallback (fun _ => "idp") (acmeWorld [("iss", .str "https://idp"), ("exp", .int 10)]) 0 "token"
        (some { acmeTenant with tenantSalt := "pepper" }) {}).told := by
  have hends : ∀ {α : Type} (r : Except Exc α), Told.Ends (fun _ _ => True) r r := by
    intro α r
    cases r with
    | ok a => exact .ok trivial
    | error e => exact .error e
  refine fallback_blind (fun _ => "idp") ⟨rfl, rfl, rfl, rfl, rfl, rfl, fun _ => .ok rfl, fun _ => .ok trivial,
    fun _ => rfl, fun _ => .ok trivial, fun provider => ?_, fun provider key key' hkey hkey' => ?_⟩
  · have hsame : Auth.resolveCertificateKey (acmeWorld [("iss", .str "https://idp"), ("exp", .int 10)]) acmeTenant
        provider = Auth.resolveCertificateKey (acmeWorld [("iss", .str "https://idp"), ("exp", .int 10)])
          { acmeTenant with tenantSalt := "pepper" } provider := rfl
    rw [← hsame]
    cases Auth.resolveCertificateKey (acmeWorld [("iss", .str "https://idp"), ("exp", .int 10)]) acmeTenant
        provider with
    | ok key => exact .ok rfl
    | error e => exact .error e
  · have hsame : key = key' := Option.some.inj (Except.ok.inj (hkey.symm.trans hkey'))
    rw [hsame]
    exact hends _

end BlocksGenesis.Auth.SecurityLog
