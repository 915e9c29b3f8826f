import BlocksGenesis.Python.Lower
import BlocksGenesis.Tenants.TenantService

/-! Whether the lookup by domain finds the same tenant with a warm cache and with a cold one. -/

namespace BlocksGenesis.Tenants
open Python BlocksGenesis.Auth

/-! ## What a domain is compared by -/

section Normalize
variable {rt : Runtime} {domain : String}

theorem normalizeTenantDomain_suffix (rt : Runtime) (domain : String) :
    ∃ protocol, rt.lower (strip domain) = protocol ++ normalizeTenantDomain rt domain := by
  have hdrop : ∀ (n : Nat) (s : String), s = String.ofList (s.toList.take n) ++ dropChars n s := by
    intro n s
    rw [dropChars, ← String.ofList_append, List.take_append_drop, String.ofList_toList]
  unfold normalizeTenantDomain
  dsimp only
  split
  · exact ⟨_, hdrop 7 _⟩
  · split
    · exact ⟨_, hdrop 8 _⟩
    · exact ⟨"", (String.empty_append).symm⟩

theorem lower_normalized (hlower : Lowers rt.lower) :
    rt.lower (normalizeTenantDomain rt domain) = normalizeTenantDomain rt domain := by
  obtain ⟨protocol, hsuffix⟩ := normalizeTenantDomain_suffix rt domain
  have hlowered := hlower.idempotent (strip domain)
  rw [hsuffix] at hlowered
  exact (hlower.append.mp hlowered).2

/-- No white space is left at its end. -/
theorem normalized_last (hlower : Lowers rt.lower) {c : Char}
    (h : (normalizeTenantDomain rt domain).toList.getLast? = some c) : isSpace c = false := by
  obtain ⟨protocol, hsuffix⟩ := normalizeTenantDomain_suffix rt domain
  have hstripped : strip (rt.lower (strip domain)) = rt.lower (strip domain) := by
    rw [hlower.strip, strip_strip]
  rw [hsuffix] at hstripped
  have hchars := congrArg String.toList hstripped
  rw [strip, String.toList_ofList] at hchars
  apply @stripChars_last isSpace (protocol ++ normalizeTenantDomain rt domain).toList
  rw [hchars, String.toList_append, List.getLast?_append, h]
  rfl

/-- The spellings of a domain the database is asked for. -/
def spellings (normalized : String) : List String := ["http://" ++ normalized, "https://" ++ normalized]

theorem strip_spelling {protocol normalized : String} (hprotocol : protocol ∈ ["http://", "https://"])
    (hlast : ∀ c, normalized.toList.getLast? = some c → isSpace c = false) :
    strip (protocol ++ normalized) = protocol ++ normalized := by
  have hends : ∀ q ∈ ["http://", "https://"], (∀ c, q.toList.head? = some c → isSpace c = false) ∧
      (∀ c, q.toList.getLast? = some c → isSpace c = false) ∧ q.toList.head?.isSome = true := by
    simp only [List.forall_mem_cons]
    refine ⟨⟨?_, ?_, rfl⟩, ⟨?_, ?_, rfl⟩, nofun⟩ <;> (intro c hc; cases hc; rfl)
  obtain ⟨hhead, hslash, hsome⟩ := hends protocol hprotocol
  have hself : stripChars isSpace (protocol ++ normalized).toList = (protocol ++ normalized).toList := by
    rw [String.toList_append]
    refine stripChars_of_ends (fun c hc => ?_) (fun c hc => ?_)
    · obtain ⟨d, hd⟩ := Option.isSome_iff_exists.mp hsome
      rw [List.head?_append, hd] at hc
      exact Option.some.inj hc ▸ hhead d hd
    · rw [List.getLast?_append] at hc
      cases hlast' : normalized.toList.getLast? with
      | none =>
        rw [hlast'] at hc
        exact hslash c hc
      | some d =>
        rw [hlast'] at hc
        exact Option.some.inj hc ▸ hlast d hlast'
  rw [strip, hself, String.ofList_toList]

/-- Each of them is a spelling of that domain. -/
theorem normalize_spelling (hlower : Lowers rt.lower) {spelling : String}
    (h : spelling ∈ spellings (normalizeTenantDomain rt domain)) :
    normalizeTenantDomain rt spelling = normalizeTenantDomain rt domain := by
  have hnormal := @lower_normalized rt domain hlower
  have hlast : ∀ c, (normalizeTenantDomain rt domain).toList.getLast? = some c → isSpace c = false :=
    fun c hc => normalized_last hlower hc
  generalize normalizeTenantDomain rt domain = n at *
  have hplain : ∀ protocol ∈ ["http://", "https://"], rt.lower (strip (protocol ++ n)) = protocol ++ n := by
    intro protocol hprotocol
    rw [strip_spelling hprotocol hlast, hlower.append]
    refine ⟨hlower.plain ?_, hnormal⟩
    revert protocol
    simp
  unfold normalizeTenantDomain
  simp only [spellings, List.mem_cons, List.not_mem_nil, or_false] at h
  rcases h with rfl | rfl
  · rw [hplain _ (by simp)]
    simp [startsWith, dropChars]
  · rw [hplain _ (by simp)]
    simp [startsWith, dropChars]

/-- A tenant has the domain in one of these spellings, to the letter. -/
def SpelledOut (normalized : String) (tenant : Tenant) : Prop :=
  ∃ app ∈ tenant.applications, ∃ spelling ∈ spellings normalized, app.domain = some spelling

theorem SpelledOut.hasDomain (hlower : Lowers rt.lower) {tenant : Tenant}
    (h : SpelledOut (normalizeTenantDomain rt domain) tenant) :
    hasDomain rt (normalizeTenantDomain rt domain) tenant = true := by
  obtain ⟨app, happ, spelling, hspelling, hdomain⟩ := h
  have hsame := normalize_spelling hlower hspelling
  have hgiven : given (some spelling) = some spelling := by
    simp only [spellings, List.mem_cons, List.not_mem_nil, or_false] at hspelling
    rcases hspelling with rfl | rfl <;> simp [given]
  refine List.any_eq_true.mpr ⟨app, happ, ?_⟩
  rw [hdomain, hgiven]
  simp [hsame]

end Normalize

/-! ## One call -/

/-- The query of the lookup, for a normalized domain. -/
def inSpellings (normalized : String) (document : TenantDocument) : Bool :=
  document.tenant.applications.any (fun app =>
    app.domain == some ("http://" ++ normalized) || app.domain == some ("https://" ++ normalized))

theorem inSpellings_iff {normalized : String} {document : TenantDocument} :
    inSpellings normalized document = true ↔ SpelledOut normalized document.tenant := by
  simp [inSpellings, SpelledOut, spellings]

/-- What a call of `get_tenant_by_domain` returns when the database answers and nothing else happens. -/
def lookupByDomain (rt : Runtime) (s : State) (domain : String) : Option Copy :=
  let caller := s.callers.length
  let called := getTenantByDomain rt s domain
  let finished := ((answerByDomain called caller false).bind (finishByDomain · caller)).getD called
  match finished.callers[caller]? with
  | some (.returned result) => result
  | _ => none

section Call
variable {rt : Runtime} {s : State} {domain : String}

/-- The cache first, the database when it holds no such tenant. -/
theorem lookupByDomain_eq (rt : Runtime) (s : State) (domain : String) :
    lookupByDomain rt s domain =
      if blank domain then none
      else match s.cache.find? (fun entry => hasDomain rt (normalizeTenantDomain rt domain) entry.2.tenant) with
        | some entry => some entry.2
        | none => findOne s (inSpellings (normalizeTenantDomain rt domain)) := by
  unfold lookupByDomain getTenantByDomain
  dsimp only
  by_cases hblank : blank domain = true
  · simp [hblank, answerByDomain]
  · simp only [hblank, Bool.false_eq_true, if_false]
    cases s.cache.find? (fun entry => hasDomain rt (normalizeTenantDomain rt domain) entry.2.tenant) with
    | some entry => simp [answerByDomain]
    | none =>
      simp only [answerByDomain, finishByDomain, List.getElem?_concat_length, Option.bind_some, Option.getD_some,
        Bool.false_eq_true, if_false, List.set_append_right, Nat.le_refl, Nat.sub_self, List.set_cons_zero]
      rfl

end Call

/-! ## Warm and cold -/

/-- No two tenants share a domain up to trimming, case and protocol. -/
def OneTenantPerDomain (rt : Runtime) (database : List TenantDocument) : Prop :=
  ∀ document ∈ database, ∀ other ∈ database, ∀ normalized, hasDomain rt normalized document.tenant = true →
    hasDomain rt normalized other.tenant = true → document = other

/-- The cache holds tenants of the collection. -/
def FromCollection (s : State) : Prop :=
  ∀ entry ∈ s.cache, ∃ document ∈ s.database, document.parses = true ∧ document.tenant = entry.2.tenant

/-- The lookup gives the tenant it gives with an empty cache, or none as it does. -/
def SameAsCold (rt : Runtime) (s : State) (domain : String) : Prop :=
  (lookupByDomain rt s domain).map Copy.tenant =
    (lookupByDomain rt { s with cache := [] } domain).map Copy.tenant

section Warmth
variable {rt : Runtime} {s : State} {domain : String}

theorem lookupByDomain_cold (hblank : blank domain = false) :
    lookupByDomain rt { s with cache := [] } domain = findOne s (inSpellings (normalizeTenantDomain rt domain)) := by
  rw [lookupByDomain_eq, hblank]
  rfl

/-- The database finds a tenant that is spelled out in it. -/
theorem findOne_spelled (hlower : Lowers rt.lower) (hunique : OneTenantPerDomain rt s.database)
    {document : TenantDocument} (hdocument : document ∈ s.database) (hparses : document.parses = true)
    (hspelled : SpelledOut (normalizeTenantDomain rt domain) document.tenant) :
    (findOne s (inSpellings (normalizeTenantDomain rt domain))).map Copy.tenant = some document.tenant := by
  have hsome := List.find?_isSome.mpr ⟨document, hdocument, inSpellings_iff.mpr hspelled⟩
  obtain ⟨found, hfound⟩ := Option.isSome_iff_exists.mp hsome
  have hspelled' := inSpellings_iff.mp (List.find?_some hfound)
  have hsame : found = document := by
    apply hunique found (List.mem_of_find?_eq_some hfound) document hdocument (normalizeTenantDomain rt domain)
    · exact hspelled'.hasDomain hlower
    · exact hspelled.hasDomain hlower
  rw [findOne, hfound, hsame]
  simp [hparses]

theorem spelled_of_findOne {copy : Copy} (h : findOne s (inSpellings (normalizeTenantDomain rt domain)) = some copy) :
    ∃ document ∈ s.database, SpelledOut (normalizeTenantDomain rt domain) document.tenant := by
  obtain ⟨document, hfound, _⟩ := Option.bind_eq_some_iff.mp h
  exact ⟨document, List.mem_of_find?_eq_some hfound, inSpellings_iff.mp (List.find?_some hfound)⟩

/-- A warm cache finds a domain in any spelling, the database in its own two only: they agree where the cached
tenant of the domain has it in one of the two. -/
theorem domain_lookup_iff (hlower : Lowers rt.lower) (hunique : OneTenantPerDomain rt s.database)
    (hcache : FromCollection s) :
    SameAsCold rt s domain ↔
      blank domain = true ∨ ∀ entry ∈ s.cache, hasDomain rt (normalizeTenantDomain rt domain) entry.2.tenant = true →
        SpelledOut (normalizeTenantDomain rt domain) entry.2.tenant := by
  unfold SameAsCold
  cases hblank : blank domain with
  | true =>
    refine ⟨fun _ => .inl rfl, fun _ => ?_⟩
    rw [lookupByDomain_eq, lookupByDomain_eq, hblank]
    rfl
  | false =>
    rw [lookupByDomain_cold hblank, lookupByDomain_eq, hblank]
    simp only [Bool.false_eq_true, if_false, false_or]
    cases hfind : s.cache.find? (fun entry => hasDomain rt (normalizeTenantDomain rt domain) entry.2.tenant) with
    | none =>
      refine ⟨fun _ entry hentry hdomain => ?_, fun _ => rfl⟩
      exact absurd hdomain (List.find?_eq_none.mp hfind entry hentry)
    | some entry =>
      have hentry := List.mem_of_find?_eq_some hfind
      have hdomain := List.find?_some hfind
      obtain ⟨document, hdocument, hparses, htenant⟩ := hcache entry hentry
      dsimp only [Option.map_some]
      constructor
      · intro hsame other hother hdomain'
        obtain ⟨document', hdocument', _, htenant'⟩ := hcache other hother
        obtain ⟨copy, hcopy, hcopied⟩ := Option.map_eq_some_iff.mp hsame.symm
        obtain ⟨found, hfound, hspelled⟩ := spelled_of_findOne hcopy
        have hothers : found = document' := by
          apply hunique found hfound document' hdocument' _ (hspelled.hasDomain hlower)
          rw [htenant']
          exact hdomain'
        rw [← htenant', ← hothers]
        exact hspelled
      · intro hspelled
        have hcold := hspelled entry hentry hdomain
        rw [← htenant] at hcold
        rw [findOne_spelled hlower hunique hdocument hparses hcold, htenant]

end Warmth

/-! ### A domain with a capital -/

def cachedAcme (domain : String) : State where
  database := [⟨"acme", { tenantId := some "acme", applications := [⟨some domain⟩] }, true⟩]
  cache := [(some "acme", ⟨{ tenantId := some "acme", applications := [⟨some domain⟩] }, none⟩)]

theorem cachedAcme_unique (domain : String) : OneTenantPerDomain asciiRuntime (cachedAcme domain).database := by
  intro document hdocument other hother normalized _ _
  rw [List.mem_singleton.mp hdocument, List.mem_singleton.mp hother]

theorem cachedAcme_fromCollection (domain : String) : FromCollection (cachedAcme domain) := by
  intro entry hentry
  rw [List.mem_singleton.mp hentry]
  exact ⟨_, List.mem_cons_self, rfl, rfl⟩

theorem domain_lookup_iff_acme :
    SameAsCold asciiRuntime (cachedAcme "https://acme.io") "acme.io" ↔
      blank "acme.io" = true ∨ ∀ entry ∈ (cachedAcme "https://acme.io").cache,
        hasDomain asciiRuntime (normalizeTenantDomain asciiRuntime "acme.io") entry.2.tenant = true →
        SpelledOut (normalizeTenantDomain asciiRuntime "acme.io") entry.2.tenant :=
  domain_lookup_iff asciiRuntime_lowers (cachedAcme_unique _) (cachedAcme_fromCollection _)

/-- The cache knows Acme.io, the database is not asked for it. -/
theorem capital_only_when_warm :
    ¬ ∀ (rt : Runtime) (s : State) (domain : String), Lowers rt.lower → OneTenantPerDomain rt s.database →
      FromCollection s → SameAsCold rt s domain := by
  intro hall
  have hsame := hall asciiRuntime (cachedAcme "https://Acme.io") "acme.io" asciiRuntime_lowers
    (cachedAcme_unique _) (cachedAcme_fromCollection _)
  revert hsame
  unfold SameAsCold
  decide

end BlocksGenesis.Tenants
