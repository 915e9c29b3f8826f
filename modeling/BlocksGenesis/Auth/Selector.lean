import BlocksGenesis.Auth.Provider

namespace BlocksGenesis.Auth
open Python

inductive ThirdPartyProviderSelection where
  | selected
  | noProviders
  | issuerUnmatched
  | audienceUnmatched
  | ambiguousNoHeader
  | ambiguousHeaderUnmatched
  | issuerAbsentUnmatched
deriving DecidableEq, Repr

structure ThirdPartyProviderResult where
  provider : Option ThirdPartyJwtProvider
  outcome : ThirdPartyProviderSelection
  candidateCount : Nat
deriving DecidableEq

/-- An empty audience list disables the audience filter for that provider. -/
def audienceMatches (provider : ThirdPartyJwtProvider) (audiences : List Json) : Bool :=
  provider.audiences.isEmpty || audiences.any (fun a => a.inStrings provider.audiences)

def narrow (matched : List ThirdPartyJwtProvider) (audiences : List Json) (headerKey : Option String) :
    ThirdPartyProviderResult :=
  let candidates := matched.filter (fun p => audienceMatches p audiences)
  match candidates with
  | [] => ⟨none, .audienceUnmatched, matched.length⟩
  | [only] => ⟨some only, .selected, 1⟩
  | _ =>
    match headerKey with
    | none => ⟨none, .ambiguousNoHeader, candidates.length⟩
    | some key =>
      if blank key then ⟨none, .ambiguousNoHeader, candidates.length⟩
      else match candidates.find? (fun p => p.key == key) with
        | none => ⟨none, .ambiguousHeaderUnmatched, candidates.length⟩
        | some named => ⟨some named, .selected, candidates.length⟩

/-- Pick the provider a token belongs to. The issuer is what the token says, of any JSON
type: a truthy one that is not a string has no `strip`, which is an error. -/
def select (providers : List ThirdPartyJwtProvider) (issuer : Json) (audiences : List Json)
    (headerKey : Option String) : Except Exc ThirdPartyProviderResult :=
  if providers.isEmpty then .ok ⟨none, .noProviders, 0⟩
  else if !issuer.truthy then .ok (absent providers)
  else match issuer with
    | .str name =>
      if blank name then .ok (absent providers)
      else
        let byIssuer := providers.filter (fun p => p.issuer == name)
        if byIssuer.isEmpty then .ok ⟨none, .issuerUnmatched, 0⟩
        else .ok (narrow byIssuer audiences headerKey)
    | _ => .error (.attributeError "object has no attribute 'strip'")
where
  /-- A token that names no issuer only reaches a provider that declares none. -/
  absent (providers : List ThirdPartyJwtProvider) : ThirdPartyProviderResult :=
    let issuerless := providers.filter (fun p => blank p.issuer)
    if issuerless.isEmpty then ⟨none, .issuerAbsentUnmatched, 0⟩
    else narrow issuerless audiences headerKey

/-- A provider's issuer fits what a token says of its own: the same name for a token that
names one, none for a token that does not. -/
inductive IssuerFits : Json → String → Prop
  | absent {issuer : Json} {configured : String} (hf : issuer.truthy = false)
      (hb : blank configured = true) : IssuerFits issuer configured
  | blank {name configured : String} (hn : blank name = true) (hb : blank configured = true) :
      IssuerFits (.str name) configured
  | named {name : String} (hn : blank name = false) : IssuerFits (.str name) name

theorem IssuerFits.eq_of_named {issuer : Json} {configured name : String}
    (h : IssuerFits (issuer.orElse (.str "")) configured) (hn : issuer = .str name)
    (hb : Python.blank name = false) : configured = name := by
  have htr := Json.truthy_str (ne_empty_of_not_blank hb)
  rw [hn, Json.orElse_truthy htr] at h
  cases h with
  | absent hf _ => exact absurd hf (by simp [htr])
  | blank hn _ => exact absurd hn (by simp [hb])
  | named _ => rfl

theorem IssuerFits.blank_of_unnamed {issuer : Json} {configured : String}
    (h : IssuerFits (issuer.orElse (.str "")) configured)
    (hn : ∀ name, issuer = .str name → Python.blank name = true) : Python.blank configured = true := by
  generalize he : issuer.orElse (.str "") = routed at h
  cases h with
  | absent _ hb => exact hb
  | blank _ hb => exact hb
  | named hnb =>
    cases htr : issuer.truthy with
    | true => exact hn _ ((Json.orElse_truthy htr).symm.trans he)
    | false =>
      cases (Json.orElse_falsy htr).symm.trans he
      exact blank_empty

theorem narrow_mem {matched : List ThirdPartyJwtProvider} {audiences : List Json}
    {headerKey : Option String} {p : ThirdPartyJwtProvider}
    (h : (narrow matched audiences headerKey).provider = some p) :
    p ∈ matched ∧ audienceMatches p audiences = true := by
  suffices hm : p ∈ matched.filter (fun p => audienceMatches p audiences) from List.mem_filter.mp hm
  unfold narrow at h
  dsimp only at h
  split at h
  · simp at h
  · rename_i only he
    cases h
    rw [he]
    exact List.mem_singleton.mpr rfl
  · split at h
    · simp at h
    · split at h
      · simp at h
      · split at h
        · simp at h
        · rename_i named hf
          cases h
          exact List.mem_of_find?_eq_some hf

theorem absent_mem {providers : List ThirdPartyJwtProvider} {audiences : List Json}
    {headerKey : Option String} {p : ThirdPartyJwtProvider}
    (h : (select.absent audiences headerKey providers).provider = some p) :
    p ∈ providers ∧ blank p.issuer = true := by
  unfold select.absent at h
  dsimp only at h
  split at h
  · simp at h
  · have hm := List.mem_filter.mp (narrow_mem h).1
    exact ⟨hm.1, hm.2⟩

/-- A selected provider is a row, and its issuer fits the token's. -/
theorem select_sound {providers : List ThirdPartyJwtProvider} {issuer : Json} {audiences : List Json}
    {headerKey : Option String} {r : ThirdPartyProviderResult} {p : ThirdPartyJwtProvider}
    (h : select providers issuer audiences headerKey = .ok r) (hp : r.provider = some p) :
    p ∈ providers ∧ IssuerFits issuer p.issuer := by
  unfold select at h
  split at h
  · cases h
    simp at hp
  · split at h
    · rename_i ht
      cases h
      obtain ⟨hm, hb⟩ := absent_mem hp
      exact ⟨hm, .absent (by simpa using ht) hb⟩
    · split at h
      · rename_i name _
        split at h
        · rename_i hb
          cases h
          obtain ⟨hm, hi⟩ := absent_mem hp
          exact ⟨hm, .blank hb hi⟩
        · rename_i hb
          dsimp only at h
          split at h
          · cases h
            simp at hp
          · cases h
            obtain ⟨hm, hi⟩ := List.mem_filter.mp (narrow_mem hp).1
            have he : _ = name := beq_iff_eq.mp hi
            exact ⟨hm, he ▸ .named (by simpa [he] using hb)⟩
      · simp at h

end BlocksGenesis.Auth
