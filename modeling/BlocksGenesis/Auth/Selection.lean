import Mathlib.Data.List.Perm.Basic
import BlocksGenesis.Auth.Fallback
import BlocksGenesis.Python.Keyed

/-! The rule a provider is selected by, as a statement about the rows and not about their order. -/

namespace BlocksGenesis.Auth
open Python

/-- The issuer of a token as its payload gives it. -/
def issuerClaim (issuer : Option String) : Json := (issuer.map Json.str).getD .null

def NamesNobody (issuer : Option String) : Prop := ∀ name, issuer = some name → blank name = true

/-- The rows a token can reach by its issuer. A blank issuer is not a wildcard. -/
def Matched (issuer : Option String) (p : ThirdPartyJwtProvider) : Prop :=
  (NamesNobody issuer ∧ blank p.issuer = true) ∨ (¬ NamesNobody issuer ∧ issuer = some p.issuer)

/-- Of these the ones whose audiences are empty or meet the token's. -/
structure Candidate (issuer : Option String) (audiences : List Json) (p : ThirdPartyJwtProvider) : Prop where
  issuer : Matched issuer p
  audience : p.audiences = [] ∨ ∃ name ∈ p.audiences, Json.str name ∈ audiences

/-- The rule: the only candidate, or of several the one that is named. -/
structure Selects (providers : List ThirdPartyJwtProvider) (issuer : Option String) (audiences : List Json)
    (named : ThirdPartyJwtProvider → Prop) (p : ThirdPartyJwtProvider) : Prop where
  row : p ∈ providers
  candidate : Candidate issuer audiences p
  choice : (∀ q ∈ providers, Candidate issuer audiences q → q = p) ∨
    (∃ q ∈ providers, Candidate issuer audiences q ∧ q ≠ p) ∧ named p

/-- A header names the row with its key, unless it is blank. -/
def Names (header : Option String) (p : ThirdPartyJwtProvider) : Prop :=
  header = some p.key ∧ blank p.key = false

variable {providers others matched : List ThirdPartyJwtProvider} {issuer header : Option String}
  {audiences : List Json} {p q : ThirdPartyJwtProvider}

theorem audienceMatches_iff :
    audienceMatches p audiences = true ↔
      p.audiences = [] ∨ ∃ name ∈ p.audiences, Json.str name ∈ audiences := by
  unfold audienceMatches
  rw [Bool.or_eq_true, List.isEmpty_iff, List.any_eq_true]
  constructor
  · rintro (hempty | ⟨value, hm, hin⟩)
    · exact .inl hempty
    · cases value with
      | str name => exact .inr ⟨name, List.contains_iff_mem.mp hin, hm⟩
      | null | bool | int | float | arr | obj => cases hin
  · rintro (hempty | ⟨name, hname, hm⟩)
    · exact .inl hempty
    · exact .inr ⟨.str name, hm, List.contains_iff_mem.mpr hname⟩

/-! ## Narrowing -/

/-- Of several candidates the one the header names, if it names one. -/
theorem headerChoice_iff {candidates : List ThirdPartyJwtProvider}
    (hkeys : (candidates.map ThirdPartyJwtProvider.key).Nodup) (key : String) :
    (candidates.find? (fun p => p.key == key) = some p ∧ blank key = false) ↔
      p ∈ candidates ∧ Names (some key) p := by
  rw [found_iff_named hkeys]
  constructor
  · rintro ⟨⟨hm, rfl⟩, hblank⟩
    exact ⟨hm, rfl, hblank⟩
  · intro h
    obtain ⟨hm, hkey, hblank⟩ := h
    cases Option.some.inj hkey
    exact ⟨⟨hm, rfl⟩, hblank⟩

theorem several_of_two {first second : ThirdPartyJwtProvider} {rest : List ThirdPartyJwtProvider}
    (hkeys : ((first :: second :: rest).map ThirdPartyJwtProvider.key).Nodup) (p : ThirdPartyJwtProvider) :
    ∃ q ∈ first :: second :: rest, q ≠ p := by
  by_cases he : first = p
  · exact ⟨second, List.mem_cons_of_mem _ List.mem_cons_self, fun hs => ne_of_keys hkeys (he.trans hs.symm)⟩
  · exact ⟨first, List.mem_cons_self, he⟩

theorem narrow_iff {candidates : List ThirdPartyJwtProvider}
    (hc : matched.filter (fun p => audienceMatches p audiences) = candidates)
    (hkeys : (candidates.map ThirdPartyJwtProvider.key).Nodup) :
    (narrow matched audiences header).provider = some p ↔
      p ∈ candidates ∧ ((∀ q ∈ candidates, q = p) ∨ (∃ q ∈ candidates, q ≠ p) ∧ Names header p) := by
  unfold narrow
  rw [hc]
  match candidates with
  | [] => simp
  | [only] =>
    simp only [List.mem_singleton, Option.some.injEq, forall_eq, exists_eq_left]
    constructor
    · rintro rfl
      exact ⟨rfl, .inl rfl⟩
    · rintro ⟨rfl, _⟩
      rfl
  | first :: second :: rest =>
    have hseveral := several_of_two hkeys p
    have hnot : ¬ ∀ q ∈ first :: second :: rest, q = p := by
      obtain ⟨q, hq, hne⟩ := hseveral
      exact fun h => hne (h q hq)
    simp only [hnot, false_or, hseveral, true_and]
    cases header with
    | none => simp [Names]
    | some key =>
      rw [← headerChoice_iff hkeys]
      dsimp only
      cases hblank : blank key with
      | true => simp
      | false =>
        rw [if_neg Bool.false_ne_true]
        cases (first :: second :: rest).find? (fun p => p.key == key) <;> simp

theorem narrow_perm {matched' : List ThirdPartyJwtProvider} (hperm : matched'.Perm matched)
    (hkeys : (matched.map ThirdPartyJwtProvider.key).Nodup) :
    narrow matched' audiences header = narrow matched audiences header := by
  have hc := hperm.filter (fun p => audienceMatches p audiences)
  have hnodup : ((matched.filter (fun p => audienceMatches p audiences)).map ThirdPartyJwtProvider.key).Nodup :=
    hkeys.sublist (List.filter_sublist.map _)
  unfold narrow
  rw [hperm.length_eq]
  generalize matched.filter (fun p => audienceMatches p audiences) = candidates at hc hnodup
  generalize matched'.filter (fun p => audienceMatches p audiences) = candidates' at hc
  match candidates with
  | [] => rw [hc.eq_nil]
  | [only] => rw [List.perm_singleton.mp hc]
  | first :: second :: rest =>
    have hlength := hc.length_eq
    match candidates' with
    | [] => cases hlength
    | [only] => cases hlength
    | first' :: second' :: rest' =>
      dsimp only
      rw [hlength]
      cases header with
      | none => rfl
      | some key =>
        dsimp only
        rw [found_perm hc hnodup]

/-! ## Selecting -/

/-- The rows `select` narrows, for an issuer that is a string or not there. -/
def issuerRows (providers : List ThirdPartyJwtProvider) (issuer : Option String) : List ThirdPartyJwtProvider :=
  match issuer with
  | none => providers.filter (fun p => blank p.issuer)
  | some name =>
    if blank name then providers.filter (fun p => blank p.issuer) else providers.filter (fun p => p.issuer == name)

/-- Why nothing is narrowed. -/
def unmatched (issuer : Option String) : ThirdPartyProviderSelection :=
  match issuer with
  | none => .issuerAbsentUnmatched
  | some name => if blank name then .issuerAbsentUnmatched else .issuerUnmatched

theorem select_rows :
    select providers (issuerClaim issuer) audiences header =
      .ok (if providers = [] then ⟨none, .noProviders, 0⟩
        else if issuerRows providers issuer = [] then ⟨none, unmatched issuer, 0⟩
        else narrow (issuerRows providers issuer) audiences header) := by
  unfold select select.absent
  simp only [List.isEmpty_iff]
  by_cases hnone : providers = []
  · rw [if_pos hnone, if_pos hnone]
  · rw [if_neg hnone, if_neg hnone]
    cases issuer with
    | none => rfl
    | some name =>
      simp only [issuerClaim, Option.map_some, Option.getD_some, issuerRows, unmatched]
      by_cases hb : blank name = true
      · simp only [if_pos hb, ite_self]
      · have htr : Json.truthy (.str name) = true := Json.truthy_str (ne_empty_of_not_blank (by simpa using hb))
        simp only [if_neg hb, htr, Bool.not_true, Bool.false_eq_true, if_false]
        split <;> rfl

theorem mem_issuerRows : p ∈ issuerRows providers issuer ↔ p ∈ providers ∧ Matched issuer p := by
  unfold issuerRows Matched NamesNobody
  cases issuer with
  | none => simp
  | some name =>
    cases hb : blank name with
    | true => simp [hb]
    | false => simpa [hb] using fun _ => eq_comm

theorem issuerRows_sublist : (issuerRows providers issuer).Sublist providers := by
  unfold issuerRows
  cases issuer with
  | none => exact List.filter_sublist
  | some name =>
    dsimp only
    split <;> exact List.filter_sublist

theorem issuerRows_perm (hperm : others.Perm providers) :
    (issuerRows others issuer).Perm (issuerRows providers issuer) := by
  unfold issuerRows
  cases issuer with
  | none => exact hperm.filter _
  | some name =>
    dsimp only
    split <;> exact hperm.filter _

theorem issuerRows_keys (hkeys : (providers.map ThirdPartyJwtProvider.key).Nodup) :
    ((issuerRows providers issuer).map ThirdPartyJwtProvider.key).Nodup :=
  hkeys.sublist (issuerRows_sublist.map _)

theorem mem_candidates :
    p ∈ (issuerRows providers issuer).filter (fun p => audienceMatches p audiences) ↔
      p ∈ providers ∧ Candidate issuer audiences p := by
  rw [List.mem_filter, mem_issuerRows, audienceMatches_iff]
  exact ⟨fun h => ⟨h.1.1, h.1.2, h.2⟩, fun h => ⟨⟨h.1, h.2.issuer⟩, h.2.audience⟩⟩

theorem selects_iff (hkeys : (providers.map ThirdPartyJwtProvider.key).Nodup) :
    (narrow (issuerRows providers issuer) audiences header).provider = some p ↔
      Selects providers issuer audiences (Names header) p := by
  rw [narrow_iff rfl ((issuerRows_keys hkeys).sublist (List.filter_sublist.map _))]
  constructor
  · intro h
    obtain ⟨hm, hchoice⟩ := h
    obtain ⟨hrow, hcandidate⟩ := mem_candidates.mp hm
    refine ⟨hrow, hcandidate, ?_⟩
    rcases hchoice with honly | ⟨⟨q, hq, hne⟩, hnamed⟩
    · exact .inl (fun q hq hc => honly q (mem_candidates.mpr ⟨hq, hc⟩))
    · obtain ⟨hrow', hcandidate'⟩ := mem_candidates.mp hq
      exact .inr ⟨⟨q, hrow', hcandidate', hne⟩, hnamed⟩
  · intro h
    obtain ⟨hrow, hcandidate, hchoice⟩ := h
    refine ⟨mem_candidates.mpr ⟨hrow, hcandidate⟩, ?_⟩
    rcases hchoice with honly | ⟨⟨q, hq, hc, hne⟩, hnamed⟩
    · refine .inl (fun q hq => ?_)
      obtain ⟨hrow', hcandidate'⟩ := mem_candidates.mp hq
      exact honly q hrow' hcandidate'
    · exact .inr ⟨⟨q, mem_candidates.mpr ⟨hq, hc⟩, hne⟩, hnamed⟩

theorem issuerRows_outside {before after : List ThirdPartyJwtProvider} (hq : ¬ Matched issuer q) :
    issuerRows (before ++ q :: after) issuer = issuerRows (before ++ after) issuer := by
  have hout : q ∉ issuerRows [q] issuer := fun hm => hq (mem_issuerRows.mp hm).2
  revert hout
  unfold issuerRows
  have hfilter : ∀ test : ThirdPartyJwtProvider → Bool, q ∉ [q].filter test →
      (before ++ q :: after).filter test = (before ++ after).filter test := by
    intro test hout
    have htest : ¬ test q = true := fun ht => hout (List.mem_filter.mpr ⟨List.mem_cons_self, ht⟩)
    rw [List.filter_append, List.filter_append, List.filter_cons_of_neg htest]
  cases issuer with
  | none => exact hfilter _
  | some name =>
    dsimp only
    split <;> exact hfilter _

/-- What `select` gives is what the rule says of the rows, whatever their order and whatever rows the
issuer leaves out. -/
structure SelectsByRule (providers : List ThirdPartyJwtProvider) (issuer : Option String) (audiences : List Json)
    (header : Option String) (r : ThirdPartyProviderResult) : Prop where
  rule : ∀ p, r.provider = some p ↔ Selects providers issuer audiences (Names header) p
  order : ∀ others, others.Perm providers → select others (issuerClaim issuer) audiences header = .ok r
  outside : ∀ before q after, providers = before ++ after → ¬ Matched issuer q →
    ∃ r', select (before ++ q :: after) (issuerClaim issuer) audiences header = .ok r' ∧ r'.provider = r.provider
  inside : ∀ p, r.provider = some p → Candidate issuer audiences p

/-- What is selected is what the rows of the issuer narrow to, also where there are none. -/
theorem select_provider {r : ThirdPartyProviderResult}
    (h : select providers (issuerClaim issuer) audiences header = .ok r) :
    r.provider = (narrow (issuerRows providers issuer) audiences header).provider := by
  rw [select_rows] at h
  have hnarrow : ∀ {rows : List ThirdPartyJwtProvider}, rows = [] → (narrow rows audiences header).provider = none := by
    rintro rows rfl
    rfl
  have hr := Except.ok.inj h
  rw [← hr]
  split
  · rename_i hnone
    have hrows : issuerRows providers issuer = [] := List.sublist_nil.mp (hnone ▸ issuerRows_sublist)
    rw [hnarrow hrows]
  · split
    · rename_i hrows
      rw [hnarrow hrows]
    · rfl

theorem select_by_rule (providers : List ThirdPartyJwtProvider) (issuer : Option String) (audiences : List Json)
    (header : Option String) (hkeys : (providers.map ThirdPartyJwtProvider.key).Nodup) :
    ∃ r, select providers (issuerClaim issuer) audiences header = .ok r ∧
      SelectsByRule providers issuer audiences header r := by
  obtain ⟨r, hr⟩ : ∃ r, select providers (issuerClaim issuer) audiences header = .ok r := ⟨_, select_rows⟩
  have hrule : ∀ p, r.provider = some p ↔ Selects providers issuer audiences (Names header) p := by
    intro p
    rw [select_provider hr, selects_iff hkeys]
  refine ⟨r, hr, hrule, ?_, ?_, fun p hp => ((hrule p).mp hp).candidate⟩
  · intro others hperm
    have hrows := @issuerRows_perm _ _ issuer hperm
    have hempty : ∀ {l l' : List ThirdPartyJwtProvider}, l.Perm l' → (l = [] ↔ l' = []) := by
      intro l l' h
      rw [← List.length_eq_zero_iff, ← List.length_eq_zero_iff, h.length_eq]
    rw [← hr, select_rows, select_rows]
    simp only [hempty hperm, hempty hrows, narrow_perm hrows (issuerRows_keys hkeys)]
  · intro before q after hsplit hq
    refine ⟨_, select_rows, ?_⟩
    rw [select_provider select_rows, issuerRows_outside hq, ← hsplit, select_provider hr]

def secondProvider : ThirdPartyJwtProvider := { acmeProvider with key := "partner" }

theorem select_by_rule_named : ∃ r,
    select [acmeProvider, secondProvider] (issuerClaim (some "https://idp")) [] (some "partner") = .ok r ∧
      SelectsByRule [acmeProvider, secondProvider] (some "https://idp") [] (some "partner") r :=
  select_by_rule _ _ _ _ (by decide)

/-- A blank header names nobody, not even a row whose key is blank. -/
theorem blank_header_names_nobody : ¬ ∀ (providers : List ThirdPartyJwtProvider) (issuer : Option String)
    (audiences : List Json) (header : Option String), (providers.map ThirdPartyJwtProvider.key).Nodup →
    ∃ r, select providers (issuerClaim issuer) audiences header = .ok r ∧
      ∀ p, r.provider = some p ↔ Selects providers issuer audiences (fun p => header = some p.key) p := by
  intro h
  have hmatched : ∀ key, Candidate (some "https://idp") [] { acmeProvider with key } := by
    intro key
    refine ⟨.inr ⟨?_, rfl⟩, .inl rfl⟩
    intro hnobody
    exact absurd (hnobody _ rfl) (by decide)
  obtain ⟨r, hr, hrule⟩ := h [{ acmeProvider with key := "" }, acmeProvider] (some "https://idp") [] (some "") (by decide)
  have hnone : r.provider = none := by
    cases hr
    decide
  have hsome : r.provider = some { acmeProvider with key := "" } := by
    apply (hrule _).mpr
    refine ⟨List.mem_cons_self, hmatched "", .inr ⟨⟨acmeProvider, ?_, hmatched "idp", by decide⟩, rfl⟩⟩
    exact List.mem_cons_of_mem _ List.mem_cons_self
  cases hnone.symm.trans hsome

end BlocksGenesis.Auth
