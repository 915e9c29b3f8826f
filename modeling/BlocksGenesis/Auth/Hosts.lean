import Mathlib.Data.Bool.AllAny
import BlocksGenesis.Auth.Request
import BlocksGenesis.Python.Hostname

/-! The host a URL names, and a host that is read as a URL again. -/

namespace BlocksGenesis.Auth
open Python

/-! ## The origin check -/

def extractDomain (rt : Runtime) (url : String) : String :=
  if url.isEmpty then ""
  else match rt.hostname (if isIn "://" url then url else "//" ++ url) with
    | .ok (some host) => if host.isEmpty then normalizeDomain rt url else rt.lower host
    | _ => normalizeDomain rt url

def isValidOriginOrReferer (rt : Runtime) (request : Request) (tenant : Tenant) : Bool :=
  let allowed := (tenant.applications.filterMap (fun app => given app.domain)).map (extractDomain rt)
  let current := (given (some (extractDomain rt ((request.header "origin").getD "")))).getD
    (extractDomain rt ((request.header "referer").getD ""))
  current.isEmpty || isLocalhostHost rt current || allowed.contains current

/-! ## What `urlparse` finds, and what is cut out of the text -/

def candidate (url : String) : String := if isIn "://" url then url else "//" ++ url

/-- The host `urlparse` finds, if it finds one. -/
def parsedHost (rt : Runtime) (url : String) : Option String :=
  match rt.hostname (candidate url) with
  | .ok found => given found
  | .error _ => none

/-- The text before a `/` or `:`, once `https://` and `http://` are taken out of it. -/
def textHost (url : String) : String :=
  strip (before ':' (before '/' (remove "http://" (remove "https://" url))))

def loopbackNames : List String := ["localhost", "127.0.0.1", "::1"]

/-- A URL whose host stays as it is when it is read as a URL: the host `urlparse` finds has no colon, or,
where it finds none, it finds none in the text either, or that has no sign of a URL. -/
def Settled (rt : Runtime) (url : String) : Prop :=
  match parsedHost rt (strip url) with
  | some host => ':' ∉ host.toList
  | none => parsedHost rt (rt.lower (textHost (strip url))) = none ∨ Url.Plain (textHost (strip url)).toList

/-- `urlparse` finds a host as long as there is white space around the URL and none in the URL itself, and of that
host and the text that stands in for it one is a loopback name and the other is not. -/
def Astray (rt : Runtime) (url : String) : Prop :=
  ∃ host, parsedHost rt url = some host ∧ parsedHost rt (strip url) = none ∧
    ¬ (strip (before ':' (rt.lower (strip host))) ∈ loopbackNames ↔
      rt.lower (textHost (strip url)) ∈ loopbackNames)

/-- The runtime's host names are those of `urlsplit`. -/
structure ParsesHosts (rt : Runtime) (accepts : String → Bool) : Prop where
  lowers : LowersSigns rt.lower
  hostname : rt.hostname = Url.hostname ⟨rt.lower, accepts⟩

section Hosts
variable {rt : Runtime} {accepts : String → Bool} {url host text : String}

theorem parsedHost_some (h : parsedHost rt url = some host) : rt.hostname (candidate url) = .ok (some host) ∧ host ≠ "" := by
  unfold parsedHost at h
  split at h
  · rename_i found hfound
    rw [hfound, given_some h]
    exact ⟨rfl, given_ne_empty h⟩
  · cases h

theorem strip_eq_empty_iff : strip url = "" ↔ blank url = true := by
  rw [blank, String.isEmpty_iff]

/-- The host that is found, or what is cut out of the text. -/
theorem normalizeDomain_eq (h : ParsesHosts rt accepts) (url : String) : normalizeDomain rt url =
    match parsedHost rt (strip url) with
    | some host => rt.lower (strip host)
    | none => rt.lower (textHost (strip url)) := by
  unfold normalizeDomain
  split
  · rename_i hblank
    have hempty : strip url = "" := strip_eq_empty_iff.mpr hblank
    have hnone : parsedHost rt "" = none := by
      unfold parsedHost
      rw [h.hostname]
      rfl
    have htext : textHost "" = "" := by decide
    rw [hempty, hnone, htext]
    exact (h.lowers.plain (by simp)).symm
  · unfold parsedHost candidate
    dsimp only
    split
    · rename_i host hfound
      rw [hfound]
      dsimp only [given]
      split
      · rfl
      · rfl
    · rename_i hother
      cases hfound : rt.hostname (if isIn "://" (strip url) then strip url else "//" ++ strip url) with
      | error e => rfl
      | ok found =>
        cases found with
        | none => rfl
        | some host => exact absurd hfound (hother host)

theorem extractDomain_eq (rt : Runtime) (url : String) : extractDomain rt url =
    if url.isEmpty then "" else match parsedHost rt url with
      | some host => rt.lower host
      | none => normalizeDomain rt url := by
  unfold extractDomain
  split
  · rfl
  · unfold parsedHost candidate
    split
    · rename_i host hfound
      rw [hfound]
      dsimp only [given]
      split
      · rfl
      · rfl
    · rename_i hother
      cases hfound : rt.hostname (if isIn "://" url then url else "//" ++ url) with
      | error e => rfl
      | ok found =>
        cases found with
        | none => rfl
        | some host => exact absurd hfound (hother host)

/-- White space around a URL does not matter. -/
theorem normalizeDomain_strip (h : ParsesHosts rt accepts) (url : String) :
    normalizeDomain rt (strip url) = normalizeDomain rt url := by
  rw [normalizeDomain_eq h, normalizeDomain_eq h, strip_strip]

/-! ## A host that is read as a URL -/

/-- As a host comes out of `normalize_domain`. -/
structure Host (rt : Runtime) (text : String) : Prop where
  stripped : strip text = text
  lowered : rt.lower text = text

theorem lower_strip_host (h : ParsesHosts rt accepts) (text : String) : Host rt (rt.lower (strip text)) where
  stripped := by rw [h.lowers.strip, strip_strip]
  lowered := h.lowers.idempotent _

theorem lower_take (h : ParsesHosts rt accepts) (hlow : rt.lower text = text) (p : Char → Bool) :
    rt.lower (String.ofList (text.toList.takeWhile p)) = String.ofList (text.toList.takeWhile p) := by
  have hparts : String.ofList (text.toList.takeWhile p) ++ String.ofList (text.toList.dropWhile p) = text := by
    rw [← String.ofList_append, List.takeWhile_append_dropWhile, String.ofList_toList]
  rw [← hparts] at hlow
  exact (h.lowers.append.mp hlow).1

theorem textHost_of_no_slash (hslash : '/' ∉ text.toList) : textHost text = strip (before ':' text) := by
  have hpieces : '/' ∈ "https://".toList ∧ '/' ∈ "http://".toList := by decide
  rw [textHost, remove_of_not_mem hpieces.1 hslash, remove_of_not_mem hpieces.2 hslash, before_of_not_mem hslash]

theorem candidate_of_no_slash (hslash : '/' ∉ text.toList) : candidate text = "//" ++ text := by
  have hpiece : '/' ∈ "://".toList := by decide
  rw [candidate, isIn_false hpiece hslash, if_neg Bool.false_ne_true]

/-- Of a plain text all before its colon is the host, however it is read. -/
theorem normalizeDomain_plain (h : ParsesHosts rt accepts) (hhost : Host rt text) (hplain : Url.Plain text.toList) :
    normalizeDomain rt text = strip (before ':' text) := by
  have hslash : '/' ∉ text.toList := hplain.1 '/' List.mem_cons_self
  have hbefore : rt.lower (before ':' text) = before ':' text := lower_take h hhost.lowered _
  have hlow : rt.lower (strip (before ':' text)) = strip (before ':' text) := by
    rw [← h.lowers.strip, hbefore]
  have hzone : Url.lowerHost rt.lower (text.toList.takeWhile (· != ':')) = before ':' text := by
    have hpart := lower_take h hbefore (· != '%')
    rw [before, String.toList_ofList] at hpart
    rw [Url.lowerHost, hpart, ← String.ofList_append, List.takeWhile_append_dropWhile, before]
  have hfound : parsedHost rt text = none ∨ parsedHost rt text = some (before ':' text) := by
    unfold parsedHost
    rw [candidate_of_no_slash hslash, h.hostname]
    rcases @Url.hostname_slashes ⟨rt.lower, accepts⟩ text hplain with ⟨e, he⟩ | hok
    · rw [he]
      exact .inl rfl
    · rw [hok, hzone]
      dsimp only
      split
      · exact .inl rfl
      · unfold given
        dsimp only
        split
        · exact .inl rfl
        · exact .inr rfl
  rw [normalizeDomain_eq h, hhost.stripped]
  rcases hfound with hnone | hsome
  · rw [hnone, textHost_of_no_slash hslash]
    exact hlow
  · rw [hsome]
    exact hlow

theorem parsedHost_plain (h : ParsesHosts rt accepts) (hsome : parsedHost rt url = some host) :
    Url.Plain host.toList := by
  have hfound := (parsedHost_some hsome).1
  rw [h.hostname] at hfound
  exact Url.hostname_plain h.lowers hfound

/-- Nothing but letters changes between a text and its host. -/
theorem mem_lower_strip {c : Char} (h : ParsesHosts rt accepts) (hascii : c.toNat < 128) (hsign : c.isAlpha = false)
    (hm : c ∈ (rt.lower (strip text)).toList) : c ∈ text.toList :=
  mem_of_mem_strip ((h.lowers.signs hascii hsign).mp hm)

theorem plain_lower_strip (h : ParsesHosts rt accepts) (hplain : Url.Plain text.toList) :
    Url.Plain (rt.lower (strip text)).toList :=
  Url.plain_of_signs hplain (fun hascii hsign hm => mem_lower_strip h hascii hsign hm)

theorem strip_before_eq_iff (hhost : Host rt text) : strip (before ':' text) = text ↔ ':' ∉ text.toList := by
  constructor
  · intro he hm
    rw [← he] at hm
    exact not_mem_before ':' text (mem_of_mem_strip hm)
  · intro hno
    rw [before_of_not_mem hno, hhost.stripped]

theorem textHost_signs (url : String) : '/' ∉ (textHost url).toList ∧ ':' ∉ (textHost url).toList := by
  unfold textHost
  constructor
  · intro hm
    exact not_mem_before '/' _ (mem_of_mem_before (mem_of_mem_strip hm))
  · intro hm
    exact not_mem_before ':' _ (mem_of_mem_strip hm)

theorem textHost_host (h : ParsesHosts rt accepts) (url : String) : Host rt (rt.lower (textHost url)) := by
  unfold textHost
  exact lower_strip_host h _

/-- What is cut out of the text stays as it is unless a host is found in it that is less than all of it. -/
theorem normalizeDomain_textHost (h : ParsesHosts rt accepts) (url : String) :
    normalizeDomain rt (rt.lower (textHost url)) = rt.lower (textHost url) ↔
      parsedHost rt (rt.lower (textHost url)) = none ∨ Url.Plain (textHost url).toList := by
  have hhost := textHost_host h url
  have hkept : ∀ {c : Char}, c.toNat < 128 → c.isAlpha = false →
      (c ∈ (rt.lower (textHost url)).toList ↔ c ∈ (textHost url).toList) := h.lowers.signs
  have hcolon : ':' ∉ (rt.lower (textHost url)).toList := by
    rw [hkept (by decide) (by decide)]
    exact (textHost_signs url).2
  have hslash : '/' ∉ (rt.lower (textHost url)).toList := by
    rw [hkept (by decide) (by decide)]
    exact (textHost_signs url).1
  constructor
  · intro he
    rw [normalizeDomain_eq h, hhost.stripped] at he
    cases hfound : parsedHost rt (rt.lower (textHost url)) with
    | none => exact .inl rfl
    | some host =>
      right
      rw [hfound] at he
      have hplain := plain_lower_strip h (parsedHost_plain h hfound)
      dsimp only at he
      rw [he] at hplain
      exact Url.plain_of_signs hplain (fun hascii hsign hm => (hkept hascii hsign).mpr hm)
  · intro hsettled
    rcases hsettled with hnone | hplain
    · rw [normalizeDomain_eq h, hhost.stripped, hnone]
      dsimp only
      rw [textHost_of_no_slash hslash, before_of_not_mem hcolon, hhost.stripped, hhost.lowered]
    · have hplain' : Url.Plain (rt.lower (textHost url)).toList :=
        Url.plain_of_signs hplain (fun hascii hsign hm => (hkept hascii hsign).mp hm)
      rw [normalizeDomain_plain h hhost hplain']
      exact (strip_before_eq_iff hhost).mpr hcolon

theorem normalizeDomain_idempotent_iff (h : ParsesHosts rt accepts) (url : String) :
    normalizeDomain rt (normalizeDomain rt url) = normalizeDomain rt url ↔ Settled rt url := by
  rw [normalizeDomain_eq h url]
  unfold Settled
  cases hfound : parsedHost rt (strip url) with
  | none => exact normalizeDomain_textHost h (strip url)
  | some host =>
    have hhost := lower_strip_host h host
    dsimp only
    rw [normalizeDomain_plain h hhost (plain_lower_strip h (parsedHost_plain h hfound)), strip_before_eq_iff hhost,
      h.lowers.signs (by decide) (by decide), mem_strip_iff (by decide)]

/-! ## The origin host -/

theorem candidate_eq {text url : String} (hsame : isIn "://" url = isIn "://" text) : candidate url =
    (if isIn "://" text then url else "//" ++ url) := by
  rw [candidate, hsame]

/-- White space around a URL comes back around its host. -/
theorem parsedHost_padded {padded : String} (h : ParsesHosts rt accepts) (hsome : parsedHost rt (strip url) = some host)
    (hpadded : parsedHost rt url = some padded) : strip padded = strip host := by
  have haround : Padded (strip url).toList url.toList := by
    rw [strip, String.toList_ofList]
    exact padded_strip url.toList
  have hsame : isIn "://" url = isIn "://" (strip url) :=
    haround.isInChars (by decide) (List.all_iff_forall_prop.mp (by decide))
  have hhost := (parsedHost_some hsome).1
  have hhost' := (parsedHost_some hpadded).1
  rw [h.hostname, candidate] at hhost
  rw [h.hostname, candidate_eq hsame] at hhost'
  obtain ⟨parts, hparts, rfl⟩ := Url.hostname_some hhost
  obtain ⟨parts', hparts', hpadded'⟩ := Url.hostname_some hhost'
  have hnetloc : Padded parts.netloc parts'.netloc := by
    rw [Url.urlsplit_netloc hparts, Url.urlsplit_netloc hparts']
    split
    · rename_i hin
      have hcolon : ':' ∈ (strip url).toList := (isInChars_iff.mp hin).subset (by decide)
      rcases Url.netlocChars_padded hcolon haround with hnil | hnetloc
      · rw [if_pos hin] at hparts'
        have hempty : parts'.netloc = [] := (Url.urlsplit_netloc hparts').trans hnil
        rw [hempty] at hpadded'
        have hne := (parsedHost_some hpadded).2
        rw [hpadded'] at hne
        exact absurd ((Url.lowerHost_nil h.lowers)) hne
      · exact hnetloc
    · exact Url.netlocChars_slashes_padded haround
  rw [hpadded']
  exact Url.lowerHost_padded h.lowers (Url.hostChars_padded hnetloc)

theorem isLocalhostHost_iff (rt : Runtime) (host : String) :
    isLocalhostHost rt host = true ↔ normalizeDomain rt host ∈ loopbackNames := List.contains_iff_mem

theorem sameLoopback_iff (rt : Runtime) (host url : String) : isLocalhostHost rt host = isLocalhostHost rt url ↔
    (normalizeDomain rt host ∈ loopbackNames ↔ normalizeDomain rt url ∈ loopbackNames) := by
  rw [Bool.eq_iff_iff, isLocalhostHost_iff, isLocalhostHost_iff]

/-- The origin host is read to where `urlparse` found one around the white space, and else as the URL is. -/
theorem normalizeDomain_extractDomain (h : ParsesHosts rt accepts) (url : String) :
    normalizeDomain rt (extractDomain rt url) = match parsedHost rt url with
      | some host => strip (before ':' (rt.lower (strip host)))
      | none => normalizeDomain rt (normalizeDomain rt url) := by
  have hempty : normalizeDomain rt "" = "" := by
    unfold normalizeDomain
    rw [blank_empty, if_pos rfl]
  rw [extractDomain_eq]
  split
  · rename_i hurl
    have hnone : parsedHost rt "" = none := by
      unfold parsedHost
      rw [h.hostname]
      rfl
    rw [String.isEmpty_iff.mp hurl, hnone]
    dsimp only
    rw [hempty, hempty]
  · cases hfound : parsedHost rt url with
    | none => rfl
    | some host =>
      dsimp only
      rw [← normalizeDomain_strip h, h.lowers.strip]
      exact normalizeDomain_plain h (lower_strip_host h host) (plain_lower_strip h (parsedHost_plain h hfound))

/-- A settled URL that `urlparse` finds a host in, with and without white space, has one host. -/
theorem extractDomain_of_both (h : ParsesHosts rt accepts) (hsettled : Settled rt url) {padded : String}
    (hfound : parsedHost rt (strip url) = some host) (hpadded : parsedHost rt url = some padded) :
    normalizeDomain rt (extractDomain rt url) = normalizeDomain rt url := by
  rw [normalizeDomain_extractDomain h, hpadded, normalizeDomain_eq h url, hfound]
  dsimp only
  rw [parsedHost_padded h hfound hpadded, strip_before_eq_iff (lower_strip_host h host),
    h.lowers.signs (by decide) (by decide), mem_strip_iff (by decide)]
  unfold Settled at hsettled
  rw [hfound] at hsettled
  exact hsettled

/-- A host is the same host when it is read again, and a loopback host is one wherever it is read, for exactly
the URLs that are settled and not astray. -/
theorem host_read_again_iff (h : ParsesHosts rt accepts) (url : String) :
    (normalizeDomain rt (normalizeDomain rt url) = normalizeDomain rt url ∧
      isLocalhostHost rt (normalizeDomain rt url) = isLocalhostHost rt url ∧
      isLocalhostHost rt (extractDomain rt url) = isLocalhostHost rt url) ↔
    Settled rt url ∧ ¬ Astray rt url := by
  rw [sameLoopback_iff, sameLoopback_iff, normalizeDomain_idempotent_iff h]
  constructor
  · intro hread
    obtain ⟨hsettled, _, horigin⟩ := hread
    refine ⟨hsettled, fun hastray => ?_⟩
    obtain ⟨host, hpadded, hnone, hdiffer⟩ := hastray
    rw [normalizeDomain_extractDomain h, hpadded, normalizeDomain_eq h url, hnone] at horigin
    exact hdiffer horigin
  · intro hread
    obtain ⟨hsettled, hnear⟩ := hread
    have hsame := (normalizeDomain_idempotent_iff h url).mpr hsettled
    refine ⟨hsettled, by rw [hsame], ?_⟩
    cases hpadded : parsedHost rt url with
    | none => rw [normalizeDomain_extractDomain h, hpadded, hsame]
    | some padded =>
      cases hfound : parsedHost rt (strip url) with
      | some host => rw [extractDomain_of_both h hsettled hfound hpadded]
      | none =>
        by_contra hdiffer
        rw [normalizeDomain_extractDomain h, hpadded, normalizeDomain_eq h url, hfound] at hdiffer
        exact hnear ⟨padded, hpadded, hfound, hdiffer⟩

end Hosts

/-- A runtime whose host names are those of `urlsplit`. -/
def urlRuntime : Runtime :=
  { asciiRuntime with hostname := Url.hostname ⟨asciiRuntime.lower, fun _ => true⟩ }

theorem urlRuntime_parsesHosts : ParsesHosts urlRuntime (fun _ => true) := ⟨asciiRuntime_lowersSigns, rfl⟩

/-- Credentials, capitals, a port and a path around a host. -/
theorem host_read_again_localhost :
    normalizeDomain urlRuntime "https://me:pw@LocalHost:8443/app" = "localhost" ∧
      isLocalhostHost urlRuntime (normalizeDomain urlRuntime "https://me:pw@LocalHost:8443/app") =
        isLocalhostHost urlRuntime "https://me:pw@LocalHost:8443/app" ∧
      isLocalhostHost urlRuntime (extractDomain urlRuntime "https://me:pw@LocalHost:8443/app") =
        isLocalhostHost urlRuntime "https://me:pw@LocalHost:8443/app" := by
  have hfound : parsedHost urlRuntime (strip "https://me:pw@LocalHost:8443/app") = some "localhost" := by
    decide +kernel
  have hsettled : Settled urlRuntime "https://me:pw@LocalHost:8443/app" := by
    unfold Settled
    rw [hfound]
    decide
  have hnear : ¬ Astray urlRuntime "https://me:pw@LocalHost:8443/app" := by
    intro h
    obtain ⟨_, _, hnone, _⟩ := h
    rw [hfound] at hnone
    cases hnone
  have hread := (host_read_again_iff urlRuntime_parsesHosts "https://me:pw@LocalHost:8443/app").mpr ⟨hsettled, hnear⟩
  refine ⟨?_, hread.2⟩
  rw [normalizeDomain_eq urlRuntime_parsesHosts, hfound]
  decide

/-- An IPv6 host loses its brackets, and without them it is no host any more. -/
theorem bracketed_loopback_lost :
    ParsesHosts urlRuntime (fun _ => true) ∧
      normalizeDomain urlRuntime "http://[::1]:3000" = "::1" ∧ normalizeDomain urlRuntime "::1" = "" ∧
      isLocalhostHost urlRuntime "http://[::1]:3000" = true ∧
      isLocalhostHost urlRuntime (normalizeDomain urlRuntime "http://[::1]:3000") = false ∧
      isLocalhostHost urlRuntime (extractDomain urlRuntime "http://[::1]:3000") = false := by
  refine ⟨urlRuntime_parsesHosts, ?_⟩
  decide +kernel

end BlocksGenesis.Auth
