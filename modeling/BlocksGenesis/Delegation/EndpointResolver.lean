import BlocksGenesis.Asyncio.Standing
import BlocksGenesis.Auth.Request
import BlocksGenesis.Machine.Run
import BlocksGenesis.Machine.Slots
import BlocksGenesis.Python.Dict
import BlocksGenesis.Python.Url

/-! Where IAM's token endpoint is: the tenant's discovery document, or the address that is configured. -/

namespace BlocksGenesis.Delegation.EndpointResolver
open Python BlocksGenesis.Auth Asyncio Function

/-! ## Settings -/

def frontendRuntimeSection : String := "FrontendRuntime"

def iamBaseUrlKey : String := "BLOCKS_IAM_BASE_URL"

def iamTokenEndpointKey : String := "BLOCKS_IAM_TOKEN_ENDPOINT"

/-- The environment, and the configurations if they are loaded. -/
structure Settings where
  env : String → Option String := fun _ => none
  configurations : Option Fields := none

def settingText : Json → Option String
  | .str s => if blank s then none else some (strip s)
  | _ => none

/-- A section by its name, empty if there is none. -/
def sectionOf (configurations : Fields) (name : String) : Fields :=
  match configurations.get name with
  | .obj fields => fields
  | _ => []

/-- Environment variable, then the `FrontendRuntime` section, then the configuration root. -/
def resolveSetting (settings : Settings) (key : String) : Option String :=
  match (settings.env key).filter (fun value => !blank value) with
  | some value => some (strip value)
  | none =>
    match settings.configurations with
    | none => none
    | some configurations =>
      (settingText ((sectionOf configurations frontendRuntimeSection).get key)).or
        (settingText (configurations.get key))

/-! ## Discovery -/

/-- How a discovery request ends: it raises, or there is a status and a body that is read as JSON
or not. -/
inductive Discovery where
  | raised (e : Exc)
  | answered (status : Int) (body : Except Exc Json)

def discoveryUrl (base tenantId : String) : String :=
  String.ofList (base.toList.rdropWhile (· == '/')) ++ "/" ++ tenantId ++ "/.well-known/openid-configuration"

/-- The endpoint a document names. Only what is before this stands in the `try`. -/
def readDocument (lib : Url.Library) (document : Json) : Except Exc (Option String) :=
  match document.orElse (.obj []) with
  | .obj fields =>
    match Fields.get fields "token_endpoint" with
    | .str endpoint => do
      let parsed ← Url.urlsplit lib endpoint
      return if parsed.scheme.isEmpty || parsed.netloc.isEmpty then none else some endpoint
    | _ => .ok none
  | _ => .error (.attributeError "object has no attribute 'get'")

def readDiscovery (lib : Url.Library) : Discovery → Except Exc (Option String)
  | .raised _ => .ok none
  | .answered status body =>
    if status ≠ 200 then .ok none
    else match body with
      | .error _ => .ok none
      | .ok document => readDocument lib document

def fallback (settings : Settings) (tenantId : String) : Except Exc String :=
  match resolveSetting settings iamTokenEndpointKey with
  | some configured => .ok configured
  | none => .error (.runtimeError ("OIDC discovery failed for tenant '" ++ tenantId ++ "' and '" ++ iamTokenEndpointKey ++
      "' is not configured. Refusing to guess the token endpoint path."))

/-! ## The resolver -/

inductive Progress where
  | waiting
  | requesting (url : String)
  | returned (result : Except Exc String)

/-- A call of `get_token_endpoint_async`. What its own request was and how that ended is kept for the
proofs alone. -/
structure Call where
  tenantId : String
  progress : Progress
  answer : Option (String × Discovery) := none

structure State where
  discovered : Dict String String := []
  lock : Lock := {}
  calls : List Call := []

inductive Event where
  | getTokenEndpoint (tenantId : String)
  | enterLock (call : Nat)
  | answer (call : Nat) (discovery : Discovery)
  | reset

def State.setCall (s : State) (i : Nat) (call : Call) : State := { s with calls := s.calls.set i call }

def State.push (s : State) (call : Call) : State := { s with calls := s.calls ++ [call] }

/-- A call that ends where it held the lock. -/
def State.leave (s : State) (i : Nat) (call : Call) : State := { s.setCall i call with lock := s.lock.release }

def State.cached (s : State) (tenantId : String) : Option String := given (s.discovered.lookup tenantId)

/-- With the lock held: the cache again, then the request if there is an address to send it to. -/
def enter (settings : Settings) (s : State) (i : Nat) (tenantId : String) : State :=
  match s.cached tenantId with
  | some endpoint => s.leave i { tenantId, progress := .returned (.ok endpoint) }
  | none =>
    match resolveSetting settings iamBaseUrlKey with
    | none => s.leave i { tenantId, progress := .returned (fallback settings tenantId) }
    | some base => s.setCall i { tenantId, progress := .requesting (discoveryUrl base tenantId) }

def getTokenEndpoint (settings : Settings) (s : State) (tenantId : String) : State :=
  if tenantId.isEmpty then
    s.push
      { tenantId
        progress := .returned (.error (.runtimeError "Cannot resolve the IAM token endpoint without a tenant.")) }
  else match s.cached tenantId with
    | some endpoint => s.push { tenantId, progress := .returned (.ok endpoint) }
    | none =>
      let asked := { s.push { tenantId, progress := .waiting } with lock := s.lock.acquire s.calls.length }
      if asked.lock.holder = some s.calls.length then enter settings asked s.calls.length tenantId else asked

def enterLock (settings : Settings) (s : State) (i : Nat) : Option State :=
  match s.calls[i]? with
  | some ⟨tenantId, .waiting, _⟩ => (s.lock.wake i).map (fun lock => enter settings { s with lock } i tenantId)
  | _ => none

/-- The request ends. What raises here leaves the lock too, and reaches the caller. -/
def answer (lib : Url.Library) (settings : Settings) (s : State) (i : Nat) (discovery : Discovery) : Option State :=
  match s.calls[i]? with
  | some ⟨tenantId, .requesting url, _⟩ =>
    let ended (result : Except Exc String) : Call := ⟨tenantId, .returned result, some (url, discovery)⟩
    match readDiscovery lib discovery with
    | .error e => some (s.leave i (ended (.error e)))
    | .ok found =>
      match given found with
      | some endpoint =>
        some { s.leave i (ended (.ok endpoint)) with discovered := s.discovered.set tenantId endpoint }
      | none => some (s.leave i (ended (fallback settings tenantId)))
  | _ => none

def step (lib : Url.Library) (settings : Settings) (s : State) : Event → Option State
  | .getTokenEndpoint tenantId => some (getTokenEndpoint settings s tenantId)
  | .enterLock i => enterLock settings s i
  | .answer i discovery => answer lib settings s i discovery
  | .reset => some { s with discovered := [] }

/-! ## What a document gives -/

section Documents
variable {lib : Url.Library} {discovery : Discovery} {endpoint : String}

/-- A URL with a scheme and a host of some kind. -/
def Absolute (lib : Url.Library) (url : String) : Prop :=
  ∃ parsed, Url.urlsplit lib url = .ok parsed ∧ parsed.scheme ≠ [] ∧ parsed.netloc ≠ []

/-- The answer is a document that names the endpoint. -/
def Names (discovery : Discovery) (endpoint : String) : Prop :=
  ∃ fields, discovery = .answered 200 (.ok (.obj fields)) ∧ Fields.get fields "token_endpoint" = .str endpoint

/-- The answer is JSON that is neither empty nor an object, or it names an endpoint that `urlparse`
refuses. -/
def Malformed (lib : Url.Library) (discovery : Discovery) : Prop :=
  (∃ document, discovery = .answered 200 (.ok document) ∧ document.truthy = true ∧
      ∀ fields, document ≠ .obj fields) ∨
    ∃ endpoint, Names discovery endpoint ∧ ∃ e, Url.urlsplit lib endpoint = .error e

theorem readDocument_obj (fields : Fields) : readDocument lib (.obj fields) =
    match Fields.get fields "token_endpoint" with
    | .str endpoint => do
      let parsed ← Url.urlsplit lib endpoint
      return if parsed.scheme.isEmpty || parsed.netloc.isEmpty then none else some endpoint
    | _ => .ok none := by
  cases fields with
  | nil => rfl
  | cons field fields => rfl

theorem names_obj {fields : Fields} : Names (.answered 200 (.ok (.obj fields))) endpoint ↔
    Fields.get fields "token_endpoint" = .str endpoint := by
  constructor
  · intro h
    obtain ⟨_, hd, hnamed⟩ := h
    cases hd
    exact hnamed
  · intro h
    exact ⟨fields, rfl, h⟩

/-- An answer that names nothing is malformed if it is something else than an object. -/
theorem malformed_iff_of_nameless (h : ∀ endpoint, ¬ Names discovery endpoint) : Malformed lib discovery ↔
    ∃ document, discovery = .answered 200 (.ok document) ∧ document.truthy = true ∧
      ∀ fields, document ≠ .obj fields := by
  constructor
  · intro hm
    rcases hm with hother | ⟨endpoint, hnamed, _⟩
    · exact hother
    · exact absurd hnamed (h endpoint)
  · exact .inl

/-- An answer that names an endpoint is malformed if that is refused. -/
theorem malformed_iff_of_names (h : Names discovery endpoint) :
    Malformed lib discovery ↔ ∃ e, Url.urlsplit lib endpoint = .error e := by
  obtain ⟨fields, rfl, hnamed⟩ := h
  constructor
  · intro hm
    rcases hm with ⟨document, hd, _, hother⟩ | ⟨other, hother, hrefused⟩
    · cases hd
      exact absurd rfl (hother fields)
    · rw [names_obj, hnamed] at hother
      cases hother
      exact hrefused
  · intro hrefused
    exact .inr ⟨endpoint, names_obj.mpr hnamed, hrefused⟩

/-- What is read of an answer. -/
inductive Reading (lib : Url.Library) (discovery : Discovery) : Except Exc (Option String) → Prop where
  | nothing : ¬ Malformed lib discovery → Reading lib discovery (.ok none)
  | endpoint {url} : ¬ Malformed lib discovery → Names discovery url → Absolute lib url →
      Reading lib discovery (.ok (some url))
  | raised {e} : Malformed lib discovery → Reading lib discovery (.error e)

theorem reading_document {document : Json} (hother : ∀ fields, document ≠ .obj fields) :
    Reading lib (.answered 200 (.ok document)) (readDocument lib document) := by
  have hnameless : ∀ endpoint, ¬ Names (.answered 200 (.ok document)) endpoint := by
    intro endpoint h
    obtain ⟨fields, hd, _⟩ := h
    cases hd
    exact hother fields rfl
  unfold readDocument
  cases htruthy : document.truthy with
  | false =>
    rw [Json.orElse_falsy htruthy]
    refine .nothing (fun hm => ?_)
    obtain ⟨found, hd, hfound, _⟩ := (malformed_iff_of_nameless hnameless).mp hm
    cases hd
    rw [htruthy] at hfound
    cases hfound
  | true =>
    rw [Json.orElse_truthy htruthy]
    split
    · exact absurd rfl (hother _)
    · exact .raised (.inl ⟨document, rfl, htruthy, hother⟩)

theorem reading_obj (fields : Fields) :
    Reading lib (.answered 200 (.ok (.obj fields))) (readDocument lib (.obj fields)) := by
  rw [readDocument_obj]
  split
  · rename_i endpoint hnamed
    have hnames : Names (.answered 200 (.ok (.obj fields))) endpoint := names_obj.mpr hnamed
    cases hparsed : Url.urlsplit lib endpoint with
    | error e => exact .raised ((malformed_iff_of_names hnames).mpr ⟨e, hparsed⟩)
    | ok parsed =>
      have hgood : ¬ Malformed lib (.answered 200 (.ok (.obj fields))) := by
        intro hm
        obtain ⟨e, he⟩ := (malformed_iff_of_names hnames).mp hm
        rw [hparsed] at he
        cases he
      change Reading lib _ (.ok (if parsed.scheme.isEmpty || parsed.netloc.isEmpty then none else some endpoint))
      split
      · exact .nothing hgood
      · rename_i hparts
        simp only [Bool.or_eq_true, List.isEmpty_iff, not_or] at hparts
        exact .endpoint hgood hnames ⟨parsed, hparsed, hparts⟩
  · rename_i hother
    refine .nothing (fun hm => ?_)
    rcases hm with ⟨document, hd, _, hnot⟩ | ⟨endpoint, hnames, _⟩
    · cases hd
      exact hnot fields rfl
    · exact hother endpoint (names_obj.mp hnames)

theorem readDiscovery_reading (lib : Url.Library) (discovery : Discovery) :
    Reading lib discovery (readDiscovery lib discovery) := by
  have hgood : (∀ document, discovery ≠ .answered 200 (.ok document)) → ¬ Malformed lib discovery := by
    intro hne hm
    rcases hm with ⟨document, hd, _⟩ | ⟨endpoint, ⟨fields, hd, _⟩, _⟩
    · exact hne _ hd
    · exact hne _ hd
  cases discovery with
  | raised e => exact .nothing (hgood (fun document hd => nomatch hd))
  | answered status body =>
    unfold readDiscovery
    dsimp only
    split
    · rename_i hstatus
      refine .nothing (hgood (fun document hd => ?_))
      cases hd
      exact hstatus rfl
    · rename_i hstatus
      have hok : status = 200 := Classical.not_not.mp hstatus
      subst hok
      cases body with
      | error e => exact .nothing (hgood (fun document hd => nomatch hd))
      | ok document =>
        cases document with
        | obj fields => exact reading_obj fields
        | _ => exact reading_document (fun fields he => nomatch he)

end Documents

/-! ## What the calls are answered -/

/-- The endpoint is an absolute URL from the tenant's own document, which one of the calls has read. -/
def FromDocument (lib : Url.Library) (settings : Settings) (calls : List Call) (tenantId endpoint : String) : Prop :=
  ∃ source ∈ calls, ∃ base discovery, source.tenantId = tenantId ∧
    resolveSetting settings iamBaseUrlKey = some base ∧
    source.answer = some (discoveryUrl base tenantId, discovery) ∧ Names discovery endpoint ∧ Absolute lib endpoint

/-- How far a call has come. One that has returned has raised for want of a tenant or on a malformed
answer, or its result is from a document or is the fallback. -/
inductive Accounted (lib : Url.Library) (settings : Settings) (calls : List Call) : Call → Prop where
  | waiting {tenantId} : tenantId ≠ "" → Accounted lib settings calls ⟨tenantId, .waiting, none⟩
  | requesting {tenantId base} : tenantId ≠ "" → resolveSetting settings iamBaseUrlKey = some base →
      Accounted lib settings calls ⟨tenantId, .requesting (discoveryUrl base tenantId), none⟩
  | nameless {e} : Accounted lib settings calls ⟨"", .returned (.error e), none⟩
  | malformed {tenantId url discovery e} : Malformed lib discovery →
      Accounted lib settings calls ⟨tenantId, .returned (.error e), some (url, discovery)⟩
  | discovered {tenantId endpoint answer} : tenantId ≠ "" →
      (∀ url discovery, answer = some (url, discovery) → ¬ Malformed lib discovery) →
      FromDocument lib settings calls tenantId endpoint →
      Accounted lib settings calls ⟨tenantId, .returned (.ok endpoint), answer⟩
  | fallback {tenantId answer} : tenantId ≠ "" →
      (∀ url discovery, answer = some (url, discovery) → ¬ Malformed lib discovery) →
      Accounted lib settings calls ⟨tenantId, .returned (fallback settings tenantId), answer⟩

/-- Every cached entry is from its own tenant's document, and every call is accounted for. -/
structure Sound (lib : Url.Library) (settings : Settings) (discovered : Dict String String) (calls : List Call) :
    Prop where
  cached : ∀ entry ∈ discovered, FromDocument lib settings calls entry.1 entry.2
  accounted : ∀ call ∈ calls, Accounted lib settings calls call

section Runs
variable {lib : Url.Library} {settings : Settings} {discovered : Dict String String} {calls : List Call}
  {s s' : State} {i : Nat} {call next : Call} {tenantId endpoint : String}

/-- A step keeps the calls that have had an answer. -/
theorem FromDocument.kept {calls' : List Call} (h : FromDocument lib settings calls tenantId endpoint)
    (hkept : ∀ source ∈ calls, source.answer ≠ none → source ∈ calls') :
    FromDocument lib settings calls' tenantId endpoint := by
  obtain ⟨source, hm, base, discovery, htenant, hbase, hanswer, hdocument⟩ := h
  have hanswered : source.answer ≠ none := by
    rw [hanswer]
    exact Option.some_ne_none _
  exact ⟨source, hkept source hm hanswered, base, discovery, htenant, hbase, hanswer, hdocument⟩

theorem Accounted.kept {calls' : List Call} (h : Accounted lib settings calls call)
    (hkept : ∀ source ∈ calls, source.answer ≠ none → source ∈ calls') : Accounted lib settings calls' call := by
  cases h with
  | waiting ht => exact .waiting ht
  | requesting ht hbase => exact .requesting ht hbase
  | nameless => exact .nameless
  | malformed hm => exact .malformed hm
  | discovered ht hgood hdocument => exact .discovered ht hgood (hdocument.kept hkept)
  | fallback ht hgood => exact .fallback ht hgood

/-- Where the calls that have had an answer are kept, the others only have to be accounted for. -/
theorem Sound.kept {calls' : List Call} (h : Sound lib settings discovered calls)
    (hkept : ∀ source ∈ calls, source.answer ≠ none → source ∈ calls')
    (hnew : ∀ next ∈ calls', next ∈ calls ∨ Accounted lib settings calls' next) :
    Sound lib settings discovered calls' where
  cached entry hm := (h.cached entry hm).kept hkept
  accounted next hm := by
    rcases hnew next hm with hold | hnext
    · exact (h.accounted next hold).kept hkept
    · exact hnext

theorem mem_set_of_ne {l : List Call} {x old new : Call} (hi : l[i]? = some old) (hm : x ∈ l) (hne : x ≠ old) :
    x ∈ l.set i new := by
  obtain ⟨j, hj⟩ := List.mem_iff_getElem?.mp hm
  have hij : i ≠ j := by
    rintro rfl
    rw [hi] at hj
    exact hne (Option.some.inj hj).symm
  rw [← List.getElem?_set_ne hij] at hj
  exact List.mem_of_getElem? hj

theorem Sound.set (h : Sound lib settings discovered calls) (hi : calls[i]? = some call) (hopen : call.answer = none)
    (hnext : Accounted lib settings (calls.set i next) next) : Sound lib settings discovered (calls.set i next) := by
  apply h.kept
  · intro source hm hanswer
    apply mem_set_of_ne hi hm
    rintro rfl
    exact hanswer hopen
  · intro other hm
    rcases List.mem_or_eq_of_mem_set hm with hm | rfl
    · exact .inl hm
    · exact .inr hnext

theorem Sound.push (h : Sound lib settings discovered calls) (hnext : Accounted lib settings (calls ++ [next]) next) :
    Sound lib settings discovered (calls ++ [next]) := by
  apply h.kept
  · intro source hm _
    exact List.mem_append_left _ hm
  · intro other hm
    rcases List.mem_append.mp hm with hm | hm
    · exact .inl hm
    · rw [List.mem_singleton.mp hm]
      exact .inr hnext

theorem mem_of_lookup {s : State} (h : s.cached tenantId = some endpoint) : (tenantId, endpoint) ∈ s.discovered :=
  Dict.mem_of_lookup (given_some h)

/-- Inside the lock a call that waited is answered, or sends its request. -/
theorem enter_sound {answer : Option (String × Discovery)} (h : Sound lib settings s.discovered s.calls)
    (hi : s.calls[i]? = some ⟨tenantId, .waiting, answer⟩) :
    Sound lib settings (enter settings s i tenantId).discovered (enter settings s i tenantId).calls := by
  have hwaiting := h.accounted _ (List.mem_of_getElem? hi)
  cases hwaiting with
  | waiting htenant =>
    have hkept : ∀ {next : Call}, ∀ source ∈ s.calls, source.answer ≠ none → source ∈ s.calls.set i next := by
      intro next source hm hanswer
      apply mem_set_of_ne hi hm
      rintro rfl
      exact hanswer rfl
    unfold enter
    split
    · rename_i endpoint hcached
      apply h.set hi rfl
      exact .discovered htenant nofun ((h.cached _ (mem_of_lookup hcached)).kept hkept)
    · split
      · apply h.set hi rfl
        exact .fallback htenant nofun
      · rename_i base hbase
        apply h.set hi rfl
        exact .requesting htenant hbase

theorem getTokenEndpoint_sound (h : Sound lib settings s.discovered s.calls) (tenantId : String) :
    Sound lib settings (getTokenEndpoint settings s tenantId).discovered
      (getTokenEndpoint settings s tenantId).calls := by
  unfold getTokenEndpoint
  split
  · rename_i hempty
    rw [String.isEmpty_iff] at hempty
    subst hempty
    exact h.push .nameless
  · rename_i hnamed
    have htenant : tenantId ≠ "" := by simpa using hnamed
    split
    · rename_i endpoint hcached
      apply h.push
      refine .discovered htenant nofun ((h.cached _ (mem_of_lookup hcached)).kept ?_)
      intro source hm _
      exact List.mem_append_left _ hm
    · have hasked : Sound lib settings s.discovered (s.calls ++ [⟨tenantId, .waiting, none⟩]) :=
        h.push (.waiting htenant)
      dsimp only
      split
      · apply enter_sound hasked
        exact List.getElem?_concat_length
      · exact hasked

theorem enterLock_sound (h : Sound lib settings s.discovered s.calls) (htaken : enterLock settings s i = some s') :
    Sound lib settings s'.discovered s'.calls := by
  unfold enterLock at htaken
  split at htaken
  · rename_i tenantId answer hi
    obtain ⟨lock, _, rfl⟩ := Option.map_eq_some_iff.mp htaken
    exact @enter_sound lib settings { s with lock } i tenantId answer h hi
  · cases htaken

theorem answer_sound {discovery : Discovery} (h : Sound lib settings s.discovered s.calls)
    (htaken : answer lib settings s i discovery = some s') : Sound lib settings s'.discovered s'.calls := by
  unfold answer at htaken
  split at htaken
  · rename_i tenantId url old hi
    have hrequesting := h.accounted _ (List.mem_of_getElem? hi)
    cases hrequesting with
    | requesting htenant hbase =>
      rename_i base
      have hown : ∀ {result : Except Exc String}, (⟨tenantId, .returned result,
          some (discoveryUrl base tenantId, discovery)⟩ : Call) ∈
            s.calls.set i ⟨tenantId, .returned result, some (discoveryUrl base tenantId, discovery)⟩ :=
        List.mem_of_getElem? (Machine.slot_set_self hi)
      have hreading := readDiscovery_reading lib discovery
      dsimp only at htaken
      cases hread : readDiscovery lib discovery with
      | error e =>
        rw [hread] at htaken hreading
        cases htaken
        cases hreading with
        | raised hmalformed => exact h.set hi rfl (.malformed hmalformed)
      | ok found =>
        rw [hread] at htaken hreading
        dsimp only at htaken
        have hgood : ∀ url other, some (discoveryUrl base tenantId, discovery) = some (url, other) →
            ¬ Malformed lib other := by
          intro url other he
          obtain ⟨_, rfl⟩ := Prod.mk.inj (Option.some.inj he)
          cases hreading with
          | nothing hgood => exact hgood
          | endpoint hgood => exact hgood
        split at htaken
        · rename_i endpoint hfound
          cases htaken
          rw [given_some hfound] at hreading
          cases hreading with
          | endpoint _ hnames habsolute =>
            have hdocument : FromDocument lib settings (s.calls.set i ⟨tenantId, .returned (.ok endpoint),
                some (discoveryUrl base tenantId, discovery)⟩) tenantId endpoint :=
              ⟨_, hown, base, discovery, rfl, hbase, rfl, hnames, habsolute⟩
            have hset := h.set hi rfl (.discovered htenant hgood hdocument)
            refine ⟨fun entry hm => ?_, hset.accounted⟩
            rcases Dict.mem_set hm with rfl | ⟨hm, _⟩
            · exact hdocument
            · exact hset.cached entry hm
        · cases htaken
          exact h.set hi rfl (.fallback htenant hgood)
  · cases htaken

theorem step_sound {e : Event} (h : Sound lib settings s.discovered s.calls)
    (htaken : step lib settings s e = some s') : Sound lib settings s'.discovered s'.calls := by
  cases e with
  | getTokenEndpoint tenantId =>
    cases htaken
    exact getTokenEndpoint_sound h tenantId
  | enterLock i => exact enterLock_sound h htaken
  | answer i discovery => exact answer_sound h htaken
  | reset =>
    cases htaken
    exact ⟨nofun, h.accounted⟩

end Runs

/-! ## Nobody waits for ever -/

/-- Where a call is at the lock, if it is: its request is sent with the lock held. -/
def Call.stance (call : Call) : Option (Unit × Stance) :=
  match call.progress with
  | .waiting => some ((), .waits)
  | .requesting _ => some ((), .holds)
  | .returned _ => none

def State.stance (s : State) : Nat → Option (Unit × Stance) := fun i => (s.calls[i]?).bind Call.stance

/-- Whoever waits is in the queue of the lock, once, and whoever holds it has a request out. -/
def Queued (s : State) : Prop := Standing (fun _ => s.lock) s.stance

/-- All of that but for one call, which holds the lock whatever its progress says. -/
def Holding (s : State) (i : Nat) : Prop := Standing (fun _ => s.lock) (update s.stance i (some ((), .holds)))

/-- How many steps a call has ahead of it. -/
def Call.ahead (call : Call) : Nat :=
  match call.progress with
  | .waiting => 2
  | .requesting _ => 1
  | .returned _ => 0

def State.ahead (s : State) : Nat := (s.calls.map Call.ahead).sum

section Progress
variable {lib : Url.Library} {settings : Settings} {s s' : State} {i : Nat} {call next : Call} {tenantId url : String}
  {answered : Option (String × Discovery)}

theorem stance_setCall (hi : s.calls[i]? = some call) : (s.setCall i next).stance = update s.stance i next.stance :=
  Machine.shown_set Call.stance hi

theorem stance_push : (s.push next).stance = update s.stance s.calls.length next.stance :=
  Machine.shown_append Call.stance

theorem stance_at (hi : s.calls[i]? = some call) : s.stance i = call.stance := by
  rw [State.stance, hi]
  rfl

theorem stance_fresh (s : State) : s.stance s.calls.length = none := by
  rw [State.stance, List.getElem?_eq_none (Nat.le_refl _)]
  rfl

/-- The call returns and leaves the lock. -/
theorem Holding.leave (h : Holding s i) (hi : s.calls[i]? = some call) (hnext : next.stance = none) :
    Queued (s.leave i next) := by
  have hleft := Standing.release h (update_self ..)
  rw [update_idem, ← hnext, ← stance_setCall hi, update_eq_const_of_subsingleton] at hleft
  exact hleft

/-- The call sends its request and keeps the lock. -/
theorem Holding.request (h : Holding s i) (hi : s.calls[i]? = some call) (hnext : next.stance = some ((), .holds)) :
    Queued (s.setCall i next) := by
  have hsame : (s.setCall i next).stance = update s.stance i (some ((), .holds)) := by
    rw [stance_setCall hi, hnext]
  unfold Queued
  rw [hsame]
  exact h

theorem Holding.enter (h : Holding s i) (hi : s.calls[i]? = some call) : Queued (enter settings s i tenantId) := by
  unfold EndpointResolver.enter
  split
  · exact h.leave hi rfl
  · split
    · exact h.leave hi rfl
    · exact h.request hi rfl

/-- A call that returns at once leaves the lock as it is. -/
theorem Queued.push (h : Queued s) (hnext : next.stance = none) : Queued (s.push next) := by
  have hsame : (s.push next).stance = s.stance := by
    rw [stance_push, hnext, ← stance_fresh s, update_eq_self]
  unfold Queued
  rw [hsame]
  exact h

theorem getTokenEndpoint_queued (h : Queued s) (tenantId : String) : Queued (getTokenEndpoint settings s tenantId) := by
  unfold getTokenEndpoint
  split
  · exact h.push rfl
  · split
    · exact h.push rfl
    · have hacquired := Standing.acquire h (stance_fresh s) ()
      rw [update_eq_const_of_subsingleton] at hacquired
      dsimp only
      split
      · rename_i htaken
        rw [if_pos htaken] at hacquired
        have hholding : Holding { s.push ⟨tenantId, .waiting, none⟩ with
            lock := s.lock.acquire s.calls.length } s.calls.length := by
          unfold Holding
          change Standing _ (update (s.push ⟨tenantId, .waiting, none⟩).stance s.calls.length _)
          rw [stance_push, update_idem]
          exact hacquired
        exact hholding.enter List.getElem?_concat_length
      · rename_i hwaits
        rw [if_neg hwaits] at hacquired
        unfold Queued
        change Standing _ (s.push ⟨tenantId, .waiting, none⟩).stance
        rw [stance_push]
        exact hacquired

theorem enterLock_queued (h : Queued s) (htaken : enterLock settings s i = some s') : Queued s' := by
  unfold enterLock at htaken
  split at htaken
  · rename_i tenantId old hi
    obtain ⟨lock, hwake, rfl⟩ := Option.map_eq_some_iff.mp htaken
    have hholding : Standing (update (fun _ : Unit => s.lock) () lock) _ := Standing.wake h hwake
    rw [update_eq_const_of_subsingleton] at hholding
    exact Holding.enter (s := { s with lock }) hholding hi
  · cases htaken

/-- Where a call's request ends, it returns and leaves the lock. -/
theorem answer_leaves {discovery : Discovery} (htaken : answer lib settings s i discovery = some s') :
    ∃ tenantId url old result, s.calls[i]? = some ⟨tenantId, .requesting url, old⟩ ∧
      s'.calls = s.calls.set i ⟨tenantId, .returned result, some (url, discovery)⟩ ∧ s'.lock = s.lock.release := by
  unfold answer at htaken
  split at htaken
  · rename_i tenantId url old hi
    dsimp only at htaken
    split at htaken
    · cases htaken
      exact ⟨tenantId, url, old, _, hi, rfl, rfl⟩
    · split at htaken
      · cases htaken
        exact ⟨tenantId, url, old, _, hi, rfl, rfl⟩
      · cases htaken
        exact ⟨tenantId, url, old, _, hi, rfl, rfl⟩
  · cases htaken

theorem answer_queued {discovery : Discovery} (h : Queued s) (htaken : answer lib settings s i discovery = some s') :
    Queued s' := by
  obtain ⟨tenantId, url, old, result, hi, hcalls, hlock⟩ := answer_leaves htaken
  have hholding : Holding s i := by
    unfold Holding
    have hholds : s.stance i = some ((), .holds) := stance_at hi
    rw [← hholds, update_eq_self]
    exact h
  have hleft : Queued (s.leave i ⟨tenantId, .returned result, some (url, discovery)⟩) := hholding.leave hi rfl
  obtain ⟨discovered, lock, calls⟩ := s'
  cases hcalls
  cases hlock
  exact hleft

theorem step_queued {e : Event} (h : Queued s) (htaken : step lib settings s e = some s') : Queued s' := by
  cases e with
  | getTokenEndpoint tenantId =>
    cases htaken
    exact getTokenEndpoint_queued h tenantId
  | enterLock i => exact enterLock_queued h htaken
  | answer i discovery => exact answer_queued h htaken
  | reset =>
    cases htaken
    exact h

theorem stance_waits (h : call.stance = some ((), .waits)) : call.progress = .waiting := by
  unfold Call.stance at h
  split at h
  · assumption
  · cases h
  · cases h

theorem stance_holds (h : call.stance = some ((), .holds)) : ∃ url, call.progress = .requesting url := by
  unfold Call.stance at h
  split at h
  · cases h
  · exact ⟨_, by assumption⟩
  · cases h

/-- Whatever the answer is, a call that has a request out returns on it. -/
theorem answer_taken (hi : s.calls[i]? = some ⟨tenantId, .requesting url, answered⟩) (discovery : Discovery) :
    ∃ s', answer lib settings s i discovery = some s' := by
  unfold answer
  rw [hi]
  dsimp only
  split
  · exact ⟨_, rfl⟩
  · split <;> exact ⟨_, rfl⟩

/-- While a call is under way, a request is out or the first who waits takes the lock. -/
theorem Queued.moves (h : Queued s) (hi : s.calls[i]? = some call) (hahead : call.ahead ≠ 0) :
    (∃ j s', enterLock settings s j = some s') ∨
      ∃ j, ∀ discovery, ∃ s', answer lib settings s j discovery = some s' := by
  have hstands : ∃ stands, s.stance i = some ((), stands) := by
    rw [stance_at hi]
    obtain ⟨tenantId, progress, answered⟩ := call
    cases progress with
    | returned result => exact absurd rfl hahead
    | requesting url => exact ⟨.holds, rfl⟩
    | waiting => exact ⟨.waits, rfl⟩
  obtain ⟨stands, hstands⟩ := hstands
  obtain ⟨j, hholds | ⟨hwaits, lock, hwake⟩⟩ := Standing.moves h hstands
  · obtain ⟨⟨tenantId, progress, answered⟩, hj, hstance⟩ := Option.bind_eq_some_iff.mp hholds
    obtain ⟨url, rfl⟩ := stance_holds hstance
    exact .inr ⟨j, answer_taken hj⟩
  · obtain ⟨⟨tenantId, progress, answered⟩, hj, hstance⟩ := Option.bind_eq_some_iff.mp hwaits
    cases stance_waits hstance
    refine .inl ⟨j, enter settings { s with lock } j tenantId, ?_⟩
    unfold enterLock
    rw [hj]
    dsimp only
    rw [hwake]
    rfl

theorem ahead_set (hi : s.calls[i]? = some call) (hlt : next.ahead < call.ahead) :
    ((s.calls.set i next).map Call.ahead).sum < s.ahead :=
  Machine.sum_slot_lt Call.ahead hi hlt

/-- Every step that goes on with a call takes it nearer to its end. -/
theorem enterLock_ahead (htaken : enterLock settings s i = some s') : s'.ahead < s.ahead := by
  unfold enterLock at htaken
  split at htaken
  · rename_i tenantId old hi
    obtain ⟨lock, _, rfl⟩ := Option.map_eq_some_iff.mp htaken
    unfold EndpointResolver.enter
    split
    · exact ahead_set hi Nat.zero_lt_two
    · split
      · exact ahead_set hi Nat.zero_lt_two
      · exact ahead_set hi Nat.one_lt_two
  · cases htaken

theorem answer_ahead {discovery : Discovery} (htaken : answer lib settings s i discovery = some s') :
    s'.ahead < s.ahead := by
  obtain ⟨tenantId, url, old, result, hi, hcalls, _⟩ := answer_leaves htaken
  unfold State.ahead
  rw [hcalls]
  exact ahead_set hi Nat.zero_lt_one

end Progress

/-! ## Every run -/

/-- With a fallback configured, what a call returns is settled by its tenant and by its own answer. -/
theorem Accounted.returned_iff {lib : Url.Library} {settings : Settings} {configured : String} {calls : List Call}
    {call : Call} {result : Except Exc String} (h : Accounted lib settings calls call)
    (hconfigured : resolveSetting settings iamTokenEndpointKey = some configured)
    (hreturned : call.progress = .returned result) :
    (∃ endpoint, result = .ok endpoint ∧
        (FromDocument lib settings calls call.tenantId endpoint ∨ endpoint = configured)) ↔
      call.tenantId ≠ "" ∧ ∀ url discovery, call.answer = some (url, discovery) → ¬ Malformed lib discovery := by
  cases h with
  | waiting => cases hreturned
  | requesting => cases hreturned
  | nameless =>
    cases hreturned
    constructor
    · intro hok
      obtain ⟨_, hok, _⟩ := hok
      cases hok
    · intro hgood
      exact absurd rfl hgood.1
  | malformed hmalformed =>
    cases hreturned
    constructor
    · intro hok
      obtain ⟨_, hok, _⟩ := hok
      cases hok
    · intro hgood
      exact absurd hmalformed (hgood.2 _ _ rfl)
  | discovered htenant hgood hdocument =>
    cases hreturned
    exact ⟨fun _ => ⟨htenant, hgood⟩, fun _ => ⟨_, rfl, .inl hdocument⟩⟩
  | fallback htenant hgood =>
    cases hreturned
    refine ⟨fun _ => ⟨htenant, hgood⟩, fun _ => ⟨configured, ?_, .inr rfl⟩⟩
    unfold EndpointResolver.fallback
    rw [hconfigured]

theorem Call.ahead_ne_zero {call : Call} (h : ∀ result, call.progress ≠ .returned result) : call.ahead ≠ 0 := by
  obtain ⟨tenantId, progress, answered⟩ := call
  cases progress with
  | waiting => exact Nat.succ_ne_zero 1
  | requesting url => exact Nat.succ_ne_zero 0
  | returned result => exact absurd rfl (h result)

/-- With a fallback configured, the cache holds nothing but what the tenants' own documents name, and a call that
returns has such an endpoint or the fallback, exactly if it has a tenant and its answer is not malformed. While a
call is under way, the next step of one of them is there to be taken, and takes it nearer to its end. -/
theorem falls_back_iff {lib : Url.Library} {settings : Settings} {configured : String} {events : List Event} {s : State}
    (h : Machine.Run (step lib settings) (fun _ _ => True) {} events s)
    (hconfigured : resolveSetting settings iamTokenEndpointKey = some configured) :
    (∀ entry ∈ s.discovered, FromDocument lib settings s.calls entry.1 entry.2) ∧
    (∀ call ∈ s.calls, ∀ result, call.progress = .returned result →
      ((∃ endpoint, result = .ok endpoint ∧
          (FromDocument lib settings s.calls call.tenantId endpoint ∨ endpoint = configured)) ↔
        call.tenantId ≠ "" ∧ ∀ url discovery, call.answer = some (url, discovery) → ¬ Malformed lib discovery)) ∧
    (∀ call ∈ s.calls, (∀ result, call.progress ≠ .returned result) →
      (∃ j s', enterLock settings s j = some s' ∧ s'.ahead < s.ahead) ∨
      ∃ j, ∀ discovery, ∃ s', answer lib settings s j discovery = some s' ∧ s'.ahead < s.ahead) := by
  have hsound : Sound lib settings s.discovered s.calls :=
    h.invariant ⟨List.forall_mem_nil _, List.forall_mem_nil _⟩ (fun hs _ htaken => step_sound hs htaken)
  have hqueued : Queued s := h.invariant standing_idle (fun hs _ htaken => step_queued hs htaken)
  refine ⟨hsound.cached, fun call hm result hreturned => ?_, fun call hm hopen => ?_⟩
  · exact (hsound.accounted call hm).returned_iff hconfigured hreturned
  · obtain ⟨i, hi⟩ := List.mem_iff_getElem?.mp hm
    rcases hqueued.moves hi (Call.ahead_ne_zero hopen) with ⟨j, s', htaken⟩ | ⟨j, htaken⟩
    · exact .inl ⟨j, s', htaken, enterLock_ahead htaken⟩
    · refine .inr ⟨j, fun discovery => ?_⟩
      obtain ⟨s', htaken⟩ := htaken discovery
      exact ⟨s', htaken, answer_ahead htaken⟩

def iamSettings : Settings where
  env key :=
    if key = iamBaseUrlKey then some "http://iam" else if key = iamTokenEndpointKey then some "http://iam/token"
    else none

/-- A tenant nobody knows is sent to the fallback. -/
theorem falls_back_not_found :
    ∃ s, Machine.Run (step ⟨asciiRuntime.lower, fun _ => true⟩ iamSettings) (fun _ _ => True) {}
        [.getTokenEndpoint "acme", .answer 0 (.answered 404 (.ok .null))] s ∧
      (∀ entry ∈ s.discovered,
        FromDocument ⟨asciiRuntime.lower, fun _ => true⟩ iamSettings s.calls entry.1 entry.2) ∧
      ∃ call ∈ s.calls, call.progress = .returned (.ok "http://iam/token") ∧ call.tenantId ≠ "" := by
  have hrun : ∃ s call, Machine.Run (step ⟨asciiRuntime.lower, fun _ => true⟩ iamSettings) (fun _ _ => True) {}
      [.getTokenEndpoint "acme", .answer 0 (.answered 404 (.ok .null))] s ∧
      call ∈ s.calls ∧ call.progress = .returned (.ok "http://iam/token") :=
    ⟨_, _, Machine.Run.of_exec (fun _ _ _ => trivial) rfl, List.mem_cons_self, rfl⟩
  obtain ⟨s, call, hrun, hm, hreturned⟩ := hrun
  have hconfigured : resolveSetting iamSettings iamTokenEndpointKey = some "http://iam/token" := rfl
  obtain ⟨hcached, hreturns, _⟩ := falls_back_iff hrun hconfigured
  exact ⟨s, hrun, hcached, call, hm, hreturned, ((hreturns call hm _ hreturned).mp ⟨_, rfl, .inr rfl⟩).1⟩

/-- A list for a document, and the caller sees the code's own mistake instead of the fallback. -/
theorem list_document_raises :
    ∃ s, Machine.Run (step ⟨asciiRuntime.lower, fun _ => true⟩ iamSettings) (fun _ _ => True) {}
        [.getTokenEndpoint "acme", .answer 0 (.answered 200 (.ok (.arr [.int 1])))] s ∧
      resolveSetting iamSettings iamTokenEndpointKey = some "http://iam/token" ∧
      ∃ call ∈ s.calls, call.tenantId = "acme" ∧
        call.progress = .returned (.error (.attributeError "object has no attribute 'get'")) := by
  refine ⟨_, Machine.Run.of_exec (fun _ _ _ => trivial) rfl, rfl, _, List.mem_cons_self, rfl, rfl⟩

end BlocksGenesis.Delegation.EndpointResolver
