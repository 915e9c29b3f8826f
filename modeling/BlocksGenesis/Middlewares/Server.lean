import BlocksGenesis.Middlewares.ResponseSize
import BlocksGenesis.Python.Utf8
import BlocksGenesis.Tenants.Answers

/-! The requests of a process that are in flight together, behind the handler of exceptions. -/

namespace BlocksGenesis.Middlewares.Server
open Python Machine Telemetry BlocksGenesis.Auth BlocksGenesis.Tenants BlocksGenesis.Middlewares.ResponseSize

/-! ## The exception handler -/

/-- A request with what the exception handler reads of it: its method, its body, and the trace it belongs to. -/
structure Arrival extends Incoming where
  method : String := "GET"
  body : Except Exc Octets := .ok []
  traceId : String

/-- What the client gets: the reply of the middleware below, or the answer of the exception handler. -/
inductive Answer where
  | reply (reply : Reply)
  | internalError (message traceId : String)

def maxPayloadLength : Nat := 1000

/-- The body as it is logged. -/
def loggedPayload (request : Arrival) : String :=
  if startsWith ((request.header "content-type").getD "") "application/json" then
    match request.body with
    | .error _ => "[Unable to read request body]"
    | .ok octets =>
      match decodeUtf8 octets with
      | none => "[Unable to read request body]"
      | some text =>
        let payload := strip text
        if payload.isEmpty then "Empty"
        else if maxPayloadLength < payload.length then
          String.ofList (payload.toList.take maxPayloadLength) ++ "... [truncated]"
        else payload
  else "Empty"

def handleException (str : Exc → String) (request : Arrival) (e : Exc) : Program Flow Answer := do
  Program.log .error ("Unhandled exception thrown on request Trace: [" ++ request.traceId ++ "] Method: [" ++
    request.method ++ "] " ++ request.url ++ " : " ++ str e ++ ".\nPayload: " ++ loggedPayload request)
  return .internalError "An error occurred while processing your request." request.traceId

/-- `GlobalExceptionHandlerMiddleware.dispatch`, over the program of `call_next`. -/
def dispatchGuarded (str : Exc → String) (request : Arrival) (callNext : Program Flow Reply) : Program Flow Answer :=
  (do let reply ← callNext
      return Answer.reply reply).handle (fun e =>
    match e with
    | .http status detail => Program.raise (.http status detail)
    | e => handleException str request e)

/-- However long a body is, little of it is logged. -/
theorem loggedPayload_length (request : Arrival) : (loggedPayload request).length ≤ maxPayloadLength + 15 := by
  have hmarkers : "Empty".length ≤ 1015 ∧ "[Unable to read request body]".length ≤ 1015 := by decide
  obtain ⟨hempty, hunreadable⟩ := hmarkers
  unfold loggedPayload
  split
  · split
    · exact hunreadable
    · split
      · exact hunreadable
      · dsimp only
        split
        · exact hempty
        · split
          · have hsuffix : "... [truncated]".length = 15 := rfl
            rw [String.length_append, String.length_ofList, List.length_take, hsuffix]
            omega
          · omega
  · exact hempty

/-- What the client gets of a request whose inner program ends so. An `HTTPException` goes on. -/
def answerOf (traceId : String) : Except Exc Reply → Except Exc Answer
  | .ok reply => .ok (.reply reply)
  | .error (.http status detail) => .error (.http status detail)
  | .error _ => .ok (.internalError "An error occurred while processing your request." traceId)

theorem dispatchGuarded_result (str : Exc → String) (request : Arrival) (callNext : Program Flow Reply) (flow : Flow) :
    (dispatchGuarded str request callNext flow).result = answerOf request.traceId (callNext flow).result := by
  have hinner : ∀ {r}, (callNext flow).result = r →
      ((do let reply ← callNext
           return Answer.reply reply : Program Flow Answer) flow).result = r.map Answer.reply := by
    intro r hr
    change (Program.bind callNext _ flow).result = _
    unfold Program.bind
    rw [hr]
    cases r <;> rfl
  unfold dispatchGuarded Program.handle
  cases hr : (callNext flow).result with
  | ok reply =>
    have hdone := hinner hr
    dsimp only [Except.map] at hdone
    simp only [hdone]
    rfl
  | error e =>
    have hfailed := hinner hr
    dsimp only [Except.map] at hfailed
    simp only [hfailed]
    cases e <;> rfl

/-! ## The requests in flight -/

/-- Where a request is: its tenant is looked up, the rest of the application is at work on it, or it is answered. -/
inductive Stage where
  | looking (caller : Nat)
  | serving (size : Int)
  | answered (answer : Except Exc Answer)

/-- A request, and the context variable of its own flow. The rest of the application starts with a copy of that. The call
it makes to the tenant service, what that found, and how the rest of the application ended are on record. -/
structure Flight where
  request : Arrival
  context : Option BlocksContext := none
  stage : Stage
  call : Option Nat := none
  found : Option Tenant := none
  outcome : Option (Except Exc Response) := none

structure State where
  service : Tenants.State
  flights : List Flight := []

/-- A request comes in, goes on with the tenant that was looked up, or ends with what the rest of the application
did. The tenant service goes on by itself, for these requests and for others who ask it. -/
inductive Event where
  | arrive (request : Arrival)
  | resume (flight : Nat)
  | finish (flight : Nat) (outcome : Except Exc Response)
  | tenants (e : Tenants.Event)

section Model
variable (sv : Service) (includedPaths : List String)

/-- What is asked of the tenant service: the key of the request, or its host where it has none. -/
def askOf (request : Incoming) : Option Ask :=
  match requestTenantKey request.toRequest with
  | some key => some (.key key)
  | none =>
    let host := request.host.getD ""
    if isLocalhostHost sv.rt host then none else some (.domain host)

def lookUp : Ask → Tenants.Event
  | .key key => .getTenant key
  | .domain domain => .getTenantByDomain domain

/-- A path that is not included goes to the rest of the application as it is. -/
def arrive (s : State) (request : Arrival) : Option State :=
  if isIncluded includedPaths request.path then
    match askOf sv request.toIncoming with
    | none =>
      let rejected := Reply.rejected 400 "BadRequest: Missing_Tenant_Key_Or_Id"
      some { s with flights := s.flights ++ [{ request, stage := .answered (answerOf request.traceId (.ok rejected)) }] }
    | some ask =>
      let call := s.service.callers.length
      (Tenants.step sv.rt s.service (lookUp ask)).map (fun service =>
        { service, flights := s.flights ++ [{ request, stage := .looking call, call := some call }] })
  else some { s with flights := s.flights ++ [{ request, stage := .serving 0 }] }

/-- `dispatch` after the look-up, to where it calls the rest of the application. -/
def Flight.resume (flight : Flight) (found : Option Tenant) : Flight :=
  match admitTenant sv.rt flight.request.toRequest found with
  | .rejected status message =>
    { flight with stage := .answered (answerOf flight.request.traceId (.ok (.rejected status message))) }
  | .tenant tenant =>
    match requestSizeOf flight.request.toIncoming with
    | .error e => { flight with stage := .answered (answerOf flight.request.traceId (.error e)) }
    | .ok size => { flight with
        stage := .serving size
        context := some (createContext sv flight.request.toIncoming tenant) }

def resume (s : State) (i : Nat) : Option State :=
  match s.flights[i]? with
  | some flight =>
    match flight.stage with
    | .looking caller =>
      match s.service.callers[caller]? with
      | some (.returned result) =>
        let found := result.map Copy.tenant
        some { s with flights := s.flights.set i { flight.resume sv found with found } }
      | _ => none
    | _ => none
  | none => none

/-- The end of `dispatch`, which clears the context. -/
def Flight.finish (flight : Flight) (outcome : Except Exc Response) : Flight :=
  let metered (response : Response) : Bool :=
    isIncluded includedPaths flight.request.path && response.bodyIterator.isSome
  { flight with
    stage := .answered (answerOf flight.request.traceId
      (outcome.map (fun response => Reply.response response (metered response))))
    context := none }

def finish (s : State) (i : Nat) (outcome : Except Exc Response) : Option State :=
  match s.flights[i]? with
  | some flight =>
    match flight.stage with
    | .serving _ =>
      some { s with flights := s.flights.set i { flight.finish includedPaths outcome with outcome := some outcome } }
    | _ => none
  | none => none

def step (s : State) : Event → Option State
  | .arrive request => arrive sv includedPaths s request
  | .resume i => resume sv s i
  | .finish i outcome => finish includedPaths s i outcome
  | .tenants e => (Tenants.step sv.rt s.service e).map (fun service => { s with service })

end Model

/-! ## One request alone -/

/-- The service, when the look-ups of a request all find this. -/
def finding (sv : Service) (found : Option Tenant) : Service :=
  { sv with getTenant := fun _ => found, getTenantByDomain := fun _ => found }

section Alone
variable {sv : Service} {includedPaths : List String} {request : Incoming} {found : Option Tenant}

theorem serve_result (callNext : Except Exc Response) (flow : Flow) :
    (serve (finding sv found) request callNext flow).result =
      match askOf sv request with
      | none => .ok (.rejected 400 "BadRequest: Missing_Tenant_Key_Or_Id")
      | some _ =>
        match admitTenant sv.rt request.toRequest found with
        | .rejected status message => .ok (.rejected status message)
        | .tenant _ =>
          match requestSizeOf request with
          | .error e => .error e
          | .ok _ => callNext.map (fun response => .response response response.bodyIterator.isSome) := by
  have hresolved : resolveTenantOrReject sv.rt (fun _ => found) (fun _ => found) request.host request.toRequest =
      match askOf sv request with
      | none => .rejected 400 "BadRequest: Missing_Tenant_Key_Or_Id"
      | some _ => admitTenant sv.rt request.toRequest found := by
    unfold resolveTenantOrReject askOf
    cases requestTenantKey request.toRequest with
    | some key => rfl
    | none =>
      dsimp only
      split
      · rfl
      · rfl
  unfold serve
  cases hask : askOf sv request with
  | none =>
    rw [hask] at hresolved
    dsimp only [finding] at hresolved ⊢
    rw [hresolved]
    rfl
  | some ask =>
    rw [hask] at hresolved
    dsimp only [finding] at hresolved ⊢
    rw [hresolved]
    cases admitTenant sv.rt request.toRequest found with
    | rejected status message => rfl
    | tenant tenant =>
      cases requestSizeOf request with
      | error e => rfl
      | ok size =>
        cases callNext with
        | error e => rfl
        | ok response => rfl

/-- An error that is recorded and raised again is the one it was. -/
theorem handle_again {m : Program Flow Reply} {handler : Exc → Program Flow Reply} {flow : Flow}
    (h : ∀ e flow, (handler e flow).result = .error e) : (m.handle handler flow).result = (m flow).result := by
  unfold Program.handle
  cases hr : (m flow).result with
  | ok reply => simp only [hr]
  | error e => simp only [h e]

theorem dispatch_result (callNext : Except Exc Response) (flow : Flow) :
    (dispatch (finding sv found) includedPaths request callNext flow).result =
      if isIncluded includedPaths request.path then (serve (finding sv found) request callNext flow).result
      else callNext.map (fun response => .response response false) := by
  unfold dispatch
  split
  · exact handle_again (fun _ _ => rfl)
  · cases callNext with
    | error e => rfl
    | ok response => rfl

end Alone

/-- A request that nothing else goes on beside, in a flow without a context. -/
def alone (sv : Service) (includedPaths : List String) (found : Option Tenant) (request : Arrival)
    (outcome : Except Exc Response) : Outcome Flow Answer :=
  dispatchGuarded sv.str request (dispatch (finding sv found) includedPaths request.toIncoming outcome) ⟨none, 0⟩

theorem alone_result (sv : Service) (includedPaths : List String) (found : Option Tenant) (request : Arrival)
    (outcome : Except Exc Response) :
    (alone sv includedPaths found request outcome).result = answerOf request.traceId
      (if isIncluded includedPaths request.path then
        (serve (finding sv found) request.toIncoming outcome ⟨none, 0⟩).result
      else outcome.map (fun response => .response response false)) := by
  unfold alone
  rw [dispatchGuarded_result, dispatch_result]

/-! ## Every request in flight -/

section Flights
variable {sv : Service} {includedPaths : List String} {sources : Sources}

/-- A tenant that was looked up for this request. -/
def Found (sv : Service) (sources : Sources) (request : Incoming) (tenant : Tenant) : Prop :=
  ∃ ask, askOf sv request = some ask ∧ sources.Answers sv.rt ask tenant

/-- What holds of a request at each stage: its context is that of the tenant its look-up found, which is enabled and
lets requests from its origin in; and its answer is the one it has alone with what was found and how the rest of the
application ended. Where that was not called, it would have made no difference. -/
inductive Fits (sv : Service) (includedPaths : List String) (sources : Sources) (asks : Nat → Ask) (calls : Nat) :
    Flight → Prop where
  | looking {request : Arrival} {caller : Nat} {ask : Ask} {call : Option Nat} :
      isIncluded includedPaths request.path = true → askOf sv request.toIncoming = some ask → asks caller = ask →
      caller < calls → Fits sv includedPaths sources asks calls { request, stage := .looking caller, call }
  | serving {request : Arrival} {size : Int} {tenant : Tenant} {call : Option Nat} :
      isIncluded includedPaths request.path = true → Found sv sources request.toIncoming tenant →
      admitTenant sv.rt request.toRequest (some tenant) = .tenant tenant →
      requestSizeOf request.toIncoming = .ok size →
      Fits sv includedPaths sources asks calls
        { request, stage := .serving size, context := some (createContext sv request.toIncoming tenant),
          call, found := some tenant }
  | passing {request : Arrival} {size : Int} {call : Option Nat} : isIncluded includedPaths request.path = false →
      Fits sv includedPaths sources asks calls { request, stage := .serving size, call }
  | answered {request : Arrival} {answer : Except Exc Answer} {call : Option Nat} {found : Option Tenant}
      {outcome : Option (Except Exc Response)} :
      (∀ tenant, found = some tenant → Found sv sources request.toIncoming tenant) →
      (∀ other, answer = (alone sv includedPaths found request (outcome.getD other)).result) →
      Fits sv includedPaths sources asks calls { request, stage := .answered answer, call, found, outcome }

def Serves (sv : Service) (includedPaths : List String) (sources : Sources) (s : State) : Prop :=
  ∃ loads asks, Answering sv.rt sources loads asks s.service ∧
    ∀ flight ∈ s.flights, Fits sv includedPaths sources asks s.service.callers.length flight

theorem Fits.later {asks asks' : Nat → Ask} {calls calls' : Nat} {flight : Flight}
    (h : Fits sv includedPaths sources asks calls flight) (hle : calls ≤ calls')
    (hsame : ∀ caller < calls, asks' caller = asks caller) : Fits sv includedPaths sources asks' calls' flight := by
  cases h with
  | looking hpath hask hcaller hlt => exact .looking hpath hask ((hsame _ hlt).trans hcaller) (by omega)
  | serving hpath hfound hadmitted hsize => exact .serving hpath hfound hadmitted hsize
  | passing hpath => exact .passing hpath
  | answered hfound hanswer => exact .answered hfound hanswer

theorem admitTenant_tenant {rt : Runtime} {request : Request} {found : Option Tenant} {tenant : Tenant}
    (h : admitTenant rt request found = .tenant tenant) : found = some tenant ∧ tenant.isDisabled = false ∧
      isValidOriginOrReferer rt request tenant = true := by
  unfold admitTenant at h
  split at h
  · cases h
  · split at h
    · cases h
    · rename_i henabled
      split at h
      · cases h
      · rename_i hvalid
        cases h
        exact ⟨rfl, by simpa using henabled, by simpa using hvalid⟩

/-- A request that is resumed is admitted with the tenant that was found for it, or answered as it is alone. -/
theorem resume_fits {asks : Nat → Ask} {calls caller : Nat} {request : Arrival} {ask : Ask} {call : Option Nat}
    {found : Option Tenant}
    (hpath : isIncluded includedPaths request.path = true) (hask : askOf sv request.toIncoming = some ask)
    (hfound : ∀ tenant, found = some tenant → sources.Answers sv.rt ask tenant) :
    Fits sv includedPaths sources asks calls
      { Flight.resume sv { request, stage := .looking caller, call } found with found } := by
  have hlooked : ∀ tenant, found = some tenant → Found sv sources request.toIncoming tenant :=
    fun tenant he => ⟨ask, hask, hfound tenant he⟩
  unfold Flight.resume
  dsimp only
  cases hadmitted : admitTenant sv.rt request.toRequest found with
  | rejected status message =>
    refine .answered hlooked (fun other => ?_)
    rw [alone_result, if_pos hpath, serve_result, hask]
    dsimp only
    rw [hadmitted]
  | tenant tenant =>
    dsimp only
    obtain ⟨hsome, _⟩ := admitTenant_tenant hadmitted
    cases hsize : requestSizeOf request.toIncoming with
    | error e =>
      refine .answered hlooked (fun other => ?_)
      rw [alone_result, if_pos hpath, serve_result, hask]
      dsimp only
      rw [hadmitted]
      dsimp only
      rw [hsize]
    | ok size =>
      subst hsome
      exact .serving hpath (hlooked tenant rfl) hadmitted hsize

theorem finish_fits {asks : Nat → Ask} {calls : Nat} {flight : Flight} {size : Int} {outcome : Except Exc Response}
    (h : Fits sv includedPaths sources asks calls flight) (hstage : flight.stage = .serving size) :
    Fits sv includedPaths sources asks calls
      { flight.finish includedPaths outcome with outcome := some outcome } := by
  unfold Flight.finish
  cases h with
  | looking => cases hstage
  | answered => cases hstage
  | @serving request _ tenant _ hpath hfound hadmitted hsize =>
    refine .answered (fun other hother => ?_) (fun _ => ?_)
    · cases hother
      exact hfound
    · obtain ⟨ask, hask, _⟩ := hfound
      rw [alone_result, if_pos hpath, serve_result, hask]
      dsimp only
      rw [hadmitted]
      dsimp only
      rw [hsize, hpath]
      rfl
  | @passing request _ _ hpath =>
    refine .answered nofun (fun _ => ?_)
    rw [alone_result, if_neg (by simp [hpath]), hpath]
    rfl

/-- Only what comes from the sources is written or told. -/
def Supplied (sources : Sources) (s : State) : Event → Prop
  | .tenants e => Supplies sources s.service e
  | _ => True

/-- The requests in flight are as they were after a step of the tenant service. -/
theorem serves_service {s : State} {e : Tenants.Event} {service : Tenants.State} {loads : Nat → String}
    {asks : Nat → Ask} (hl : Lowers sv.rt.lower) (hs : Answering sv.rt sources loads asks s.service)
    (hfits : ∀ flight ∈ s.flights, Fits sv includedPaths sources asks s.service.callers.length flight)
    (hsupplies : Supplies sources s.service e) (hstep : Tenants.step sv.rt s.service e = some service) :
    ∃ loads', Answering sv.rt sources loads' (asksAfter asks s.service e) service ∧
      ∀ flight ∈ s.flights,
        Fits sv includedPaths sources (asksAfter asks s.service e) service.callers.length flight := by
  obtain ⟨loads', hservice⟩ := step_answering hl hs hsupplies hstep
  have hlength := step_callers hstep
  refine ⟨loads', hservice, fun flight hm => ?_⟩
  exact (hfits flight hm).later (by omega) (fun caller hlt => asksAfter_old hlt)

theorem step_serves {s s' : State} {e : Event} (hl : Lowers sv.rt.lower) (h : Serves sv includedPaths sources s)
    (hsupplied : Supplied sources s e) (hstep : step sv includedPaths s e = some s') :
    Serves sv includedPaths sources s' := by
  obtain ⟨loads, asks, hs, hfits⟩ := h
  have hadd : ∀ {asks : Nat → Ask} {calls : Nat} {flight : Flight},
      (∀ other ∈ s.flights, Fits sv includedPaths sources asks calls other) →
      Fits sv includedPaths sources asks calls flight →
      ∀ other ∈ s.flights ++ [flight], Fits sv includedPaths sources asks calls other := by
    intro asks calls flight hothers hflight other hm
    rcases List.mem_append.mp hm with hold | hnew
    · exact hothers other hold
    · rw [List.mem_singleton.mp hnew]
      exact hflight
  cases e with
  | arrive request =>
    simp only [step, arrive] at hstep
    split at hstep
    · rename_i hpath
      split at hstep
      · rename_i hask
        cases hstep
        refine ⟨loads, asks, hs, hadd hfits (.answered nofun (fun other => ?_))⟩
        rw [alone_result, if_pos hpath, serve_result, hask]
      · rename_i ask hask
        obtain ⟨service, htaken, rfl⟩ := Option.map_eq_some_iff.mp hstep
        have hasked : asked (lookUp ask) = some ask := by cases ask <;> rfl
        have hsupplies : Supplies sources s.service (lookUp ask) := by cases ask <;> trivial
        obtain ⟨loads', hservice, hothers⟩ := serves_service hl hs hfits hsupplies htaken
        have hlength := step_callers htaken
        rw [hasked, Option.isSome_some, if_pos rfl] at hlength
        refine ⟨loads', _, hservice, hadd hothers (.looking hpath hask ?_ ?_)⟩
        · rw [asksAfter, hasked]
          exact Function.update_self _ _ _
        · dsimp only
          omega
    · rename_i hpath
      cases hstep
      exact ⟨loads, asks, hs, hadd hfits (.passing (by simpa using hpath))⟩
  | resume i =>
    simp only [step, resume] at hstep
    split at hstep
    · rename_i flight hi
      split at hstep
      · rename_i caller hstage
        split at hstep
        · rename_i result hreturned
          cases hstep
          refine ⟨loads, asks, hs, fun other hm => ?_⟩
          rcases List.mem_or_eq_of_mem_set hm with hold | rfl
          · exact hfits other hold
          · have hflight := hfits flight (List.mem_of_getElem? hi)
            cases hflight with
            | @looking request _ ask _ hpath hask hcaller hlt =>
              cases hstage
              have hresult := (hs.callers _ _ hreturned).result
              rw [hcaller] at hresult
              apply resume_fits hpath hask
              intro tenant htenant
              obtain ⟨copy, hcopy, rfl⟩ := Option.map_eq_some_iff.mp htenant
              exact hresult copy hcopy
            | serving | passing | answered => cases hstage
        · cases hstep
      · cases hstep
    · cases hstep
  | finish i outcome =>
    simp only [step, finish] at hstep
    split at hstep
    · rename_i flight hi
      split at hstep
      · rename_i size hstage
        cases hstep
        refine ⟨loads, asks, hs, fun other hm => ?_⟩
        rcases List.mem_or_eq_of_mem_set hm with hold | rfl
        · exact hfits other hold
        · exact finish_fits (hfits flight (List.mem_of_getElem? hi)) hstage
      · cases hstep
    · cases hstep
  | tenants e =>
    obtain ⟨service, htaken, rfl⟩ := Option.map_eq_some_iff.mp hstep
    obtain ⟨loads', hservice, hothers⟩ := serves_service hl hs hfits hsupplied htaken
    exact ⟨loads', _, hservice, hothers⟩

/-- A request of an included path that names a key or a host makes one call to the tenant service, and goes on with what
that call has returned. -/
structure Looked (sv : Service) (includedPaths : List String) (service : Tenants.State) (flight : Flight) : Prop where
  called : flight.call.isSome = true ↔
    isIncluded includedPaths flight.request.path = true ∧ (askOf sv flight.request.toIncoming).isSome = true
  looking : ∀ call, flight.stage = .looking call → flight.call = some call
  returned : ∀ call, flight.call = some call → flight.stage = .looking call ∨
    ∃ result, service.callers[call]? = some (.returned result) ∧ flight.found = result.map Copy.tenant
  uncalled : flight.call = none → flight.found = none

theorem Looked.later {service service' : Tenants.State} {flight : Flight} (h : Looked sv includedPaths service flight)
    (hkept : ∀ (i : Nat) result, service.callers[i]? = some (.returned result) →
      service'.callers[i]? = some (.returned result)) : Looked sv includedPaths service' flight := by
  refine ⟨h.called, h.looking, fun call hcall => ?_, h.uncalled⟩
  rcases h.returned call hcall with hlooking | ⟨result, hreturned, hfound⟩
  · exact .inl hlooking
  · exact .inr ⟨result, hkept call result hreturned, hfound⟩

theorem resume_kept (flight : Flight) (found : Option Tenant) :
    (flight.resume sv found).request = flight.request ∧ (flight.resume sv found).call = flight.call ∧
      ∀ call, (flight.resume sv found).stage ≠ .looking call := by
  unfold Flight.resume
  split
  · exact ⟨rfl, rfl, nofun⟩
  · split
    · exact ⟨rfl, rfl, nofun⟩
    · exact ⟨rfl, rfl, nofun⟩

theorem step_looked {s s' : State} {e : Event} (h : ∀ flight ∈ s.flights, Looked sv includedPaths s.service flight)
    (hstep : step sv includedPaths s e = some s') :
    ∀ flight ∈ s'.flights, Looked sv includedPaths s'.service flight := by
  cases e with
  | arrive request =>
    simp only [step, arrive] at hstep
    intro flight hm
    split at hstep
    · rename_i hpath
      split at hstep
      · rename_i hask
        cases hstep
        rcases List.mem_append.mp hm with hold | hnew
        · exact h flight hold
        · rw [List.mem_singleton.mp hnew]
          exact ⟨by simp [hask], nofun, nofun, fun _ => rfl⟩
      · rename_i ask hask
        obtain ⟨service, htaken, rfl⟩ := Option.map_eq_some_iff.mp hstep
        rcases List.mem_append.mp hm with hold | hnew
        · exact (h flight hold).later (fun i result => step_returned htaken)
        · rw [List.mem_singleton.mp hnew]
          refine ⟨by simp [hpath, hask], fun call hcall => ?_, fun call hcall => .inl ?_, nofun⟩
          · cases hcall
            rfl
          · cases hcall
            rfl
    · rename_i hpath
      cases hstep
      rcases List.mem_append.mp hm with hold | hnew
      · exact h flight hold
      · rw [List.mem_singleton.mp hnew]
        exact ⟨by simp [hpath], nofun, nofun, fun _ => rfl⟩
  | resume i =>
    simp only [step, resume] at hstep
    split at hstep
    · rename_i flight hi
      split at hstep
      · rename_i caller hstage
        split at hstep
        · rename_i result hreturned
          cases hstep
          intro other hm
          rcases List.mem_or_eq_of_mem_set hm with hold | rfl
          · exact h other hold
          · obtain ⟨hcalled, hlooking, _, _⟩ := h flight (List.mem_of_getElem? hi)
            obtain ⟨hrequest, hcall, hgone⟩ := @resume_kept sv flight (result.map Copy.tenant)
            have hown : flight.call = some caller := hlooking caller hstage
            refine ⟨?_, fun call hstage' => absurd hstage' (hgone call), fun call hcall' => .inr ?_, fun hnone => ?_⟩
            · dsimp only
              rw [hrequest, hcall]
              exact hcalled
            · dsimp only at hcall'
              rw [hcall, hown] at hcall'
              cases hcall'
              exact ⟨result, hreturned, rfl⟩
            · dsimp only at hnone
              rw [hcall, hown] at hnone
              cases hnone
        · cases hstep
      · cases hstep
    · cases hstep
  | finish i outcome =>
    simp only [step, finish] at hstep
    split at hstep
    · rename_i flight hi
      split at hstep
      · rename_i size hstage
        cases hstep
        intro other hm
        rcases List.mem_or_eq_of_mem_set hm with hold | rfl
        · exact h other hold
        · obtain ⟨hcalled, _, hreturned, huncalled⟩ := h flight (List.mem_of_getElem? hi)
          refine ⟨hcalled, nofun, fun call hcall => .inr ?_, huncalled⟩
          rcases hreturned call hcall with hlooking | hfound
          · cases hstage.symm.trans hlooking
          · exact hfound
      · cases hstep
    · cases hstep
  | tenants e =>
    obtain ⟨service, htaken, rfl⟩ := Option.map_eq_some_iff.mp hstep
    exact fun flight hm => (h flight hm).later (fun i result => step_returned htaken)

/-- What a flight has to show, stage by stage. -/
def Shown (sv : Service) (includedPaths : List String) (sources : Sources) (flight : Flight) : Stage → Prop
  | .looking _ => flight.context = none
  | .serving _ => if isIncluded includedPaths flight.request.path then
      ∃ tenant, flight.found = some tenant ∧ Found sv sources flight.request.toIncoming tenant ∧
        tenant.isDisabled = false ∧
        isValidOriginOrReferer sv.rt flight.request.toRequest tenant = true ∧
        flight.context = some (createContext sv flight.request.toIncoming tenant)
    else flight.context = none
  | .answered answer => flight.context = none ∧
      (∀ tenant, flight.found = some tenant → Found sv sources flight.request.toIncoming tenant) ∧
      ∀ other, answer = (alone sv includedPaths flight.found flight.request (flight.outcome.getD other)).result

theorem Fits.shown {asks : Nat → Ask} {calls : Nat} {flight : Flight}
    (h : Fits sv includedPaths sources asks calls flight) :
    Shown sv includedPaths sources flight flight.stage := by
  cases h with
  | looking => rfl
  | serving hpath hfound hadmitted =>
    obtain ⟨_, henabled, hvalid⟩ := admitTenant_tenant hadmitted
    unfold Shown
    dsimp only
    rw [if_pos hpath]
    exact ⟨_, rfl, hfound, henabled, hvalid, rfl⟩
  | passing hpath =>
    unfold Shown
    dsimp only
    rw [if_neg (by simp [hpath])]
  | answered hfound hanswer => exact ⟨rfl, hfound, hanswer⟩

/-- In every run, however the requests, the loads of tenants and what is told of them interleave: a request goes on with
what its own call to the tenant service returned; while the rest of the application is at work on a request of an
included path, the context there is that of the tenant its look-up found, by the key or the host of this request, which
is enabled and lets its origin in; and a request that is answered has the answer it has alone where the look-up finds
the same and the rest of the application ends as it did for it, or however that would end where it was not called, and
leaves no context. -/
theorem requests_served_apart {database : List TenantDocument} {events : List Event} {s : State}
    (hl : Lowers sv.rt.lower) (hdatabase : ∀ document ∈ database, sources.stored document)
    (h : Run (step sv includedPaths) (Supplied sources) { service := { database } } events s) :
    ∀ flight ∈ s.flights, Looked sv includedPaths s.service flight ∧
      Shown sv includedPaths sources flight flight.stage := by
  have hstart : Serves sv includedPaths sources { service := { database } } :=
    ⟨fun _ => "", fun _ => .key "", answering_start hdatabase, List.forall_mem_nil _⟩
  have hserves : Serves sv includedPaths sources s :=
    h.invariant hstart (fun hs hallowed htaken => step_serves hl hs hallowed htaken)
  have hlooked : ∀ flight ∈ s.flights, Looked sv includedPaths s.service flight :=
    @Run.invariant State Event _ _ _ _ _ (fun now => ∀ flight ∈ now.flights, Looked sv includedPaths now.service flight) h
      (List.forall_mem_nil _) (fun hs _ htaken => step_looked hs htaken)
  obtain ⟨_, _, _, hfits⟩ := hserves
  exact fun flight hm => ⟨hlooked flight hm, (hfits flight hm).shown⟩

end Flights

def acmeArrival : Arrival where
  toIncoming := acmeRequest
  traceId := "4bf92f3577b34da6a3ce929d0e0e4736"

/-- One without a key, from a host no tenant has. -/
def keylessArrival : Arrival where
  headers := []
  path := "/api/orders"
  host := some "orders.example.com"
  traceId := "00f067aa0ba902b700f067aa0ba902b7"

def acmeEvents : List Event :=
  [.arrive keylessArrival, .arrive acmeArrival, .tenants (.enterLoadLock 1), .tenants (.answerByDomain 0 false),
    .tenants (.answerLoad 0 false), .tenants (.finishLoad 0), .tenants (.finishByDomain 0),
    .tenants (.resumeGetTenant 1), .tenants (.finishGetTenant 1), .resume 0, .resume 1,
    .finish 1 (.error (.other "KeyError"))]

/-- One request is rejected while the other's tenant is loaded, and the other fails. -/
theorem requests_served_apart_acme :
    ∃ s rejected failed, Run (step acmeService []) (Supplied onlyAcme)
        { service := { database := [⟨"65f0c2", acme, true⟩] } } acmeEvents s ∧ s.flights = [rejected, failed] ∧
      rejected.stage = .answered (.ok (.reply (.rejected 404 "Not_Found: Application_Not_Found"))) ∧
      rejected.found = none ∧
      failed.stage = .answered (.ok (.internalError "An error occurred while processing your request."
        "4bf92f3577b34da6a3ce929d0e0e4736")) ∧
      failed.found = some acme ∧ failed.outcome = some (.error (.other "KeyError")) ∧
      Shown acmeService [] onlyAcme rejected rejected.stage ∧ Shown acmeService [] onlyAcme failed failed.stage := by
  have hdatabase : ∀ document ∈ [⟨"65f0c2", acme, true⟩], onlyAcme.stored document :=
    fun document hm => List.mem_singleton.mp hm
  have hran : ∃ s rejected failed, Run (step acmeService []) (Supplied onlyAcme)
        { service := { database := [⟨"65f0c2", acme, true⟩] } } acmeEvents s ∧ s.flights = [rejected, failed] ∧
      rejected.stage = .answered (.ok (.reply (.rejected 404 "Not_Found: Application_Not_Found"))) ∧
      rejected.found = none ∧
      failed.stage = .answered (.ok (.internalError "An error occurred while processing your request."
        "4bf92f3577b34da6a3ce929d0e0e4736")) ∧
      failed.found = some acme ∧ failed.outcome = some (.error (.other "KeyError")) := by
    refine ⟨_, _, _, Run.of_exec ?_ rfl, rfl, rfl, rfl, rfl, rfl, rfl⟩
    simp [acmeEvents, Supplied, Supplies]
  obtain ⟨s, rejected, failed, hrun, hflights, hrejected, hnothing, hfailed, hacme, houtcome⟩ := hran
  have hshown := requests_served_apart asciiRuntime_lowers hdatabase hrun
  rw [hflights] at hshown
  exact ⟨s, rejected, failed, hrun, hflights, hrejected, hnothing, hfailed, hacme, houtcome,
    (hshown rejected List.mem_cons_self).2, (hshown failed (List.mem_cons_of_mem _ List.mem_cons_self)).2⟩

end BlocksGenesis.Middlewares.Server
