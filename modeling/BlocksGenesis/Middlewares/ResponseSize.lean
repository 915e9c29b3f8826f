import BlocksGenesis.Cache.RedisUrl
import BlocksGenesis.Machine.Run
import BlocksGenesis.Middlewares.TenantMiddleware
import BlocksGenesis.Telemetry.Program

/-! What the tenant middleware records of a response, and the body the client reads after it. -/

namespace BlocksGenesis.Middlewares.ResponseSize
open Python Machine Telemetry BlocksGenesis.Auth

/-- What the middleware reads of a request beyond its headers and parameters. -/
structure Incoming extends Request where
  path : String
  host : Option String

/-- What the rest of the application answers. The body is the chunks its iterator gives, if it has one. -/
structure Response where
  statusCode : Int
  headers : List (String × String)
  bodyIterator : Option (List Octets)

def Response.chunks (response : Response) : List Octets := response.bodyIterator.getD []

/-- What the middleware calls. -/
structure Service where
  rt : Runtime
  dumps : Json → String
  /-- `str(ctx.__dict__)`. -/
  printContext : BlocksContext → String
  str : Exc → String
  now : DateTime
  getTenant : String → Option Tenant
  getTenantByDomain : String → Option Tenant
  /-- `tenant.is_root_tenant`, of the record the tenant was read from. -/
  isRootTenant : Tenant → Bool

/-- The context variable, and the variable of `_instrument_response` that the wrapper of the body adds to. -/
structure Flow where
  context : Option BlocksContext
  responseSize : Nat

/-- What is returned: a response whose body is wrapped or not, or a rejection. -/
inductive Reply where
  | response (response : Response) (metered : Bool)
  | rejected (status : Nat) (message : String)

/-! ## Sanitizing -/

def sensitiveKeys : List String :=
  ["authorization", "cookie", "set-cookie", "secret", "x-blocks-service-key", "x-api-key", "token",
    "access_token", "refresh_token", "password"]

def isSensitiveKey (rt : Runtime) (key : String) : Bool :=
  if key.isEmpty then false
  else
    let keyLower := rt.lower key
    sensitiveKeys.contains keyLower || isIn "token" keyLower || isIn "secret" keyLower || isIn "password" keyLower

def sanitizeDict (rt : Runtime) (d : Dict String String) : Dict String String :=
  d.map (fun entry => (entry.1, if isSensitiveKey rt entry.1 then "[REDACTED]" else entry.2))

/-- `dict(headers)`: of a name the first value counts. -/
def headersDict (headers : List (String × String)) : Dict String String :=
  headers.foldl (fun d entry => d.setdefault entry.1 entry.2) []

/-- `dict(query_params)`: of a name the last value counts. -/
def queryDict (query : List (String × String)) : Dict String String :=
  query.foldl (fun d entry => d.set entry.1 entry.2) []

section Model
variable (sv : Service)

/-- `json.dumps(sanitize_dict(d))`. -/
def dumpsSanitized (d : Dict String String) : Json :=
  .str (sv.dumps (.obj ((sanitizeDict sv.rt d).map (fun entry => (entry.1, .str entry.2)))))

/-! ## The middleware -/

/-- `int(request.headers.get("content-length", 0))`. -/
def requestSizeOf (request : Incoming) : Except Exc Int :=
  match request.header "content-length" with
  | none => .ok 0
  | some text =>
    match toInt text with
    | some n => .ok n
    | none => .error (Cache.intError text)

def isIncluded (includedPaths : List String) (path : String) : Bool :=
  (if includedPaths.isEmpty then ["/api"] else includedPaths).any (fun p =>
    path == p || startsWith path (String.ofList (p.toList.rdropWhile (fun c => c == '/' || c == ' ')) ++ "/"))

def createContext (request : Incoming) (tenant : Tenant) : BlocksContext where
  tenantId := tenant.tenantId.getD ""
  requestUri := request.path
  expireOn := some sv.now
  originalTenantId := tenant.tenantId.getD ""
  applicationDomain := (resolveApplicationDomain sv.rt request.toRequest).getD ""

def setContext (context : BlocksContext) : Program Flow Unit :=
  Program.update (fun flow => ((), { flow with context := some context }))

/-- `_instrument_response`. -/
def instrumentResponse (response : Response) (requestSize : Int) : Program Flow Reply := do
  Program.update (fun flow => ((), { flow with responseSize := 0 }))
  let responseSize ← Program.update (fun flow => (flow.responseSize, flow))
  Program.setProperties [
    ("request.size.bytes", .int requestSize),
    ("response.size.bytes", .int responseSize),
    ("throughput.total.bytes", .int (requestSize + responseSize)),
    ("usage", .bool true)]
  -- The property of a status that is no success has a key that is no text, and a span takes none of these.
  Program.setProperties [
    ("response.status.code", .int response.statusCode),
    ("response.headers", dumpsSanitized sv (headersDict response.headers))]
  return .response response response.bodyIterator.isSome

/-- The `try` block of `dispatch`. -/
def serve (request : Incoming) (callNext : Except Exc Response) : Program Flow Reply := do
  Program.setProperties [
    ("http.query", dumpsSanitized sv (queryDict request.query)),
    ("http.headers", dumpsSanitized sv (headersDict request.headers))]
  match resolveTenantOrReject sv.rt sv.getTenant sv.getTenantByDomain request.host request.toRequest with
  | .rejected status message => return .rejected status message
  | .tenant tenant => do
    Program.setProperties [
      ("baggage.TenantId", (tenant.tenantId.map Json.str).getD .null),
      ("baggage.IsFromCloud", .str (if sv.isRootTenant tenant then "true" else "false"))]
    let context := createContext sv request tenant
    setContext context
    Program.setProperties [("SecurityContext", .str (sv.printContext context))]
    let size ← Program.ofExcept (requestSizeOf request)
    let response ← Program.ofExcept callNext
    instrumentResponse sv response size

/-- The block with its `except` and its `finally`. -/
def serveAndClear (request : Incoming) (callNext : Except Exc Response) : Program Flow Reply := fun flow =>
  let outcome := (serve sv request callNext).handle (fun e => do
    Program.write [.status false (sv.str e)]
    Program.raise e) flow
  { outcome with state := { outcome.state with context := none } }

/-- `dispatch`, with how `call_next` ends. -/
def dispatch (includedPaths : List String) (request : Incoming) (callNext : Except Exc Response) :
    Program Flow Reply :=
  if isIncluded includedPaths request.path then serveAndClear sv request callNext
  else do
    let response ← Program.ofExcept callNext
    return .response response false

end Model

/-! ## The body, as the client reads it -/

/-- `coming` is what the application's iterator still has, and `entries` what is on the activity. -/
structure Stream where
  metered : Bool
  coming : List Octets
  received : List Octets
  responseSize : Nat
  entries : List Entry

inductive Event where
  | pull

/-- The next chunk. Through `tee_body_iterator` its length is added to the size before it is passed on. -/
def step (s : Stream) : Event → Option Stream
  | .pull =>
    match s.coming with
    | [] => none
    | chunk :: coming => some { s with
        coming
        received := s.received ++ [chunk]
        responseSize := s.responseSize + if s.metered then chunk.length else 0 }

/-- A response that `dispatch` has returned, before its body is read. -/
def Stream.start (outcome : Outcome Flow Reply) : Option Stream :=
  match outcome.result with
  | .ok (.response response metered) =>
    some ⟨metered, response.chunks, [], outcome.state.responseSize, outcome.entries⟩
  | _ => none

/-! ## What every read of the body keeps -/

def totalLength (chunks : List Octets) : Nat := chunks.flatten.length

/-- After some reads of a body: the chunks are those received, then those to come, and the size is that of
the received where they are measured. -/
structure Streamed (start s : Stream) : Prop where
  metered : s.metered = start.metered
  chunks : s.received ++ s.coming = start.received ++ start.coming
  size : s.responseSize + (if start.metered then totalLength start.received else 0) =
    start.responseSize + if start.metered then totalLength s.received else 0
  entries : s.entries = start.entries

section Reads
variable {start s s' : Stream} {event : Event} {events : List Event}

theorem totalLength_append (before after : List Octets) :
    totalLength (before ++ after) = totalLength before + totalLength after := by
  unfold totalLength
  rw [List.flatten_append, List.length_append]

theorem totalLength_eq_zero {chunks : List Octets} : totalLength chunks = 0 ↔ ∀ chunk ∈ chunks, chunk = [] := by
  unfold totalLength
  rw [List.length_eq_zero_iff, List.flatten_eq_nil_iff]

theorem step_streamed (hs : Streamed start s) (h : step s event = some s') : Streamed start s' := by
  obtain ⟨hmetered, hchunks, hsize, hentries⟩ := hs
  cases event
  unfold step at h
  cases hcoming : s.coming with
  | nil =>
    rw [hcoming] at h
    cases h
  | cons chunk coming =>
    rw [hcoming] at h
    cases h
    refine ⟨hmetered, ?_, ?_, hentries⟩
    · rw [← hchunks, hcoming, List.append_assoc, List.singleton_append]
    · have hone : totalLength [chunk] = chunk.length := by rw [totalLength, List.flatten_singleton]
      simp only [hmetered, totalLength_append, hone]
      cases hflag : start.metered with
      | false =>
        rw [hflag] at hsize
        exact hsize
      | true =>
        rw [hflag] at hsize
        simp only [if_true] at hsize ⊢
        omega

theorem run_streamed (h : Run step (fun _ _ => True) start events s) : Streamed start s :=
  h.invariant ⟨rfl, rfl, rfl, rfl⟩ (fun hs _ => step_streamed hs)

/-- A body can be read to its end, and not further. -/
theorem read_whole (s : Stream) :
    ∃ s', Run step (fun _ _ => True) s (List.replicate s.coming.length .pull) s' ∧ s'.coming = [] := by
  generalize hcoming : s.coming = coming
  induction coming generalizing s with
  | nil => exact ⟨s, .nil, hcoming⟩
  | cons chunk coming ih =>
    obtain ⟨next, hstep, hrest⟩ : ∃ next, step s .pull = some next ∧ next.coming = coming := by
      unfold step
      rw [hcoming]
      exact ⟨_, rfl, rfl⟩
    obtain ⟨s', hrun, hnone⟩ := ih next hrest
    exact ⟨s', .cons trivial hstep hrun, hnone⟩

end Reads

/-! ## What is recorded -/

def property? : Entry → Option (String × Json)
  | .property key value => some (key, value)
  | _ => none

/-- The value an activity has under a key: the last one set. -/
def recorded (entries : List Entry) (key : String) : Option Json := (entries.reverse.filterMap property?).lookup key

theorem recorded_append (before after : List Entry) (key : String) :
    recorded (before ++ after) key = (recorded after key).or (recorded before key) := by
  unfold recorded
  rw [List.reverse_append, List.filterMap_append, List.lookup_append]

/-- The sizes on the activity are that of the body, and its sum with that of the request. -/
structure Metered (entries : List Entry) (requestSize : Int) (total : Nat) : Prop where
  responseSize : recorded entries "response.size.bytes" = some (.int total)
  throughput : recorded entries "throughput.total.bytes" = some (.int (requestSize + total))

section Dispatch
variable {sv : Service} {request : Incoming} {size : Int} {response : Response} {includedPaths : List String}
  {flow : Flow}

/-- A request the middleware validates: its path is one of those included, it has a tenant, and its size
can be read. -/
structure Validated (sv : Service) (includedPaths : List String) (request : Incoming) (size : Int) : Prop where
  path : isIncluded includedPaths request.path = true
  tenant : ∃ tenant, resolveTenantOrReject sv.rt sv.getTenant sv.getTenantByDomain request.host
    request.toRequest = .tenant tenant
  size : requestSizeOf request = .ok size

/-- What `_instrument_response` writes. The size of the response is still the one it starts with. -/
def instrumentEntries (sv : Service) (response : Response) (size : Int) : List Entry :=
  [.property "request.size.bytes" (.int size), .property "response.size.bytes" (.int 0),
    .property "throughput.total.bytes" (.int (size + 0)), .property "usage" (.bool true),
    .property "response.status.code" (.int response.statusCode),
    .property "response.headers" (dumpsSanitized sv (headersDict response.headers))]

/-- A program that ends so, whatever it has written before its last entries. -/
def EndsAs (outcome : Outcome Flow Reply) (reply : Reply) (context : Option BlocksContext) (last : List Entry) : Prop :=
  ∃ before, outcome = ⟨.ok reply, ⟨context, 0⟩, before ++ last⟩

theorem EndsAs.after {α : Type} {m : Program Flow α} {f : α → Program Flow Reply} {a : α} {reply : Reply}
    {context : Option BlocksContext} {last : List Entry} (hm : (m flow).result = .ok a)
    (h : EndsAs (f a (m flow).state) reply context last) : EndsAs ((m >>= f) flow) reply context last := by
  obtain ⟨before, he⟩ := h
  refine ⟨(m flow).entries ++ before, ?_⟩
  change m.bind f flow = _
  unfold Program.bind
  rw [hm]
  simp only [he, List.append_assoc]

theorem instrumentResponse_ends : EndsAs (instrumentResponse sv response size flow)
    (.response response response.bodyIterator.isSome) flow.context (instrumentEntries sv response size) :=
  ⟨[], rfl⟩

theorem serve_ends (h : Validated sv includedPaths request size) (response : Response) (flow : Flow) :
    ∃ context, EndsAs (serve sv request (.ok response) flow)
      (.response response response.bodyIterator.isSome) context (instrumentEntries sv response size) := by
  obtain ⟨tenant, htenant⟩ := h.tenant
  refine ⟨some (createContext sv request tenant), ?_⟩
  unfold serve
  rw [htenant, h.size]
  apply EndsAs.after rfl
  apply EndsAs.after rfl
  apply EndsAs.after rfl
  apply EndsAs.after rfl
  apply EndsAs.after rfl
  apply EndsAs.after rfl
  exact instrumentResponse_ends

/-- A validated request gets the response of the application, and the sizes are recorded before its body
is read. -/
theorem dispatch_ends (h : Validated sv includedPaths request size) (response : Response) (flow : Flow) :
    EndsAs (dispatch sv includedPaths request (.ok response) flow)
      (.response response response.bodyIterator.isSome) none (instrumentEntries sv response size) := by
  obtain ⟨context, before, he⟩ := serve_ends h response flow
  refine ⟨before, ?_⟩
  unfold dispatch
  rw [h.path]
  change serveAndClear sv request (.ok response) flow = _
  unfold serveAndClear Program.handle
  simp only [he]

theorem recorded_instrument (sv : Service) (response : Response) (size : Int) (before : List Entry) :
    recorded (before ++ instrumentEntries sv response size) "response.size.bytes" = some (.int 0) ∧
    recorded (before ++ instrumentEntries sv response size) "throughput.total.bytes" = some (.int (size + 0)) := by
  rw [recorded_append, recorded_append]
  exact ⟨rfl, rfl⟩

/-- The body that the client reads is that of the application, measured, with the sizes on the activity. -/
theorem start_dispatch (h : Validated sv includedPaths request size) {start : Stream}
    (hstart : Stream.start (dispatch sv includedPaths request (.ok response) flow) = some start) :
    ∃ before, start =
      ⟨response.bodyIterator.isSome, response.chunks, [], 0, before ++ instrumentEntries sv response size⟩ := by
  obtain ⟨before, hdispatch⟩ := dispatch_ends h response flow
  rw [hdispatch] at hstart
  cases hstart
  exact ⟨before, rfl⟩

section Whole
variable {start s : Stream} {events : List Event}

/-- The size that the wrapper has counted at the end of the body is the one to record. -/
theorem counted_whole (h : Validated sv includedPaths request size)
    (hstart : Stream.start (dispatch sv includedPaths request (.ok response) flow) = some start)
    (hread : Run step (fun _ _ => True) start events s) (hwhole : s.coming = []) :
    s.responseSize = totalLength response.chunks := by
  obtain ⟨before, rfl⟩ := start_dispatch h hstart
  obtain ⟨_, hchunks, hsize, _⟩ := run_streamed hread
  rw [hwhole, List.append_nil, List.nil_append] at hchunks
  rw [hchunks] at hsize
  cases hbody : response.bodyIterator with
  | none =>
    simp only [hbody, Response.chunks] at hsize ⊢
    exact hsize
  | some chunks =>
    simp only [hbody, Option.isSome_some, if_true, Nat.zero_add] at hsize
    exact hsize

/-- The sizes on the activity are those from before the body was read, so the client gets the chunks as
they are, and the size recorded is theirs just when every one of them is empty. -/
theorem metered_iff (h : Validated sv includedPaths request size)
    (hstart : Stream.start (dispatch sv includedPaths request (.ok response) flow) = some start)
    (hread : Run step (fun _ _ => True) start events s) (hwhole : s.coming = []) :
    s.received = response.chunks ∧
      (Metered s.entries size (totalLength response.chunks) ↔ ∀ chunk ∈ response.chunks, chunk = []) := by
  obtain ⟨before, rfl⟩ := start_dispatch h hstart
  obtain ⟨_, hchunks, _, hentries⟩ := run_streamed hread
  rw [hwhole, List.append_nil, List.nil_append] at hchunks
  refine ⟨hchunks, ?_⟩
  obtain ⟨hsize, hthroughput⟩ := recorded_instrument sv response size before
  rw [hentries, ← totalLength_eq_zero]
  constructor
  · intro hmetered
    have hzero := hmetered.responseSize
    rw [hsize, Option.some.injEq, Json.int.injEq] at hzero
    exact Int.ofNat_eq_zero.mp hzero.symm
  · intro hzero
    rw [hzero]
    exact ⟨hsize, hthroughput⟩

end Whole

end Dispatch

def acmeService : Service where
  rt := asciiRuntime
  dumps _ := "\x7b\x7d"
  printContext _ := "\x7b\x7d"
  str _ := ""
  now := ⟨"2024-01-01T00:00:00"⟩
  getTenant key := if key = "acme" then some { tenantId := some "acme" } else none
  getTenantByDomain _ := none
  isRootTenant _ := false

def acmeRequest : Incoming where
  headers := [("x-blocks-key", "acme"), ("content-length", "12")]
  path := "/api/orders"
  host := some "orders.example.com"

theorem acmeRequest_validated : Validated acmeService [] acmeRequest 12 where
  path := by decide
  tenant := ⟨{ tenantId := some "acme" }, rfl⟩
  size := rfl

def emptyChunk : Response := ⟨200, [], some [[]]⟩

def twoChunks : Response := ⟨200, [], some [[99, 104], [117]]⟩

/-- Of a body of one empty chunk the sizes are right, and of one of two chunks they are not. -/
theorem metered_empty_only : (∃ s : Stream, s.received = [[]] ∧ Metered s.entries 12 0) ∧
    ∃ s : Stream, s.received = [[99, 104], [117]] ∧ ¬ Metered s.entries 12 3 := by
  constructor
  · obtain ⟨start, hstart⟩ : ∃ start,
        Stream.start (dispatch acmeService [] acmeRequest (.ok emptyChunk) ⟨none, 0⟩) = some start := ⟨_, rfl⟩
    obtain ⟨s, hread, hwhole⟩ := read_whole start
    obtain ⟨hreceived, hmetered⟩ := metered_iff acmeRequest_validated hstart hread hwhole
    exact ⟨s, hreceived, hmetered.mpr (fun chunk hm => List.mem_singleton.mp hm)⟩
  · obtain ⟨start, hstart⟩ : ∃ start,
        Stream.start (dispatch acmeService [] acmeRequest (.ok twoChunks) ⟨none, 0⟩) = some start := ⟨_, rfl⟩
    obtain ⟨s, hread, hwhole⟩ := read_whole start
    obtain ⟨hreceived, hmetered⟩ := metered_iff acmeRequest_validated hstart hread hwhole
    refine ⟨s, hreceived, fun hsizes => ?_⟩
    have hempty := hmetered.mp hsizes [117] (by decide)
    cases hempty

/-- Of a body of two chunks the size recorded is none. -/
theorem chunks_not_metered : ¬ ∀ (request : Incoming) (size : Int) (response : Response) (flow : Flow)
    (events : List Event) (start s : Stream), Validated acmeService [] request size →
    Stream.start (dispatch acmeService [] request (.ok response) flow) = some start →
    Run step (fun _ _ => True) start events s → s.coming = [] →
    s.received = response.chunks ∧ Metered s.entries size (totalLength response.chunks) := by
  intro h
  obtain ⟨start, hstart⟩ : ∃ start,
      Stream.start (dispatch acmeService [] acmeRequest (.ok twoChunks) ⟨none, 0⟩) = some start := ⟨_, rfl⟩
  obtain ⟨s, hread, hwhole⟩ := read_whole start
  have hmetered := (h acmeRequest 12 twoChunks _ _ start s acmeRequest_validated hstart hread hwhole).2.responseSize
  have hentries := (run_streamed hread).entries
  obtain ⟨before, rfl⟩ := start_dispatch acmeRequest_validated hstart
  rw [hentries, (recorded_instrument _ _ _ before).1] at hmetered
  cases hmetered

end BlocksGenesis.Middlewares.ResponseSize
