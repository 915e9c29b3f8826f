import BlocksGenesis.Lmt.Activity

/-! The trace and the baggage of a message: from the span that sends it to the spans of its handler, in another
process. -/

namespace BlocksGenesis.Message.HopTraced
open Python Machine BlocksGenesis.Lmt BlocksGenesis.Lmt.Activity

inductive Transport where
  | azure
  | rabbit

/-- The header `Baggage`, once it is read. -/
def baggageFields (root : Dict String AttributeValue) : Fields :=
  root.map (fun entry => (entry.1, attributeJson entry.2))

/-! ## The span of the worker -/

/-- A value of the baggage, as `set_attribute` has it of the worker. -/
def Transport.read (sdk : Sdk) (rt : Runtime) : Transport → Json → Option AttributeValue
  | .azure, v => sdk.taken v
  | .rabbit, v => some (.str (v.toStr rt))

/-- The same of a value that a span held. -/
def Transport.arrives (rt : Runtime) : Transport → AttributeValue → AttributeValue
  | .azure, value => value
  | .rabbit, value => .str ((attributeJson value).toStr rt)

def Transport.arrivals (rt : Runtime) (transport : Transport) (root : Dict String AttributeValue) :
    Dict String AttributeValue :=
  root.map (fun entry => (entry.1, transport.arrives rt entry.2))

def Transport.spanName : Transport → String
  | .azure => "process.messaging.azure.service.bus"
  | .rabbit => "process.messaging.rabbitmq"

/-- What is on the span before the baggage: `source` is the id of the message, or the name of its queue. -/
def Transport.attributes (source securityContext body tenantId : String) :
    Transport → List (String × AttributeValue)
  | .azure => [("messaging.system", .str "azure.servicebus"), ("message.id", .str source),
      ("SecurityContext", .str securityContext), ("message.body", .str body), ("baggage.TenantId", .str tenantId),
      ("usage", .one (.bool true))]
  | .rabbit => [("messaging.system", .str "rabbitmq"), ("messaging.destination.name", .str source),
      ("SecurityContext", .str securityContext), ("baggage.TenantId", .str tenantId), ("usage", .one (.bool true))]

def Transport.baggage (sdk : Sdk) (rt : Runtime) (transport : Transport) (fields : Fields) :
    List (String × AttributeValue) :=
  fields.filterMap (fun entry => (transport.read sdk rt entry.2).map (fun value => (baggagePrefix ++ entry.1, value)))

/-- What is on the span after the baggage. -/
def Transport.attributesAfter (body : String) : Transport → List (String × AttributeValue)
  | .azure => []
  | .rabbit => [("message.body", .str body)]

def traceparent (traceId spanId : String) : String := "00-" ++ traceId ++ "-" ++ spanId ++ "-01"

/-- A message, as far as its telemetry goes. -/
structure Carried where
  traceId : String
  spanId : String
  tenantId : String
  securityContext : String
  baggage : Fields
  source : String
  body : String

/-- What is on the span of a worker. -/
def Transport.entries (sdk : Sdk) (rt : Runtime) (transport : Transport) (message : Carried) :
    List (String × AttributeValue) :=
  transport.attributes message.source message.securityContext message.body message.tenantId ++
    transport.baggage sdk rt message.baggage ++ transport.attributesAfter message.body

/-- What a worker does before it runs the handler. `extract` is the propagator of the library. -/
def consumerEvents (sdk : Sdk) (rt : Runtime) (extract : String → Option SpanContext) (transport : Transport)
    (message : Carried) (flow : Nat) (time : Int) : List Activity.Event :=
  let remote := if message.traceId.isEmpty || message.spanId.isEmpty then none
    else extract (traceparent message.traceId message.spanId)
  .openSpan flow transport.spanName "SpanKind.CONSUMER" remote time ::
    (transport.entries sdk rt message).map (fun entry => .setCurrentProperty flow entry.1 entry.2)

/-! ## The sending side -/

/-- The span of the activity that a send starts. -/
def sendSpan (sdk : Sdk) (p : Activity.State) (flow : Nat) (name : String) (time : Int) : Span :=
  (newActivity sdk p flow name time).span

/-- What the activity of a send puts on its message. -/
def carriedBy (sdk : Sdk) (p : Activity.State) (flow : Nat) (name : String) (time : Int)
    (tenantId securityContext source body : String) : Carried where
  traceId := hex 32 (sendSpan sdk p flow name time).traceId
  spanId := hex 16 (sendSpan sdk p flow name time).spanId
  tenantId
  securityContext
  baggage := baggageFields (rootAttributes p flow)
  source
  body

/-! ## What arrives -/

/-- An entry of the baggage at the other end: one of the message, or the tenant of the context where the message
names none. -/
def Arrived (rt : Runtime) (transport : Transport) (root : Dict String AttributeValue) (tenantId key : String)
    (value : AttributeValue) : Prop :=
  (∃ held, (key, held) ∈ root ∧ value = transport.arrives rt held) ∨
    key = "TenantId" ∧ value = .str tenantId ∧ "TenantId" ∉ root.map Prod.fst

section Attributes
variable {sdk : Sdk} {rt : Runtime} {root : Dict String AttributeValue} {key tenantId : String} {value : AttributeValue}

theorem read_arrives (hsdk : sdk.Lawful) (transport : Transport) (h : sdk.accepts value = true) :
    transport.read sdk rt (attributeJson value) = some (transport.arrives rt value) := by
  cases transport with
  | azure => exact hsdk.takesBack value h
  | rabbit => rfl

theorem arrives_accepted (hsdk : sdk.Lawful) (transport : Transport) (h : sdk.accepts value = true) :
    sdk.accepts (transport.arrives rt value) = true := by
  cases transport with
  | azure => exact h
  | rabbit => exact hsdk.acceptsOne _

/-- The baggage a worker puts on its span. -/
theorem baggage_arrives (hsdk : sdk.Lawful) (transport : Transport)
    (haccepted : ∀ entry ∈ root, sdk.accepts entry.2 = true) :
    transport.baggage sdk rt (baggageFields root) =
      baggageOf (transport.arrivals rt root) := by
  induction root with
  | nil => rfl
  | cons entry root ih =>
    have hrest := ih (fun other hm => haccepted other (List.mem_cons_of_mem _ hm))
    unfold Transport.baggage baggageFields at hrest ⊢
    rw [List.map_cons, List.filterMap_cons, read_arrives hsdk transport (haccepted entry List.mem_cons_self)]
    dsimp only [Option.map_some]
    rw [hrest]
    rfl

theorem attributes_nodup (transport : Transport) (source securityContext body : String) :
    ((transport.attributes source securityContext body tenantId).map Prod.fst).Nodup := by
  cases transport with
  | azure => simp [Transport.attributes]
  | rabbit => simp [Transport.attributes]

/-- The tenant is the only baggage among the attributes of a worker's own. -/
theorem attributes_baggage (transport : Transport) (source securityContext body : String) :
    (baggagePrefix ++ key, value) ∈ transport.attributes source securityContext body tenantId ↔
      key = "TenantId" ∧ value = .str tenantId := by
  have htenant : ∀ {other : String}, baggagePrefix ++ key = other → startsWith other baggagePrefix = true := by
    rintro _ rfl
    exact startsWith_baggage key
  have hkey : baggagePrefix ++ key = "baggage.TenantId" ↔ key = "TenantId" := by
    have heq : "baggage.TenantId" = baggagePrefix ++ "TenantId" := by decide
    rw [heq]
    exact ⟨baggagePrefix_inj, fun h => by rw [h]⟩
  have hother : ∀ other : String, startsWith other baggagePrefix = false → baggagePrefix ++ key ≠ other := by
    intro other hno he
    rw [htenant he] at hno
    cases hno
  have h1 := hother "messaging.system" (by decide)
  have h2 := hother "message.id" (by decide)
  have h3 := hother "SecurityContext" (by decide)
  have h4 := hother "message.body" (by decide)
  have h5 := hother "usage" (by decide)
  have h6 := hother "messaging.destination.name" (by decide)
  cases transport with
  | azure => simp [Transport.attributes, h1, h2, h3, h4, h5, hkey]
  | rabbit => simp [Transport.attributes, h1, h3, h5, h6, hkey]

theorem attributes_accepted (hsdk : sdk.Lawful) (transport : Transport) (source securityContext body : String) :
    ∀ entry ∈ transport.attributes source securityContext body tenantId, entry.1 ≠ "" ∧ sdk.accepts entry.2 = true := by
  cases transport with
  | azure => simp [Transport.attributes, hsdk.acceptsOne]
  | rabbit => simp [Transport.attributes, hsdk.acceptsOne]

theorem attributesAfter_accepted (hsdk : sdk.Lawful) (transport : Transport) (body : String) :
    ∀ entry ∈ transport.attributesAfter body, entry.1 ≠ "" ∧ sdk.accepts entry.2 = true := by
  cases transport with
  | azure => simp [Transport.attributesAfter]
  | rabbit => simp [Transport.attributesAfter, hsdk.acceptsOne]

theorem attributesAfter_nodup (transport : Transport) (body : String) :
    ((transport.attributesAfter body).map Prod.fst).Nodup := by
  cases transport with
  | azure => simp [Transport.attributesAfter]
  | rabbit => simp [Transport.attributesAfter]

theorem attributesAfter_baggage (transport : Transport) (body key : String) :
    baggagePrefix ++ key ∉ (transport.attributesAfter body).map Prod.fst := by
  have hbody : baggagePrefix ++ key ≠ "message.body" := by
    intro he
    have hstart := startsWith_baggage key
    rw [he] at hstart
    exact absurd hstart (by decide)
  cases transport with
  | azure => simp [Transport.attributesAfter]
  | rabbit => simpa [Transport.attributesAfter] using hbody

theorem attributes_six (transport : Transport) (source securityContext body tenantId : String) :
    (transport.attributes source securityContext body tenantId).length + (transport.attributesAfter body).length =
      6 := by
  cases transport with
  | azure => rfl
  | rabbit => rfl

/-- What a worker's span has as baggage, where there is room for it. -/
theorem entries_baggage {span : Span} {message : Carried} (hsdk : sdk.Lawful) (transport : Transport)
    (hend : span.endTime = none) (hnone : span.attributes = []) (hmessage : message.baggage = baggageFields root)
    (hkeys : (root.map Prod.fst).Nodup) (haccepted : ∀ entry ∈ root, sdk.accepts entry.2 = true)
    (hroom : 6 + root.length ≤ sdk.attributeLimit) :
    (baggagePrefix ++ key, value) ∈ (sdk.setAttributes span (transport.entries sdk rt message)).attributes ↔
      Arrived rt transport root message.tenantId key value := by
  have hnames : (transport.arrivals rt root).map Prod.fst = root.map Prod.fst := by
    simp [Transport.arrivals, Function.comp_def]
  have hnamed : baggagePrefix ++ key ∈ (baggageOf (transport.arrivals rt root)).map Prod.fst ↔
      key ∈ root.map Prod.fst := by
    rw [baggageOf_keys, hnames, List.mem_map_of_injective (fun _ _ he => baggagePrefix_inj he)]
  have harrivals : ∀ entry ∈ baggageOf (transport.arrivals rt root),
      entry.1 ≠ "" ∧ sdk.accepts entry.2 = true := by
    intro entry hentry
    obtain ⟨_, harrival, rfl⟩ := List.mem_map.mp hentry
    obtain ⟨held, hheld, rfl⟩ := List.mem_map.mp harrival
    exact ⟨baggagePrefix_append_ne _, arrives_accepted hsdk transport (haccepted held hheld)⟩
  have hsix := attributes_six transport message.source message.securityContext message.body message.tenantId
  have howned := hsdk.setAttributes_length span
    (transport.attributes message.source message.securityContext message.body message.tenantId)
  have hbaggage := hsdk.setAttributes_length (sdk.setAttributes span
    (transport.attributes message.source message.securityContext message.body message.tenantId))
    (baggageOf (transport.arrivals rt root))
  have hlength : (baggageOf (transport.arrivals rt root)).length = root.length := by
    simp [baggageOf, Transport.arrivals]
  have hempty : span.attributes.length = 0 := by rw [hnone, List.length_nil]
  unfold Transport.entries Arrived
  rw [hmessage, baggage_arrives hsdk transport haccepted, Sdk.setAttributes_append, Sdk.setAttributes_append,
    hsdk.mem_setAttributes ((hsdk.setAttributes_endTime ..).trans ((hsdk.setAttributes_endTime ..).trans hend))
      (attributesAfter_nodup transport message.body) (attributesAfter_accepted hsdk transport message.body) (by omega),
    hsdk.mem_setAttributes ((hsdk.setAttributes_endTime ..).trans hend) (baggageOf_nodup (hnames ▸ hkeys)) harrivals
      (by omega),
    hsdk.mem_setAttributes hend (attributes_nodup transport _ _ _) (attributes_accepted hsdk transport _ _ _)
      (by omega),
    attributes_baggage, mem_baggageOf, hnamed, hnone]
  have hlast := attributesAfter_baggage transport message.body key
  have hnew : (baggagePrefix ++ key, value) ∉ transport.attributesAfter message.body :=
    fun hm => hlast (List.mem_map.mpr ⟨_, hm, rfl⟩)
  constructor
  · rintro (hm | ⟨hm | ⟨⟨rfl, rfl⟩ | ⟨hm, _⟩, habsent⟩, _⟩)
    · exact absurd hm hnew
    · obtain ⟨entry, hentry, he⟩ := List.mem_map.mp hm
      cases he
      exact .inl ⟨entry.2, hentry, rfl⟩
    · exact .inr ⟨rfl, rfl, habsent⟩
    · cases hm
  · rintro (⟨held, hm, rfl⟩ | ⟨rfl, rfl, habsent⟩)
    · exact .inr ⟨.inl (List.mem_map.mpr ⟨_, hm, rfl⟩), hlast⟩
    · exact .inr ⟨.inr ⟨.inl ⟨rfl, rfl⟩, habsent⟩, hlast⟩

end Attributes

/-! ## The two processes -/

section Hop
variable {sdk : Sdk} {rt : Runtime} {extract : String → Option SpanContext} {q q' : Activity.State} {flow i : Nat}

theorem foldl_setProperty {span : Span} (hsdk : sdk.Lawful) (hend : span.endTime = none)
    (entries : List (String × AttributeValue)) :
    entries.foldl (fun span entry => setProperty sdk span entry.1 entry.2) span = sdk.setAttributes span entries := by
  induction entries generalizing span with
  | nil => rfl
  | cons entry entries ih =>
    have hset : setProperty sdk span entry.1 entry.2 = sdk.setAttribute span entry.1 entry.2 := by
      rw [setProperty, Span.isRecording, hend]
      rfl
    rw [List.foldl_cons, hset, ih ((hsdk.setAttribute_endTime ..).trans hend)]
    rfl

theorem setCurrentProperties_run (h : q.currentSpan flow = some i) (entries : List (String × AttributeValue)) :
    (entries.map (fun entry => Activity.Event.setCurrentProperty flow entry.1 entry.2)).foldlM (Activity.step sdk) q =
      some (updateSpan q i
        (fun span => entries.foldl (fun span entry => setProperty sdk span entry.1 entry.2) span)) := by
  induction entries generalizing q with
  | nil => exact congrArg some (updateSpan_same q i).symm
  | cons entry entries ih =>
    have hstep : Activity.step sdk q (.setCurrentProperty flow entry.1 entry.2) =
        some (updateSpan q i (fun span => setProperty sdk span entry.1 entry.2)) := by
      simp [Activity.step, onCurrent, h]
    have hcurrent : (updateSpan q i (fun span => setProperty sdk span entry.1 entry.2)).currentSpan flow = some i := h
    rw [List.map_cons, List.foldlM_cons, hstep, Option.bind_eq_bind, Option.bind_some, ih hcurrent,
      updateSpan_updateSpan]
    rfl

/-- The span of the worker, when the handler starts. -/
theorem consumerEvents_run {transport : Transport} {message : Carried} {time : Int} {remote : SpanContext}
    (hsdk : sdk.Lawful) (hflow : flow < q.current.length) (htrace : message.traceId.isEmpty = false)
    (hspan : message.spanId.isEmpty = false) (hsampled : remote.sampled = true)
    (hextract : extract (traceparent message.traceId message.spanId) = some remote)
    (hrun : (consumerEvents sdk rt extract transport message flow time).foldlM (Activity.step sdk) q = some q') :
    q'.currentSpan flow = some q.spans.length ∧ q'.spans.length = q.spans.length + 1 ∧
      ∃ recorded, q'.spans[q.spans.length]? = some recorded ∧ recorded.sampled = true ∧
        recorded.span.traceId = remote.traceId ∧ recorded.span.parent = some remote.spanId ∧
        ∃ span, span.endTime = none ∧ span.attributes = [] ∧
          recorded.span.attributes = (sdk.setAttributes span (transport.entries sdk rt message)).attributes := by
  unfold consumerEvents at hrun
  rw [htrace, hspan, hextract, List.foldlM_cons] at hrun
  have hopen : Activity.step sdk q (.openSpan flow transport.spanName "SpanKind.CONSUMER" (some remote) time) =
      some (openSpan sdk q flow transport.spanName "SpanKind.CONSUMER" (some remote) time) := if_pos hflow
  have hcurrent : (openSpan sdk q flow transport.spanName "SpanKind.CONSUMER" (some remote) time).currentSpan flow =
      some q.spans.length := by
    have hset := currentSpan_set (s := q) (j := flow) hflow (some q.spans.length)
    rw [if_pos rfl] at hset
    exact hset
  change (Activity.step sdk q (.openSpan flow transport.spanName "SpanKind.CONSUMER" (some remote) time)).bind _ = _
    at hrun
  rw [hopen, Option.bind_some, setCurrentProperties_run hcurrent] at hrun
  cases hrun
  refine ⟨hcurrent, by simp [openSpan, attach], ?_⟩
  obtain ⟨traceId, spanId, hstarts⟩ :=
    hsdk.starts q.spans.length (some remote) transport.spanName "SpanKind.CONSUMER" time
  have hstarted : (startSpan sdk q transport.spanName "SpanKind.CONSUMER" false none (some remote) time).sampled =
      true := (hsdk.parentBased ..).trans hsampled
  have hget : (openSpan sdk q flow transport.spanName "SpanKind.CONSUMER" (some remote) time).spans[q.spans.length]? =
      some (startSpan sdk q transport.spanName "SpanKind.CONSUMER" false none (some remote) time) :=
    List.getElem?_concat_length
  have hspanOf : (startSpan sdk q transport.spanName "SpanKind.CONSUMER" false none (some remote) time).span =
      (sdk.startSpan q.spans.length (some remote) transport.spanName "SpanKind.CONSUMER" time).1 := rfl
  obtain ⟨attributes, hset⟩ := hsdk.setAttributes_only
    (sdk.startSpan q.spans.length (some remote) transport.spanName "SpanKind.CONSUMER" time).1
    (transport.entries sdk rt message)
  refine ⟨_, updateSpan_get_self hget, ?_⟩
  rw [if_pos hstarted]
  dsimp only
  rw [hspanOf, foldl_setProperty hsdk (hsdk.startSpan_endTime ..)]
  refine ⟨hstarted, ?_, ?_, _, hsdk.startSpan_endTime .., hsdk.startSpan_attributes .., rfl⟩
  · rw [hset, hstarts]
    rfl
  · rw [hset, hstarts]
    rfl

theorem hex_isEmpty (width n : Nat) : (hex width n).isEmpty = false := by
  have hdigits : Nat.toDigits 16 n ≠ [] := Nat.toDigits_ne_nil
  have hlist : (hex width n).toList ≠ [] := by
    unfold hex
    rw [String.toList_ofList]
    exact fun h => hdigits (List.append_eq_nil_iff.mp h).2
  cases h : (hex width n).isEmpty with
  | false => rfl
  | true =>
    rw [String.isEmpty_iff.mp h] at hlist
    exact absurd rfl hlist

/-- The tenant that the telemetry of a message is written for: that of the baggage where it names one. -/
def messageTenant (root : Dict String AttributeValue) (tenantId t : String) : Prop :=
  ("TenantId", .str t) ∈ root ∨ "TenantId" ∉ root.map Prod.fst ∧ t = tenantId

/-- What an activity finds at its root: each key once, and values that a span can hold. -/
theorem rootAttributes_valid {p : Activity.State} (hformed : Formed sdk p) (origin : Nat) :
    ((rootAttributes p origin).map Prod.fst).Nodup ∧ ∀ entry ∈ rootAttributes p origin, sdk.accepts entry.2 = true := by
  unfold rootAttributes
  cases hfound : (parentOf p (p.currentSpan origin)).bind Recorded.readable with
  | none => exact ⟨List.nodup_nil, List.forall_mem_nil _⟩
  | some span =>
    obtain ⟨recorded, hrecorded, hreadable⟩ := Option.bind_eq_some_iff.mp hfound
    obtain ⟨_, hspan⟩ := Option.ite_none_right_eq_some.mp hreadable
    cases hspan
    obtain ⟨i, _, hget⟩ := Option.bind_eq_some_iff.mp hrecorded
    have hvalid := hformed.ordered.attributes recorded (List.mem_of_getElem? hget)
    refine ⟨findRootAttributes_nodup hvalid.distinct, fun entry hentry => ?_⟩
    obtain ⟨own, hown⟩ := findRootAttributes_value hvalid.distinct hentry
    exact hvalid.accepted (own, entry.2) hown

end Hop

/-- A request of acme, in a process that served another one before. -/
def sendingProcess : List Activity.Event :=
  [.openFlow, .openSpan 0 "GET /health" "SpanKind.SERVER" none 0, .openFlow,
    .openSpan 1 "POST /api/orders" "SpanKind.SERVER" none 1, .setCurrentProperty 1 tenantAttribute (.str "acme")]

def acmeExtract (text : String) : Option SpanContext :=
  if text = traceparent (hex 32 1) (hex 16 2) then some ⟨1, 2, true⟩ else none

/-- The handler of the message reads the cache. -/
def handlerReads : List Activity.Event := [.start 0 "Redis::GetStringValue" 3, .stop 0 1 4]

end BlocksGenesis.Message.HopTraced
