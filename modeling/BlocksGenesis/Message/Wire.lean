import BlocksGenesis.Auth.Transport
import BlocksGenesis.Message.Delivery
import Mathlib.Data.List.Forall2

/-! A message from the call that sends it to the handler that gets it, over either transport. -/

namespace BlocksGenesis.Message
open Python BlocksGenesis.Auth BlocksGenesis.Delegation

/-! ## What is sent -/

structure ConsumerMessage where
  payload : Fields
  payloadType : String
  context : Option String := none

/-- A send: the message, the context of the flow, what the activity of the send gives, and the grant. -/
structure Outbound where
  message : ConsumerMessage
  securityContext : Option BlocksContext
  traceId : String
  spanId : String
  rootAttributes : Fields
  delegationGrant : Option String

/-- `create_sanitized_for_transport`, with no context too. -/
def sanitizedPayload : Option BlocksContext → Fields
  | none => []
  | some context => createSanitizedForTransport context

section Send
variable (dumps : Json → String) (out : Outbound)

/-- The text of the `EventMessage`. -/
def messageText : String :=
  dumps (.obj [("body", .str (dumps (.obj out.message.payload))), ("type", .str out.message.payloadType)])

/-- A context that the caller gave is sent as it is. -/
def securityContextText : String :=
  (given out.message.context).getD (dumps (.obj (sanitizedPayload out.securityContext)))

def headers (tenantId : String) : List (String × String) :=
  [("TenantId", tenantId), ("TraceId", out.traceId), ("SpanId", out.spanId),
    ("SecurityContext", securityContextText dumps out), ("Baggage", dumps (.obj out.rootAttributes))] ++
  ((given out.delegationGrant).map (fun id => ("DelegationGrant", id))).toList

/-- The message of `_send_to_azure_bus_async`, which reads the tenant of the context before anything else. -/
def azureMessage : Except Exc ServiceBusMessage :=
  match out.securityContext with
  | none => .error (.attributeError "'NoneType' object has no attribute 'tenant_id'")
  | some context => .ok {
      applicationProperties := (headers dumps out context.tenantId).map
        (fun header => (.value (.str header.1), .value (.str header.2)))
      body := .sections (some (messageText dumps out)) }

/-- The message of `_send_message_async`. -/
def rabbitMessage : RabbitMessage where
  headers := (headers dumps out ((out.securityContext.map BlocksContext.tenantId).getD "")).map
    (fun header => (header.1, .value (.str header.2)))
  body := .bytes (some (messageText dumps out))

end Send

/-! ## The way -/

/-- A text comes back as it was, or as its bytes. -/
inductive Carried : Property → Property → Prop where
  | same {p : Property} : Carried p p
  | encoded {s : String} : Carried (.value (.str s)) (.bytes (some s))

def AzureCarried (sent received : ServiceBusMessage) : Prop :=
  received.body = sent.body ∧ List.Forall₂ (fun p q => Carried p.1 q.1 ∧ Carried p.2 q.2)
    sent.applicationProperties received.applicationProperties

def RabbitCarried (sent received : RabbitMessage) : Prop :=
  received.body = sent.body ∧
    List.Forall₂ (fun p q => q.1 = p.1 ∧ Carried p.2 q.2) sent.headers received.headers

/-- What this message has in JSON is read back as it was written. -/
structure Decodes (rt : Runtime) (dumps : Json → String) (out : Outbound) : Prop where
  payload : rt.loads (dumps (.obj out.message.payload)) = .ok (.obj out.message.payload)
  event : rt.loads (messageText dumps out) = .ok (.obj [("body", .str (dumps (.obj out.message.payload))),
    ("type", .str out.message.payloadType)])
  context : rt.loads (dumps (.obj (sanitizedPayload out.securityContext))) =
    .ok (.obj (sanitizedPayload out.securityContext))
  written : (dumps (.obj (sanitizedPayload out.securityContext))).isEmpty = false
  baggage : rt.loads (dumps (.obj out.rootAttributes)) = .ok (.obj out.rootAttributes)
  date : ∀ context date, out.securityContext = some context → context.expireOn = some date →
    rt.readDateTime (.str date.iso) = .ok date

/-- The context at the other end: that of the sender, sanitized, unless the caller gave one. -/
def arrivingContext (rt : Runtime) (out : Outbound) : Option BlocksContext :=
  match given out.message.context with
  | some text => ownContext rt (.str text)
  | none => out.securityContext.map BlocksContext.sanitized

/-- The flow a handler of the message runs in. -/
def arriving (rt : Runtime) (out : Outbound) (ambient : Ambient) : Ambient :=
  { ambient with context := arrivingContext rt out, grant := out.delegationGrant }

section Wire
variable {rt : Runtime} {dumps : Json → String} {out : Outbound} {ambient : Ambient}

theorem Carried.decode {p q : Property} (h : Carried p q) : q.decode = p.decode := by
  cases h with
  | same => rfl
  | encoded => rfl

theorem Carried.decodeText {p q : Property} (h : Carried p q) : q.decodeText rt = p.decodeText rt := by
  cases h with
  | same => rfl
  | encoded => rfl

theorem decodeAppProperties_carried {sent received : List (Property × Property)}
    (h : List.Forall₂ (fun p q => Carried p.1 q.1 ∧ Carried p.2 q.2) sent received) :
    decodeAppProperties received = decodeAppProperties sent := by
  induction h with
  | nil => rfl
  | cons hentry _ ih =>
    unfold decodeAppProperties
    rw [hentry.1.decode, hentry.2.decode, ih]

theorem decodeAppProperties_texts (texts : List (String × String)) :
    decodeAppProperties (texts.map (fun text => (.value (.str text.1), .value (.str text.2)))) =
      .ok (texts.reverse.map (fun text => (.str text.1, .str text.2))) := by
  induction texts with
  | nil => rfl
  | cons text texts ih =>
    rw [List.map_cons, decodeAppProperties, ih, List.reverse_cons, List.map_append]
    rfl

theorem header_carried {sent received : RabbitMessage} (h : RabbitCarried sent received) (name default : String) :
    received.header rt name default = sent.header rt name default := by
  obtain ⟨_, hheaders⟩ := h
  unfold RabbitMessage.header
  generalize sent.headers = before at hheaders
  generalize received.headers = after at hheaders
  induction hheaders with
  | nil => rfl
  | @cons p q before after hentry _ ih =>
    obtain ⟨hname, hvalue⟩ := hentry
    rw [List.lookup_cons, List.lookup_cons, hname]
    cases name == p.1 with
    | true => exact hvalue.decodeText
    | false => exact ih

theorem wellFormed_isEmpty {id : String} (h : isWellFormed id = true) : id.isEmpty = false := by
  cases hempty : id.isEmpty with
  | false => rfl
  | true =>
    rw [String.isEmpty_iff.mp hempty] at h
    exact absurd h (by decide)

theorem given_of_wellFormed (h : ∀ id, out.delegationGrant = some id → isWellFormed id = true) :
    given out.delegationGrant = out.delegationGrant := by
  cases hgrant : out.delegationGrant with
  | none => rfl
  | some id => simp [given, wellFormed_isEmpty (h id hgrant)]

/-- The text a context travels as gives it back, sanitized. -/
theorem ownContext_sent (h : Decodes rt dumps out) :
    ownContext rt (.str (securityContextText dumps out)) = arrivingContext rt out := by
  unfold securityContextText arrivingContext
  cases given out.message.context with
  | some text => rfl
  | none =>
    have htruthy : (Json.str (dumps (.obj (sanitizedPayload out.securityContext)))).truthy = true := by
      rw [Json.truthy, h.written]
      rfl
    dsimp only [Option.getD_none]
    have hread : readSecurityContext rt (.str (dumps (.obj (sanitizedPayload out.securityContext)))) =
        .ok (out.securityContext.map BlocksContext.sanitized) := by
      change (rt.loads (dumps (.obj (sanitizedPayload out.securityContext))) >>= fromTransport rt) = _
      rw [h.context]
      cases hcontext : out.securityContext with
      | none => rfl
      | some context =>
        have hpayload : createSanitizedForTransport context ≠ [] := by
          unfold createSanitizedForTransport
          exact List.cons_ne_nil _ _
        exact fromTransport_of_values hpayload (transportValues_sanitized context)
          (fun date => h.date context date hcontext)
    unfold ownContext
    rw [htruthy, hread]
    rfl

theorem restored_sent (h : Decodes rt dumps out) (hclear : ambient.context = none) :
    restoreSecurityContext rt (.str (securityContextText dumps out)) ambient =
      { ambient with context := arrivingContext rt out } := by
  have hcontext := restoreSecurityContext_context rt (.str (securityContextText dumps out)) hclear
  rw [ownContext_sent h] at hcontext
  rw [← hcontext]
  unfold restoreSecurityContext
  split
  · rfl
  · split
    · rfl
    · rfl

/-- The holders of the flow, once the context and the grant of the message are in them. -/
theorem entered_sent (h : Decodes rt dumps out) (hclear : ambient.context = none)
    (hgrant : ∀ id, out.delegationGrant = some id → isWellFormed id = true) :
    setDelegatedToken ((out.delegationGrant.map Json.str).getD .null)
      (restoreSecurityContext rt (.str (securityContextText dumps out)) ambient) = .ok (arriving rt out ambient) := by
  rw [restored_sent h hclear, arriving]
  cases hid : out.delegationGrant with
  | none => rfl
  | some id => simp [setDelegatedToken, hgrant id hid]

theorem event_sent (h : Decodes rt dumps out) : (rt.loads (messageText dumps out) >>= readEventMessage) =
    .ok (out.message.payloadType, dumps (.obj out.message.payload)) := by
  rw [h.event]
  rfl

theorem baggage_sent (h : Decodes rt dumps out) :
    readBaggage rt (.str (dumps (.obj out.rootAttributes))) = .ok () := by
  unfold readBaggage
  dsimp only
  rw [h.baggage]

/-- The properties of a message, as `decode_app_properties` gives them. -/
def decodedProperties (dumps : Json → String) (out : Outbound) (tenantId : String) : List (Json × Json) :=
  (headers dumps out tenantId).reverse.map (fun text => (.str text.1, .str text.2))

/-- What the worker for Service Bus reads of a message that was sent. -/
theorem azure_properties {context : BlocksContext} {sent received : ServiceBusMessage}
    (hcontext : out.securityContext = some context) (hsend : azureMessage dumps out = .ok sent)
    (hcarried : AzureCarried sent received) :
    received.body = .sections (some (messageText dumps out)) ∧
      decodeAppProperties received.applicationProperties = .ok (decodedProperties dumps out context.tenantId) := by
  unfold azureMessage at hsend
  rw [hcontext] at hsend
  cases hsend
  obtain ⟨hbody, hproperties⟩ := hcarried
  refine ⟨hbody, ?_⟩
  rw [decodeAppProperties_carried hproperties, decodeAppProperties_texts, decodedProperties]

theorem sent_headers (hgrant : ∀ id, out.delegationGrant = some id → isWellFormed id = true) (tenantId : String) :
    headers dumps out tenantId = [("TenantId", tenantId), ("TraceId", out.traceId), ("SpanId", out.spanId),
      ("SecurityContext", securityContextText dumps out), ("Baggage", dumps (.obj out.rootAttributes))] ++
      (out.delegationGrant.map (fun id => ("DelegationGrant", id))).toList := by
  rw [headers, given_of_wellFormed hgrant]

/-- The properties of a message by their names. -/
theorem sent_properties (hgrant : ∀ id, out.delegationGrant = some id → isWellFormed id = true) (tenantId : String) :
    let properties := decodedProperties dumps out tenantId
    appProperty properties "SecurityContext" (.str "") = .str (securityContextText dumps out) ∧
    appProperty properties "Baggage" (.str "\x7b\x7d") = .str (dumps (.obj out.rootAttributes)) ∧
    appProperty properties "DelegationGrant" .null = (out.delegationGrant.map Json.str).getD .null := by
  rw [decodedProperties, sent_headers hgrant]
  cases out.delegationGrant with
  | none => simp [appProperty, isText]
  | some id => simp [appProperty, isText]

/-- The same of the headers of a RabbitMQ message. -/
theorem sent_rabbit_headers (hgrant : ∀ id, out.delegationGrant = some id → isWellFormed id = true) :
    let header := (rabbitMessage dumps out).header rt
    (∃ text, header "TraceId" "" = .ok text) ∧ (∃ text, header "SpanId" "" = .ok text) ∧
    (∃ text, header "TenantId" "" = .ok text) ∧
    header "SecurityContext" "" = .ok (securityContextText dumps out) ∧
    header "Baggage" "\x7b\x7d" = .ok (dumps (.obj out.rootAttributes)) ∧
    header "DelegationGrant" "" = .ok (out.delegationGrant.getD "") := by
  unfold RabbitMessage.header rabbitMessage
  dsimp only
  rw [sent_headers hgrant]
  cases out.delegationGrant with
  | none => simp [List.lookup_cons, Property.decodeText, Json.toStr]
  | some id => simp [List.lookup_cons, Property.decodeText, Json.toStr]

theorem processMessage_resolved {resolve : String → Except Exc Handler} {handler : Handler} {type body : String}
    {payload : Json} (hhandler : resolve type = .ok handler) (hpayload : rt.loads body = .ok payload)
    (ambient : Ambient) : processMessage rt resolve type body ambient =
      ⟨some (ambient.context, ambient.grant), (handler payload ambient).1, (handler payload ambient).2⟩ := by
  unfold processMessage
  rw [hhandler]
  dsimp only
  rw [hpayload]

theorem Handled.andThen_eq (handled : Handled) (next : Except Exc Unit) :
    handled.andThen next = { handled with result := handled.result >>= fun _ => next } := by
  obtain ⟨seen, result, after⟩ := handled
  cases result with
  | error e => rfl
  | ok _ => rfl

/-- `message_handler` on a message of `_send_to_azure_bus_async`. -/
theorem azure_handled {worker : Worker} {handler : Handler} {context : BlocksContext}
    {sent received : ServiceBusMessage} (hdecodes : Decodes rt dumps out)
    (hgrant : ∀ id, out.delegationGrant = some id → isWellFormed id = true) (hclear : ambient.context = none)
    (hhandler : worker.resolve out.message.payloadType = .ok handler)
    (hcontext : out.securityContext = some context) (hsend : azureMessage dumps out = .ok sent)
    (hcarried : AzureCarried sent received) :
    messageHandler rt worker received ambient =
      let entered := arriving rt out ambient
      let (result, after) := handler (.obj out.message.payload) entered
      ⟨some (entered.context, entered.grant), result >>= fun _ => (do
        worker.completeMessage received
        match out.delegationGrant with
        | some id => worker.releaseDelegationGrant id
        | none => pure ()), clearHolders after⟩ := by
  obtain ⟨hbody, hproperties⟩ := azure_properties hcontext hsend hcarried
  obtain ⟨hsecurity, hbaggage, hheader⟩ := @sent_properties dumps out hgrant context.tenantId
  have hread : (do
      readBaggage rt (.str (dumps (.obj out.rootAttributes)))
      let body ← decodeMessageBody received.body
      readEventMessage (← rt.loads body)) =
        (.ok (out.message.payloadType, dumps (.obj out.message.payload)) : Except Exc (String × String)) := by
    rw [hbody, baggage_sent hdecodes]
    exact event_sent hdecodes
  have hspan : processInSpan rt worker received (decodedProperties dumps out context.tenantId)
      (arriving rt out ambient) =
      { processMessage rt worker.resolve out.message.payloadType (dumps (.obj out.message.payload))
          (arriving rt out ambient) with
        result := (handler (.obj out.message.payload) (arriving rt out ambient)).1 >>= fun _ => (do
          worker.completeMessage received
          match out.delegationGrant with
          | some id => worker.releaseDelegationGrant id
          | none => pure ()) } := by
    unfold processInSpan
    rw [hbaggage, hheader, hread]
    dsimp only
    rw [Handled.andThen_eq, processMessage_resolved hhandler hdecodes.payload]
    cases hid : out.delegationGrant with
    | none => rfl
    | some id => simp [wellFormed_isEmpty (hgrant id hid)]
  unfold messageHandler
  rw [hproperties]
  dsimp only
  rw [hsecurity, hheader, entered_sent hdecodes hclear hgrant]
  dsimp only
  rw [hspan, processMessage_resolved hhandler hdecodes.payload]
  rfl

/-- `_process_message` on a message of `_send_message_async`. -/
theorem rabbit_handled {worker : DeliveryWorker} {handler : DeliveryHandler} {received : RabbitMessage}
    (hdecodes : Decodes rt dumps out) (hgrant : ∀ id, out.delegationGrant = some id → isWellFormed id = true)
    (hclear : ambient.context = none) (hhandler : worker.resolve out.message.payloadType = .ok handler)
    (hcarried : RabbitCarried (rabbitMessage dumps out) received) :
    processDelivery rt worker received ambient =
      let (ending, after) := handler (.obj out.message.payload) (arriving rt out ambient)
      settleDelivery worker out.delegationGrant ending after := by
  obtain ⟨⟨trace, htrace⟩, ⟨span, hspan⟩, ⟨tenant, htenant⟩, hsecurity, hbaggage, hheader⟩ :=
    @sent_rabbit_headers rt dumps out hgrant
  have hrestored : restoreMessageContext rt received ambient =
      .ok (dumps (.obj out.rootAttributes), out.delegationGrant, arriving rt out ambient) := by
    have hgiven : given (some (out.delegationGrant.getD "")) = out.delegationGrant := by
      cases hid : out.delegationGrant with
      | none => rfl
      | some id => simp [given, wellFormed_isEmpty (hgrant id hid)]
    unfold restoreMessageContext
    simp only [header_carried hcarried, htrace, hspan, htenant, hsecurity, hbaggage, hheader, hgiven, bind,
      Except.bind, entered_sent hdecodes hclear hgrant]
    rfl
  have hbody : received.bodyText rt = .ok (messageText dumps out) := by
    unfold RabbitMessage.bodyText
    rw [hcarried.1]
    rfl
  unfold processDelivery
  rw [hrestored]
  dsimp only
  rw [baggage_sent hdecodes, hbody]
  dsimp only [bind, Except.bind]
  unfold handleDelivery
  rw [event_sent hdecodes]
  dsimp only
  rw [hhandler]
  dsimp only
  rw [hdecodes.payload]

/-- A message that was sent, on either transport and with its texts carried in either form: the worker runs the
handler of its type on its payload, in a flow that has the context of the sender, sanitized, and the grant of the
send. The handlers' outcome settles the message, and the grant that is released then is the one that was sent. -/
theorem sent_message_handled (hdecodes : Decodes rt dumps out)
    (hgrant : ∀ id, out.delegationGrant = some id → isWellFormed id = true) (hclear : ambient.context = none) :
    (∀ (worker : Worker) handler sent received, worker.resolve out.message.payloadType = .ok handler →
      azureMessage dumps out = .ok sent → AzureCarried sent received →
      messageHandler rt worker received ambient =
        let entered := arriving rt out ambient
        let (result, after) := handler (.obj out.message.payload) entered
        ⟨some (entered.context, entered.grant), result >>= fun _ => (do
          worker.completeMessage received
          match out.delegationGrant with
          | some id => worker.releaseDelegationGrant id
          | none => pure ()), clearHolders after⟩) ∧
    ∀ (worker : DeliveryWorker) handler received, worker.resolve out.message.payloadType = .ok handler →
      RabbitCarried (rabbitMessage dumps out) received →
      processDelivery rt worker received ambient =
        let (ending, after) := handler (.obj out.message.payload) (arriving rt out ambient)
        settleDelivery worker out.delegationGrant ending after := by
  constructor
  · intro worker handler sent received hhandler hsend hcarried
    cases hcontext : out.securityContext with
    | none =>
      unfold azureMessage at hsend
      rw [hcontext] at hsend
      cases hsend
    | some context => exact azure_handled hdecodes hgrant hclear hhandler hcontext hsend hcarried
  · intro worker handler received hhandler hcarried
    exact rabbit_handled hdecodes hgrant hclear hhandler hcarried

end Wire

/-! A message of a flow that ada is in. -/

def orderText : String := "\x7b\"order\": 7\x7d"

def orderEventText : String :=
  "\x7b\"body\": \"\x7b\\\"order\\\": 7\x7d\", \"type\": \"order.created\"\x7d"

def acmeText : String := "\x7b\"TenantId\": \"acme\"\x7d"

def adaText : String :=
  "\x7b\"TenantId\": \"acme\", \"Roles\": [\"admin\"], \"UserId\": \"ada\", \"IsAuthenticated\": true, " ++
  "\"RequestUri\": \"\", \"OrganizationId\": \"hq\", \"ExpireOn\": \"2030-01-01T00:00:00\", " ++
  "\"Email\": \"***@acme.io\", \"Permissions\": [], \"UserName\": \"\", \"PhoneNumber\": \"***4567\", " ++
  "\"DisplayName\": \"\", \"OauthToken\": \"\", \"OriginalTenantId\": \"acme\", " ++
  "\"ApplicationDomain\": \"\", \"Impersonated\": false, \"ClientId\": \"\", \"SessionId\": \"s9\"\x7d"

/-- The texts of the values this message has, told apart by their first keys. -/
def orderDumps : Json → String
  | .obj (("order", _) :: _) => orderText
  | .obj (("body", _) :: _) => orderEventText
  | .obj [("TenantId", _)] => acmeText
  | _ => adaText

def orderOutbound : Outbound where
  message := { payload := [("order", .int 7)], payloadType := "order.created" }
  securityContext := some travellingAda
  traceId := "0af7651916cd43dd8448eb211c80319c"
  spanId := "b7ad6b7169203331"
  rootAttributes := [("TenantId", .str "acme")]
  delegationGrant := some (newGrantId (grantToken '9' (by decide)))

def orderWireRuntime : Runtime :=
  { asciiRuntime with
    loads := fun text =>
      if text = orderText then .ok (.obj [("order", .int 7)])
      else if text = orderEventText then .ok (.obj [("body", .str orderText), ("type", .str "order.created")])
      else if text = acmeText then .ok (.obj [("TenantId", .str "acme")])
      else if text = adaText then .ok (.obj (createSanitizedForTransport travellingAda))
      else .error .jsonDecode }

/-- Takes orders, and nothing else. -/
def orderHandler : Handler := fun payload ambient =>
  match payload with
  | .obj [("order", .int 7)] => (.ok (), ambient)
  | _ => (.error (.other "KeyError"), ambient)

theorem sent_message_handled_order : ∃ sent, azureMessage orderDumps orderOutbound = .ok sent ∧
    (messageHandler orderWireRuntime { resolve := fun _ => .ok orderHandler } sent {}).seen =
      some (some travellingAda.sanitized, orderOutbound.delegationGrant) ∧
    (messageHandler orderWireRuntime { resolve := fun _ => .ok orderHandler } sent {}).result = .ok () := by
  have h1 : orderEventText ≠ orderText := by decide +kernel
  have h2 : acmeText ≠ orderText ∧ acmeText ≠ orderEventText := by decide +kernel
  have h3 : adaText ≠ orderText ∧ adaText ≠ orderEventText ∧ adaText ≠ acmeText := by decide +kernel
  have hpayload : orderWireRuntime.loads orderText = .ok (.obj [("order", .int 7)]) := by
    simp only [orderWireRuntime, if_true]
  have hevent : orderWireRuntime.loads orderEventText =
      .ok (.obj [("body", .str orderText), ("type", .str "order.created")]) := by
    simp only [orderWireRuntime, if_neg h1, if_true]
  have hbaggage : orderWireRuntime.loads acmeText = .ok (.obj [("TenantId", .str "acme")]) := by
    simp only [orderWireRuntime, if_neg h2.1, if_neg h2.2, if_true]
  have hcontext : orderWireRuntime.loads adaText = .ok (.obj (createSanitizedForTransport travellingAda)) := by
    simp only [orderWireRuntime, if_neg h3.1, if_neg h3.2.1, if_neg h3.2.2, if_true]
  have hdecodes : Decodes orderWireRuntime orderDumps orderOutbound := by
    refine ⟨hpayload, hevent, hcontext, by decide +kernel, hbaggage, ?_⟩
    intro context date hcontext hdate
    cases hcontext
    cases hdate
    rfl
  have hgrant : ∀ id, orderOutbound.delegationGrant = some id → isWellFormed id = true := by
    intro id hid
    cases hid
    exact newGrantId_wellFormed _
  obtain ⟨sent, hsend⟩ : ∃ sent, azureMessage orderDumps orderOutbound = .ok sent := ⟨_, rfl⟩
  have hcarried : AzureCarried sent sent := ⟨rfl, List.forall₂_same.mpr (fun _ _ => ⟨.same, .same⟩)⟩
  have hclear : ({} : Ambient).context = none := rfl
  have hhandled := (sent_message_handled hdecodes hgrant hclear).1
    { resolve := fun _ => .ok orderHandler } orderHandler sent sent rfl hsend hcarried
  refine ⟨sent, hsend, ?_⟩
  rw [hhandled]
  exact ⟨rfl, rfl⟩

end BlocksGenesis.Message
