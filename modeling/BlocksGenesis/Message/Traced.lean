import BlocksGenesis.Delegation.Traced
import BlocksGenesis.Message.Settlement

/-! The message clients and the workers with their spans and log lines. What a third party is asked
for ends as the operation says, and no id of a grant is told to it but as the header of a message. -/

namespace BlocksGenesis.Traced
open Python Telemetry BlocksGenesis.Auth BlocksGenesis.Delegation BlocksGenesis.Message

/-- `exc_info=True`: the error is printed below the text. -/
def logError (w : World) (level : Level) (text : String) (e : Exc) : Program State Unit :=
  Program.log level (text ++ "\n" ++ w.str e)

/-! ## Sending -/

/-- A message to send, and how its payload is encoded and each attempt to hand it over ends. -/
structure Outgoing where
  consumerName : String
  payloadType : String
  routingKey : String := ""
  toMany : Bool := false
  ttlSeconds : Option Int := none
  ready : Except Exc Unit := .ok ()
  payload : Except Exc Unit := .ok ()
  publish : Except Exc Unit := .ok ()
  closeSender : Except Exc Unit := .ok ()
  publishAgain : Except Exc Unit := .ok ()

/-- One retry with a new sender. -/
def publishToAzureBus (w : World) (message : Outgoing) : Program State Unit :=
  (Program.ofExcept message.publish).handle (fun e => do
    logError w .warning ("Send to '" ++ message.consumerName ++ "' failed; rebuilding its sender and retrying once") e
    (Program.ofExcept message.closeSender).handle (fun e =>
      logError w .debug ("Ignoring close error on stale sender '" ++ message.consumerName ++ "'") e)
    Program.ofExcept message.publishAgain)

def azureProperties (message : Outgoing) (context : BlocksContext) : Attributes :=
  [("messaging.system", .str "azure.servicebus"), ("messaging.destination", .str message.consumerName),
    ("messaging.destination_kind", .str (if message.toMany then "topic" else "queue")),
    ("messaging.operation", .str "send"), ("messaging.message_type", .str "dict"),
    ("baggage.TenantId", .str context.tenantId)]

/-- `_send_to_azure_bus_async`. The tenant of the span is read from the context, if there is one. -/
def sendToAzureBus (w : World) (flow : Flow) (random : GrantToken) (message : Outgoing) (outage : Outage) :
    Program State Unit :=
  match flow.ambient.context with
  | none =>
    activity w "messaging.azure.servicebus.send" flow []
      (fun _ => Program.raise (.attributeError "'NoneType' object has no attribute 'tenant_id'"))
  | some context =>
    activity w "messaging.azure.servicebus.send" flow (azureProperties message context) (fun inside => do
      Program.ofExcept message.payload
      let _ ← createForSend w inside random message.ttlSeconds outage
      (do
        publishToAzureBus w message
        Program.log .info ("Message published to Azure Service Bus " ++
          (if message.toMany then "topic" else "queue") ++ " '" ++ message.consumerName ++ "'")).handle (fun e => do
        Program.log .error
          ("Failed to publish message to Azure Service Bus '" ++ message.consumerName ++ "': " ++ w.str e)
        Program.raise e))

def rabbitProperties (message : Outgoing) : Attributes :=
  [("messaging.system", .str "rabbitmq"), ("messaging.destination.name", .str message.consumerName),
    ("messaging.destination.kind", .str (if message.toMany then "exchange" else "queue")),
    ("messaging.rabbitmq.routing_key", .str message.routingKey),
    ("messaging.message_type", .str message.payloadType)]

/-- `_send_message_async`. -/
def sendToRabbit (w : World) (flow : Flow) (random : GrantToken) (message : Outgoing) (outage : Outage) :
    Program State Unit := do
  Program.ofExcept message.ready
  activity w "messaging.rabbitmq.send" flow (rabbitProperties message) (fun inside => do
    Program.ofExcept message.payload
    let _ ← createForSend w inside random message.ttlSeconds outage
    (do
      Program.ofExcept message.publish
      Program.log .info ("Message published to " ++ message.consumerName ++ " (is_exchange=" ++
        (if message.toMany then "True" else "False") ++ ") with routing_key=" ++ message.routingKey)).handle (fun e => do
      Program.log .error ("Failed to publish message to " ++ message.consumerName ++ ": " ++ w.str e)
      Program.raise e))

/-! ## Handling -/

/-- How the handler of an event ends, and what the broker and Redis answer about its message. -/
structure Processing where
  handler : String → String → Except Exc Unit
  elapsed : String := "0.0"
  settle : Except Exc Unit := .ok ()
  abandon : Except Exc Unit := .ok ()
  removeOutage : Option Exc := none

/-- `_restore_security_context`, with what it says about a value that cannot be read. -/
def restoreContext (w : World) (raw : Json) (ambient : Ambient) (unread : Exc → Program State Unit) :
    Program State Ambient :=
  if !raw.truthy then pure ambient
  else match readSecurityContext w.rt raw with
    | .ok context => pure { ambient with context }
    | .error e => do
      unread e
      return ambient

/-- Only a well-formed id is held. -/
def holdGrant (delegationGrant : Option String) (ambient : Ambient) : Ambient :=
  { ambient with grant := delegationGrant.filter isWellFormed }

/-- The cached token is dropped without a word. -/
def releaseGrant (w : World) (flow : Flow) (delegationGrant : Option String) (outage : Option Exc) :
    Program State Unit :=
  deleteGrant w flow (given delegationGrant) outage

/-- A Service Bus message: `str` of it, which is its body's text, its decoded properties but the
grant's, and what holding the grant's gives, which raises when it is no string. -/
structure Received where
  messageId : String
  text : String
  properties : List (Json × Json)
  body : Body
  setGrant : Except Exc Unit := .ok ()

def azureSpan (message : Received) : Attributes :=
  [("messaging.system", .str "azure.servicebus"), ("message.id", .str message.messageId),
    ("SecurityContext", appProperty message.properties "SecurityContext" (.str "")),
    ("message.body", .str message.text), ("baggage.TenantId", appProperty message.properties "TenantId" (.str "")),
    ("usage", .bool true)]

/-- The baggage, put on the span. -/
def azureBaggage (w : World) (baggage : Json) : Program State Attributes :=
  match baggage with
  | .str s =>
    match w.rt.loads s with
    | .ok (.obj fields) => do
      let entries : Attributes := fields.map (fun entry => ("baggage." ++ entry.1, entry.2))
      Program.setProperties entries
      return entries
    | .ok _ => Program.raise (.attributeError "object has no attribute 'items'")
    | .error .jsonDecode => do
      Program.log .warning "Invalid baggage JSON"
      return []
    | .error e => Program.raise e
  | _ => Program.raise (.typeError "the JSON object must be str, bytes or bytearray")

def abandonMessage (w : World) (processing : Processing) (text : String) : Program State Unit :=
  (Program.ofExcept processing.abandon).handle (fun e => Program.log .warning (text ++ w.str e))

/-- What happens in the span of a Service Bus message. -/
def processAzureMessage (w : World) (ambient : Ambient) (message : Received) (processing : Processing)
    (delegationGrant : Option String) : Program State Unit := do
  Program.setProperties (azureSpan message)
  let baggage ← azureBaggage w (appProperty message.properties "Baggage" (.str "\x7b\x7d"))
  let body ← Program.ofExcept (decodeMessageBody message.body)
  let (type, payload) ← Program.ofExcept (w.rt.loads body >>= readEventMessage)
  Program.ofExcept (processing.handler type payload)
  Program.log .info ("Processed message " ++ message.messageId ++ " in " ++ processing.elapsed ++ "ms")
  Program.setProperties [("response", .str "Successfully Completed")]
  Program.write [.status true "Message processed successfully"]
  Program.ofExcept processing.settle
  Program.log .info ("Message " ++ message.messageId ++ " completed")
  releaseGrant w { ambient, span := azureSpan message ++ baggage ++ [("response", .str "Successfully Completed")] }
    delegationGrant processing.removeOutage

/-- `message_handler`, and what `process_receiver` does about its error. -/
def handleAzureMessage (w : World) (flow : Flow) (message : Received) (processing : Processing)
    (delegationGrant : Option String) : Program State Unit :=
  (do
    Program.log .info ("Received message: " ++ message.messageId)
    let restored ← restoreContext w (appProperty message.properties "SecurityContext" (.str "")) flow.ambient
      (fun e => Program.log .warning ("Invalid security context: " ++ w.str e))
    Program.ofExcept message.setGrant
    let ambient := holdGrant delegationGrant restored
    (Program.span w.str "process.messaging.azure.service.bus"
      (processAzureMessage w ambient message processing delegationGrant)).handle (fun e => do
      Program.log .error ("Processing failed for message " ++ message.messageId ++ ": " ++ w.str e)
      abandonMessage w processing "Abandon message failed: "
      Program.raise e)).handle (fun e => do
    Program.log .error ("Error in message_handler, skipping message: " ++ w.str e)
    abandonMessage w processing "Failed to abandon message: ")

def rabbitSpan (queueName tenantId securityContext : String) : Attributes :=
  [("messaging.system", .str "rabbitmq"), ("messaging.destination.name", .str queueName),
    ("SecurityContext", .str securityContext), ("baggage.TenantId", .str tenantId), ("usage", .bool true)]

/-- The baggage of a RabbitMQ message: each value is printed. -/
def rabbitBaggage (w : World) (baggage : String) : Program State Attributes :=
  match w.rt.loads baggage with
  | .ok (.obj fields) => do
    let entries : Attributes := fields.map (fun entry => ("baggage." ++ entry.1, .str (entry.2.toStr w.rt)))
    Program.setProperties entries
    return entries
  | .ok _ => Program.raise (.attributeError "object has no attribute 'items'")
  | .error .jsonDecode | .error (.typeError _) => do
    Program.log .warning "Invalid baggage JSON in message headers."
    return []
  | .error e => Program.raise e

/-- The event is handled; whether it was is said, and no error of it goes on. -/
def processRabbitEvent (w : World) (processing : Processing) (body : String) : Program State Bool :=
  (do
    let (type, payload) ← Program.ofExcept (w.rt.loads body >>= readEventMessage)
    Program.ofExcept (processing.handler type payload)
    Program.write [.status true "Message processed successfully"]
    Program.log .info "Message processed successfully."
    return true).handle (fun e => do
    logError w .error "Error processing RabbitMQ message." e
    Program.write [.status false (w.str e)]
    Program.setProperties [("error", .str (w.str e))]
    return false)

/-- What happens in the span of a RabbitMQ message. -/
def processRabbitSpan (w : World) (ambient : Ambient) (message : RabbitMessage)
    (queueName tenantId securityContext baggage : String) (processing : Processing)
    (delegationGrant : Option String) : Program State Unit := do
  Program.setProperties (rabbitSpan queueName tenantId securityContext)
  let entries ← rabbitBaggage w baggage
  let body ← Program.ofExcept (message.bodyText w.rt)
  Program.setProperties [("message.body", .str body)]
  Program.log .info ("Received RabbitMQ message on queue '" ++ queueName ++ "'. Body: " ++ body)
  let processed ← processRabbitEvent w processing body
  Program.ofExcept processing.settle
  if processed then
    releaseGrant w
      { ambient, span := rabbitSpan queueName tenantId securityContext ++ entries ++ [("message.body", .str body)] }
      delegationGrant processing.removeOutage
  else pure ()

/-- `_process_message` in its callback. The headers are those but the grant's. -/
def handleRabbitMessage (w : World) (flow : Flow) (message : RabbitMessage) (queueName : String)
    (processing : Processing) (delegationGrant : Option String) : Program State Unit :=
  (do
    let _ ← Program.ofExcept (message.header w.rt "TraceId" "")
    let _ ← Program.ofExcept (message.header w.rt "SpanId" "")
    let tenantId ← Program.ofExcept (message.header w.rt "TenantId" "")
    let securityContext ← Program.ofExcept (message.header w.rt "SecurityContext" "")
    let baggage ← Program.ofExcept (message.header w.rt "Baggage" "\x7b\x7d")
    let restored ← restoreContext w (.str securityContext) flow.ambient
      (logError w .warning "Could not parse SecurityContext header.")
    Program.span w.str "process.messaging.rabbitmq"
      (processRabbitSpan w (holdGrant delegationGrant restored) message queueName tenantId securityContext baggage
        processing delegationGrant)).handle
    (logError w .error ("Unhandled error in message callback for queue '" ++ queueName ++ "'"))

/-! ## Runs -/

/-- A grant by the place of its id among those handed out, or by a text that came from elsewhere. -/
inductive GrantRef where
  | created (n : Nat)
  | text (delegationId : String)

def GrantRef.resolve (s : State) : GrantRef → Option String
  | .created n => s.created[n]?
  | .text delegationId => some delegationId

/-- Where an operation is made: the flow but for its grant, the grant it holds, the span around it. -/
structure Place where
  ambient : Ambient := {}
  held : Option GrantRef := none
  span : Attributes := []

def Place.flow (place : Place) (s : State) : Flow :=
  { ambient := holdGrant (place.held.bind (GrantRef.resolve s)) place.ambient, span := place.span }

inductive Operation where
  | create (place : Place) (context : Option BlocksContext) (tokenVersion securityStamp : String)
      (ttlSeconds : Option Int) (outage : Option Exc)
  | createForClient (place : Place) (tenantId clientId organizationId : String) (ttlSeconds : Option Int)
      (outage : Option Exc)
  | get (place : Place) (grant : GrantRef) (outage : Option Exc)
  | delete (place : Place) (grant : GrantRef) (outage : Option Exc)
  | sendToAzureBus (place : Place) (message : Outgoing) (outage : Outage)
  | sendToRabbit (place : Place) (message : Outgoing) (outage : Outage)
  | handleAzure (place : Place) (message : Received) (processing : Processing) (grant : Option GrantRef)
  | handleRabbit (place : Place) (message : RabbitMessage) (queueName : String) (processing : Processing)
      (grant : Option GrantRef)
  | expire (grant : GrantRef)

/-- An operation, with the token it draws if it draws one. -/
def perform (w : World) (operation : Operation) (random : GrantToken) : Program State Unit := fun s =>
  match operation with
  | .create place context tokenVersion securityStamp ttlSeconds outage =>
    (createGrant w (place.flow s) random context tokenVersion securityStamp ttlSeconds outage >>= fun _ => pure ()) s
  | .createForClient place tenantId clientId organizationId ttlSeconds outage =>
    (createGrantForClient w (place.flow s) random tenantId clientId organizationId ttlSeconds outage >>=
      fun _ => pure ()) s
  | .get place grant outage => (getGrant w (place.flow s) (grant.resolve s) outage >>= fun _ => pure ()) s
  | .delete place grant outage => deleteGrant w (place.flow s) (grant.resolve s) outage s
  | .sendToAzureBus place message outage => sendToAzureBus w (place.flow s) random message outage s
  | .sendToRabbit place message outage => sendToRabbit w (place.flow s) random message outage s
  | .handleAzure place message processing grant =>
    handleAzureMessage w (place.flow s) message processing (grant.bind (GrantRef.resolve s)) s
  | .handleRabbit place message queueName processing grant =>
    handleRabbitMessage w (place.flow s) message queueName processing (grant.bind (GrantRef.resolve s)) s
  | .expire grant =>
    Program.update (fun s => ((), { s with redis := match grant.resolve s with
      | some id => s.redis.pop (grantKey id)
      | none => s.redis })) s

/-- What a run writes, when `ids` are the tokens its operations draw, if they draw one. What an operation
raises goes to its caller, and the next one is made. -/
def telemetry (w : World) (ids : Nat → GrantToken) : List Operation → State → List Telemetry.Entry
  | [], _ => []
  | operation :: operations, s =>
    let outcome := perform w operation (ids 0) s
    outcome.entries ++ telemetry w (fun n => ids (n + 1)) operations outcome.state

end BlocksGenesis.Traced
