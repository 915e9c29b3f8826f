import BlocksGenesis.Message.Identity

namespace BlocksGenesis.Message
open Python BlocksGenesis.Auth BlocksGenesis.Delegation

/-! ## One message of a Service Bus receiver -/

/-- The name or the value of an application property: bytes are given by what UTF-8 makes of
them, if anything. -/
inductive Property where
  | value (v : Json)
  | bytes (utf8 : Option String)

/-- The body of a message, as `_decode_message_body` finds it: sections of bytes, text it prints,
or parts that cannot be joined. -/
inductive Body where
  | absent
  | sections (utf8 : Option String)
  | text (s : String)
  | unjoinable

structure ServiceBusMessage where
  applicationProperties : List (Property × Property) := []
  body : Body := .absent

/-- What a worker runs: the registered handlers, and what Service Bus and the grant store answer
when a message is settled and its grant released. -/
structure Worker where
  resolve : String → Except Exc Handler
  completeMessage : ServiceBusMessage → Except Exc Unit := fun _ => .ok ()
  releaseDelegationGrant : String → Except Exc Unit := fun _ => .ok ()

def Property.decode : Property → Except Exc Json
  | .value v => .ok v
  | .bytes (some s) => .ok (.str s)
  | .bytes none => .error (.other "UnicodeDecodeError")

/-- The properties with their bytes decoded. Of two names that decode to one the later counts. -/
def decodeAppProperties : List (Property × Property) → Except Exc (List (Json × Json))
  | [] => .ok []
  | (name, value) :: rest => do
    let name ← name.decode
    let value ← value.decode
    return (← decodeAppProperties rest) ++ [(name, value)]

def appProperty (properties : List (Json × Json)) (name : String) (default : Json) : Json :=
  match properties.find? (fun p => isText name p.1) with
  | some p => p.2
  | none => default

def decodeMessageBody : Body → Except Exc String
  | .absent => .ok "\x7b\x7d"
  | .sections (some s) => .ok s
  | .sections none => .error (.other "UnicodeDecodeError")
  | .text s => .ok s
  | .unjoinable => .error (.typeError "sequence item: expected a bytes-like object")

/-- The baggage is put on the span. Text that is not JSON is passed over; anything else that is
no dictionary is an error of the message. -/
def readBaggage (rt : Runtime) : Json → Except Exc Unit
  | .str s =>
    match rt.loads s with
    | .ok (.obj _) => .ok ()
    | .ok _ => .error (.attributeError "object has no attribute 'items'")
    | .error .jsonDecode => .ok ()
    | .error e => .error e
  | _ => .error (.typeError "the JSON object must be str, bytes or bytearray")

def processInSpan (rt : Runtime) (worker : Worker) (message : ServiceBusMessage) (properties : List (Json × Json))
    (ambient : Ambient) : Handled :=
  let event := do
    readBaggage rt (appProperty properties "Baggage" (.str "\x7b\x7d"))
    let body ← decodeMessageBody message.body
    readEventMessage (← rt.loads body)
  match event with
  | .error e => .failed e ambient
  | .ok (type, body) =>
    (processMessage rt worker.resolve type body ambient).andThen (do
      worker.completeMessage message
      match appProperty properties "DelegationGrant" .null with
      | .str id => if id.isEmpty then pure () else worker.releaseDelegationGrant id
      | _ => pure ())

/-- Handle one message. The holders are cleared on the way out of the `try` only: what raises
before it leaves them as they are. -/
def messageHandler (rt : Runtime) (worker : Worker) (message : ServiceBusMessage) (ambient : Ambient) : Handled :=
  match decodeAppProperties message.applicationProperties with
  | .error e => .failed e ambient
  | .ok properties =>
    let restored := restoreSecurityContext rt (appProperty properties "SecurityContext" (.str "")) ambient
    match setDelegatedToken (appProperty properties "DelegationGrant" .null) restored with
    | .error e => .failed e restored
    | .ok entered =>
      let handled := processInSpan rt worker message properties entered
      { handled with ambient := { handled.ambient with context := none, grant := none } }

/-- The loop of a receiver. All messages run in one task; no error of one ends the loop. -/
def processReceiver (rt : Runtime) (worker : Worker) : List ServiceBusMessage → Ambient → List Handled
  | [], _ => []
  | message :: messages, ambient =>
    let handled := messageHandler rt worker message ambient
    handled :: processReceiver rt worker messages handled.ambient

/-! ## Isolation of the messages -/

def ownContext (rt : Runtime) (raw : Json) : Option BlocksContext :=
  if !raw.truthy then none
  else match readSecurityContext rt raw with
    | .ok context => context
    | .error _ => none

def ownGrant : Json → Option String
  | .str id => if isWellFormed id then some id else none
  | _ => none

/-- The identity a message carries, as a function of its own properties. -/
def ownIdentity (rt : Runtime) (message : ServiceBusMessage) : Option BlocksContext × Option String :=
  match decodeAppProperties message.applicationProperties with
  | .error _ => (none, none)
  | .ok properties =>
    (ownContext rt (appProperty properties "SecurityContext" (.str "")),
      ownGrant (appProperty properties "DelegationGrant" .null))

/-- The message restores a context, and then names a grant by something that is neither a string
nor falsy. -/
def Leaks (rt : Runtime) (message : ServiceBusMessage) : Prop :=
  ∃ properties, decodeAppProperties message.applicationProperties = .ok properties ∧
    (ownContext rt (appProperty properties "SecurityContext" (.str ""))).isSome = true ∧
    (appProperty properties "DelegationGrant" .null).truthy = true ∧
    ∀ id, appProperty properties "DelegationGrant" .null ≠ .str id

/-- A handler saw the message's own identity, if one ran, and nothing is left for the next. -/
structure Isolated (rt : Runtime) (message : ServiceBusMessage) (handled : Handled) : Prop where
  seen : ∀ seen, handled.seen = some seen → seen = ownIdentity rt message
  clear : Clear handled.ambient

theorem restoreSecurityContext_context (rt : Runtime) (raw : Json) {ambient : Ambient}
    (h : ambient.context = none) : (restoreSecurityContext rt raw ambient).context = ownContext rt raw := by
  unfold restoreSecurityContext ownContext
  split
  · exact h
  · cases readSecurityContext rt raw with
    | ok context => rfl
    | error e => exact h

theorem restoreSecurityContext_grant (rt : Runtime) (raw : Json) (ambient : Ambient) :
    (restoreSecurityContext rt raw ambient).grant = ambient.grant := by
  unfold restoreSecurityContext
  split
  · rfl
  · split
    · rfl
    · rfl

theorem setDelegatedToken_ok {v : Json} {ambient entered : Ambient}
    (h : setDelegatedToken v ambient = .ok entered) :
    entered = { ambient with grant := ownGrant v } := by
  cases v with
  | str id => exact (Except.ok.inj h).symm
  | _ =>
    simp only [setDelegatedToken] at h
    split at h
    · cases h
    · exact (Except.ok.inj h).symm

theorem setDelegatedToken_error {v : Json} {ambient : Ambient} :
    (∃ e, setDelegatedToken v ambient = .error e) ↔ v.truthy = true ∧ ∀ id, v ≠ .str id := by
  cases v with
  | str id => simp [setDelegatedToken]
  | _ =>
    simp only [setDelegatedToken, ne_eq, reduceCtorEq, not_false_eq_true, implies_true, and_true]
    split
    · rename_i ht
      simp [ht]
    · rename_i ht
      simp [ht]

theorem processInSpan_seen {rt : Runtime} {worker : Worker} {message : ServiceBusMessage}
    {properties : List (Json × Json)} {ambient : Ambient} {seen : Option BlocksContext × Option String}
    (h : (processInSpan rt worker message properties ambient).seen = some seen) :
    seen = (ambient.context, ambient.grant) := by
  unfold processInSpan at h
  dsimp only at h
  split at h
  · cases h
  · rw [Handled.andThen_seen] at h
    exact processMessage_seen h

/-- From clear holders, a message is isolated unless it is one that leaks. -/
theorem messageHandler_isolated {rt : Runtime} (worker : Worker) {message : ServiceBusMessage}
    {ambient : Ambient} (hclear : Clear ambient) (hleak : ¬ Leaks rt message) :
    Isolated rt message (messageHandler rt worker message ambient) := by
  unfold messageHandler
  cases hp : decodeAppProperties message.applicationProperties with
  | error e => exact ⟨fun _ h => (Option.some_ne_none _ h.symm).elim, hclear⟩
  | ok properties =>
    dsimp only
    have hcontext := restoreSecurityContext_context rt
      (appProperty properties "SecurityContext" (.str "")) hclear.context
    cases hset : setDelegatedToken (appProperty properties "DelegationGrant" .null)
        (restoreSecurityContext rt (appProperty properties "SecurityContext" (.str "")) ambient) with
    | error e =>
      obtain ⟨htruthy, htext⟩ := setDelegatedToken_error.mp ⟨e, hset⟩
      refine ⟨fun _ h => (Option.some_ne_none _ h.symm).elim, ?_, ?_⟩
      · change (restoreSecurityContext rt _ ambient).context = none
        rw [hcontext]
        cases hown : ownContext rt (appProperty properties "SecurityContext" (.str "")) with
        | none => rfl
        | some c => exact absurd ⟨properties, hp, by rw [hown]; rfl, htruthy, htext⟩ hleak
      · change (restoreSecurityContext rt _ ambient).grant = none
        rw [restoreSecurityContext_grant, hclear.grant]
    | ok entered =>
      have hentered := setDelegatedToken_ok hset
      refine ⟨?_, rfl, rfl⟩
      intro seen hseen
      rw [processInSpan_seen hseen, hentered, ownIdentity, hp]
      dsimp only
      rw [hcontext]

/-- What a leaking message restored is still there when the loop goes back to wait. -/
theorem messageHandler_leaks {rt : Runtime} {worker : Worker} {message : ServiceBusMessage}
    {ambient : Ambient} (hclear : Clear ambient) (hleak : Leaks rt message) :
    (messageHandler rt worker message ambient).ambient.context ≠ none := by
  obtain ⟨properties, hp, hown, htruthy, htext⟩ := hleak
  obtain ⟨e, hset⟩ := setDelegatedToken_error.mpr ⟨htruthy, htext⟩
  unfold messageHandler
  rw [hp]
  dsimp only
  rw [hset]
  change (restoreSecurityContext rt _ ambient).context ≠ none
  rw [restoreSecurityContext_context rt _ hclear.context]
  intro hnone
  rw [hnone] at hown
  cases hown

theorem processReceiver_isolated {rt : Runtime} {worker : Worker} {messages : List ServiceBusMessage}
    {ambient : Ambient} (hclear : Clear ambient) :
    List.Forall₂ (Isolated rt) messages (processReceiver rt worker messages ambient) ↔
      ∀ message ∈ messages, ¬ Leaks rt message := by
  induction messages generalizing ambient with
  | nil => simp [processReceiver]
  | cons message messages ih =>
    rw [processReceiver, List.forall₂_cons, List.forall_mem_cons]
    constructor
    · intro h
      obtain ⟨hhead, htail⟩ := h
      refine ⟨?_, (ih hhead.clear).mp htail⟩
      intro hleak
      exact messageHandler_leaks hclear hleak hhead.clear.context
    · intro h
      obtain ⟨hleak, hrest⟩ := h
      have hhead := messageHandler_isolated worker hclear hleak
      exact ⟨hhead, (ih hhead.clear).mpr hrest⟩

/-- A receiver keeps its messages apart exactly when none of them leaks. -/
theorem receiver_isolated_iff (rt : Runtime) (worker : Worker) (messages : List ServiceBusMessage) :
    List.Forall₂ (Isolated rt) messages (processReceiver rt worker messages {}) ↔
      ∀ message ∈ messages, ¬ Leaks rt message :=
  processReceiver_isolated ⟨rfl, rfl⟩

/-! ## Two messages, one of them malformed -/

def contextText : String := "\x7b\"TenantId\": \"acme\", \"UserId\": \"ada\"\x7d"

def eventText : String := "\x7b\"type\": \"ping\", \"body\": \"1\"\x7d"

/-- A runtime that reads the JSON texts of the two messages. -/
def pingRuntime : Runtime :=
  { asciiRuntime with
    loads := fun text =>
      if text = contextText then .ok (.obj [("TenantId", .str "acme"), ("UserId", .str "ada")])
      else if text = eventText then .ok (.obj [("type", .str "ping"), ("body", .str "1")])
      else if text = "1" then .ok (.int 1)
      else if text = "\x7b\x7d" then .ok (.obj [])
      else .error .jsonDecode }

def pingWorker : Worker where
  resolve _ := .ok (fun _ ambient => (.ok (), ambient))

def numberedGrant : ServiceBusMessage where
  applicationProperties :=
    [(.value (.str "SecurityContext"), .value (.str contextText)), (.value (.str "DelegationGrant"), .value (.int 5))]
  body := .text eventText

/-- The handler of a message that carries no identity sees ada's. -/
theorem identity_leaks :
    (processReceiver pingRuntime pingWorker [numberedGrant, { body := .text eventText }] {}).map
        Handled.seen = [none, some (some { tenantId := "acme", userId := "ada" }, none)] ∧
      ownIdentity pingRuntime { body := .text eventText } = (none, none) := by
  constructor
  · decide
  · rfl

end BlocksGenesis.Message
