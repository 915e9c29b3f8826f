import BlocksGenesis.Delegation.TokenProvider
import BlocksGenesis.Message.AzureWorker

namespace BlocksGenesis.Message
open Python BlocksGenesis.Auth BlocksGenesis.Delegation

/-! ## What a worker does about one message -/

/-- An awaited step with how it ended, or the cached token of a grant being dropped. -/
inductive Action where
  | handled (result : Except Exc Unit)
  | settled (result : Except Exc Unit)
  | abandoned (result : Except Exc Unit)
  | invalidated (delegationGrant : String)
  | deleted (delegationId : String) (result : Except Exc Unit)

def Action.releases : Action → Bool
  | .invalidated _ | .deleted _ _ => true
  | .handled _ | .settled _ | .abandoned _ => false

def Action.isHandled : Action → Bool
  | .handled _ => true
  | _ => false

/-- The grant records and the cached tokens. -/
structure Grants where
  redis : Redis
  provider : TokenProvider.State

/-- What the worker did in order, what it raised, and the grants afterwards. -/
structure Attempt where
  trace : List Action
  result : Except Exc Unit
  grants : Grants

/-- The registered handlers and what they do to the grants, and how each step that is awaited for
this message ends. -/
structure GrantWorker where
  resolve : String → Except Exc Handler
  handling : Grants → Grants := id
  settle : Except Exc Unit := .ok ()
  abandon : List Action → Except Exc Unit := fun _ => .ok ()
  removeKey : String → Redis → Except Exc Unit × Redis

/-- `delete_async`: nothing for a malformed id, and an error of Redis is logged. -/
def deleteGrant (worker : GrantWorker) (delegationId : String) (grants : Grants) : Attempt :=
  if !isWellFormed delegationId then ⟨[], .ok (), grants⟩
  else
    let (result, redis) := worker.removeKey (grantKey delegationId) grants.redis
    let trace := [.deleted delegationId result]
    match result with
    | .ok _ => ⟨trace, .ok (), { grants with redis }⟩
    | .error _ => ⟨trace, .ok (), { grants with redis }⟩

/-- `_release_delegation_grant`, the same in both workers. -/
def releaseDelegationGrant (worker : GrantWorker) (delegationGrant : Option String) (grants : Grants) : Attempt :=
  match given delegationGrant with
  | none => ⟨[], .ok (), grants⟩
  | some id =>
    let provider := TokenProvider.invalidate grants.provider (some id)
    let deleted := deleteGrant worker id { grants with provider }
    { deleted with trace := .invalidated id :: deleted.trace }

/-- Read the event and run its handler. -/
def dispatch (rt : Runtime) (worker : GrantWorker) (body : String) (ambient : Ambient) (grants : Grants) : Attempt :=
  match rt.loads body >>= readEventMessage with
  | .error e => ⟨[], .error e, grants⟩
  | .ok (type, payload) =>
    let handled := processMessage rt worker.resolve type payload ambient
    ⟨[.handled handled.result], handled.result, worker.handling grants⟩

/-- Release the grant, and go on with what was done before. -/
def Attempt.thenRelease (attempt : Attempt) (worker : GrantWorker) (delegationGrant : Option String) : Attempt :=
  let released := releaseDelegationGrant worker delegationGrant attempt.grants
  { released with trace := attempt.trace ++ released.trace }

def Attempt.log (attempt : Attempt) (action : Action) : Attempt :=
  { attempt with trace := attempt.trace ++ [action] }

/-! ## Service Bus -/

def grantProperty (properties : List (Json × Json)) : Option String :=
  match appProperty properties "DelegationGrant" .null with
  | .str id => some id
  | _ => none

def settleInSpan (rt : Runtime) (worker : GrantWorker) (message : ServiceBusMessage)
    (properties : List (Json × Json)) (ambient : Ambient) (grants : Grants) : Attempt :=
  let body := do
    readBaggage rt (appProperty properties "Baggage" (.str "\x7b\x7d"))
    decodeMessageBody message.body
  match body with
  | .error e => ⟨[], .error e, grants⟩
  | .ok body =>
    let attempt := dispatch rt worker body ambient grants
    match attempt.result with
    | .error _ => attempt
    | .ok _ =>
      match worker.settle with
      | .error e => { attempt.log (.settled (.error e)) with result := .error e }
      | .ok _ => (attempt.log (.settled (.ok ()))).thenRelease worker (grantProperty properties)

/-- `message_handler`: what raises inside the `try` abandons the message and raises on. -/
def attemptMessage (rt : Runtime) (worker : GrantWorker) (message : ServiceBusMessage) (ambient : Ambient)
    (grants : Grants) : Attempt :=
  match decodeAppProperties message.applicationProperties with
  | .error e => ⟨[], .error e, grants⟩
  | .ok properties =>
    let restored := restoreSecurityContext rt (appProperty properties "SecurityContext" (.str "")) ambient
    match setDelegatedToken (appProperty properties "DelegationGrant" .null) restored with
    | .error e => ⟨[], .error e, grants⟩
    | .ok entered =>
      let attempt := settleInSpan rt worker message properties entered grants
      match attempt.result with
      | .ok _ => attempt
      | .error _ => attempt.log (.abandoned (worker.abandon attempt.trace))

/-- What `process_receiver` does with one message: what `message_handler` raises abandons the
message once more, and ends here. -/
def receiveMessage (rt : Runtime) (worker : GrantWorker) (message : ServiceBusMessage) (ambient : Ambient)
    (grants : Grants) : Attempt :=
  let attempt := attemptMessage rt worker message ambient grants
  match attempt.result with
  | .ok _ => attempt
  | .error _ => { attempt.log (.abandoned (worker.abandon attempt.trace)) with result := .ok () }

/-! ## RabbitMQ -/

structure RabbitMessage where
  headers : List (String × Property) := []
  body : Property := .bytes (some "")

/-- `_decode`. -/
def Property.decodeText (rt : Runtime) : Property → Except Exc String
  | .bytes (some s) => .ok s
  | .bytes none => .error (.other "UnicodeDecodeError")
  | .value .null => .ok ""
  | .value v => .ok (v.toStr rt)

def RabbitMessage.header (rt : Runtime) (message : RabbitMessage) (name default : String) : Except Exc String :=
  match message.headers.lookup name with
  | some value => value.decodeText rt
  | none => .ok default

/-- The baggage, the grant and the flow of `_restore_message_context`. -/
def restoreMessageContext (rt : Runtime) (message : RabbitMessage) (ambient : Ambient) :
    Except Exc (String × Option String × Ambient) := do
  let _ ← message.header rt "TraceId" ""
  let _ ← message.header rt "SpanId" ""
  let _ ← message.header rt "TenantId" ""
  let securityContext ← message.header rt "SecurityContext" ""
  let baggage ← message.header rt "Baggage" "\x7b\x7d"
  let delegationGrant := given (some (← message.header rt "DelegationGrant" ""))
  let restored := restoreSecurityContext rt (.str securityContext) ambient
  let entered ← setDelegatedToken ((delegationGrant.map Json.str).getD .null) restored
  return (baggage, delegationGrant, entered)

/-- The text of a body, which `str` gives for what is no bytes. -/
def RabbitMessage.bodyText (rt : Runtime) (message : RabbitMessage) : Except Exc String :=
  match message.body with
  | .bytes (some s) => .ok s
  | .bytes none => .error (.other "UnicodeDecodeError")
  | .value v => .ok (v.toStr rt)

/-- `_process_message`: the message is acknowledged however the handler ends. -/
def processRabbitMessage (rt : Runtime) (worker : GrantWorker) (message : RabbitMessage) (ambient : Ambient)
    (grants : Grants) : Attempt :=
  let opened := do
    let (baggage, delegationGrant, entered) ← restoreMessageContext rt message ambient
    readBaggage rt (.str baggage)
    return (delegationGrant, entered, ← message.bodyText rt)
  match opened with
  | .error e => ⟨[], .error e, grants⟩
  | .ok (delegationGrant, entered, body) =>
    let attempt := dispatch rt worker body entered grants
    match worker.settle with
    | .error e => { attempt.log (.settled (.error e)) with result := .error e }
    | .ok _ =>
      let acknowledged := { attempt.log (.settled (.ok ())) with result := .ok () }
      match attempt.result with
      | .ok _ => acknowledged.thenRelease worker delegationGrant
      | .error _ => acknowledged

/-! ## The order of the steps -/

/-- Business operation, then settle, then release. What fails before the release leaves the grants
as the handler left them, and what fails after the settle is not heard of. -/
structure ReleasesLast (worker : GrantWorker) (grants : Grants) (attempt : Attempt) : Prop where
  order : ∀ before action after, attempt.trace = before ++ action :: after → action.releases = true →
    [Action.handled (.ok ()), .settled (.ok ())].Sublist before
  kept : ¬ [Action.handled (.ok ()), .settled (.ok ())].Sublist attempt.trace →
    attempt.grants = if attempt.trace.any Action.isHandled then worker.handling grants else grants
  settled : .settled (.ok ()) ∈ attempt.trace →
    attempt.result = .ok () ∧ ∀ result, .abandoned result ∉ attempt.trace

/-- Nothing was released, and the message was not settled. -/
structure Unsettled (worker : GrantWorker) (grants : Grants) (attempt : Attempt) : Prop where
  unreleased : ∀ action ∈ attempt.trace, action.releases = false
  unsettled : .settled (.ok ()) ∉ attempt.trace
  kept : attempt.grants = if attempt.trace.any Action.isHandled then worker.handling grants else grants

section Steps
variable {rt : Runtime} {worker : GrantWorker} {grants : Grants} {attempt : Attempt}

theorem Unsettled.releasesLast (h : Unsettled worker grants attempt) : ReleasesLast worker grants attempt where
  order before action after htrace hreleases := by
    have hm : action ∈ attempt.trace := by simp [htrace]
    rw [h.unreleased action hm] at hreleases
    cases hreleases
  kept _ := h.kept
  settled hm := absurd hm h.unsettled

theorem unsettled_untouched (result : Except Exc Unit) : Unsettled worker grants ⟨[], result, grants⟩ := by
  constructor
  · intro action hm
    cases hm
  · intro hm
    cases hm
  · rfl

theorem Attempt.log_isHandled {action : Action} (hnot : action.isHandled = false) :
    (attempt.log action).trace.any Action.isHandled = attempt.trace.any Action.isHandled := by
  simp [Attempt.log, hnot]

/-- An abandoned message, and one whose settle fails, stays unsettled whatever is raised. -/
theorem Unsettled.log {action : Action} (h : Unsettled worker grants attempt) (result : Except Exc Unit)
    (hreleases : action.releases = false) (hsettled : action ≠ .settled (.ok ()))
    (hnot : action.isHandled = false) :
    Unsettled worker grants { attempt.log action with result } where
  unreleased other hm := by
    rcases List.mem_append.mp hm with hm | hm
    · exact h.unreleased other hm
    · rw [List.mem_singleton.mp hm]
      exact hreleases
  unsettled hm := by
    rcases List.mem_append.mp hm with hm | hm
    · exact h.unsettled hm
    · exact hsettled (List.mem_singleton.mp hm).symm
  kept := by
    have hkept := h.kept
    rw [← Attempt.log_isHandled hnot] at hkept
    exact hkept

theorem Unsettled.abandon (h : Unsettled worker grants attempt) (ended result : Except Exc Unit) :
    Unsettled worker grants { attempt.log (.abandoned ended) with result } :=
  h.log result rfl (fun he => nomatch he) rfl

theorem Unsettled.settleFailed (h : Unsettled worker grants attempt) (e : Exc) (result : Except Exc Unit) :
    Unsettled worker grants { attempt.log (.settled (.error e)) with result } :=
  h.log result rfl (fun he => nomatch he) rfl

/-- A message whose handler failed may be acknowledged: nothing is released. -/
theorem Unsettled.acknowledge (h : Unsettled worker grants attempt)
    (habandoned : ∀ result, .abandoned result ∉ attempt.trace) :
    ReleasesLast worker grants { attempt.log (.settled (.ok ())) with result := .ok () } where
  order before action after htrace hreleases := by
    have hm : action ∈ attempt.trace ++ [.settled (.ok ())] := by
      change attempt.trace ++ [.settled (.ok ())] = before ++ action :: after at htrace
      simp [htrace]
    rcases List.mem_append.mp hm with hm | hm
    · rw [h.unreleased action hm] at hreleases
      cases hreleases
    · rw [List.mem_singleton.mp hm] at hreleases
      cases hreleases
  kept _ := by
    have hkept := h.kept
    rw [← Attempt.log_isHandled (rfl : (Action.settled (.ok ())).isHandled = false)] at hkept
    exact hkept
  settled _ := by
    refine ⟨rfl, fun result hm => ?_⟩
    rcases List.mem_append.mp hm with hm | hm
    · exact habandoned result hm
    · cases List.mem_singleton.mp hm

theorem deleteGrant_spec (worker : GrantWorker) (delegationId : String) (grants : Grants) :
    (deleteGrant worker delegationId grants).result = .ok () ∧
      ∀ action ∈ (deleteGrant worker delegationId grants).trace, action.releases = true := by
  unfold deleteGrant
  split
  · exact ⟨rfl, fun _ hm => nomatch hm⟩
  · dsimp only
    split
    · refine ⟨rfl, fun action hm => ?_⟩
      rw [List.mem_singleton.mp hm]
      rfl
    · refine ⟨rfl, fun action hm => ?_⟩
      rw [List.mem_singleton.mp hm]
      rfl

/-- A release never raises, and does nothing but release. -/
theorem releaseDelegationGrant_spec (worker : GrantWorker) (delegationGrant : Option String) (grants : Grants) :
    (releaseDelegationGrant worker delegationGrant grants).result = .ok () ∧
      ∀ action ∈ (releaseDelegationGrant worker delegationGrant grants).trace, action.releases = true := by
  unfold releaseDelegationGrant
  split
  · exact ⟨rfl, fun _ hm => nomatch hm⟩
  · rename_i id _
    obtain ⟨hresult, htrace⟩ := deleteGrant_spec worker id
      { grants with provider := TokenProvider.invalidate grants.provider (some id) }
    refine ⟨hresult, fun action hm => ?_⟩
    rcases List.mem_cons.mp hm with rfl | hm
    · rfl
    · exact htrace action hm

/-- Where the handler and the settle have both returned, a release is in order. -/
theorem thenRelease_last (delegationGrant : Option String)
    (htrace : attempt.trace = [.handled (.ok ()), .settled (.ok ())]) :
    ReleasesLast worker grants (attempt.thenRelease worker delegationGrant) := by
  obtain ⟨hresult, hreleased⟩ := releaseDelegationGrant_spec worker delegationGrant attempt.grants
  have hall : (attempt.thenRelease worker delegationGrant).trace = [.handled (.ok ()), .settled (.ok ())] ++
      (releaseDelegationGrant worker delegationGrant attempt.grants).trace := by
    rw [← htrace]
    rfl
  refine ⟨?_, ?_, ?_⟩
  · intro before action after he hreleases
    rw [hall] at he
    rcases List.append_eq_append_iff.mp he with ⟨rest, rfl, _⟩ | ⟨rest, hrest, htail⟩
    · exact List.sublist_append_left _ _
    · cases rest with
      | nil =>
        rw [List.append_nil] at hrest
        rw [← hrest]
      | cons first rest =>
        -- the action is the handler's or the settle, and releases nothing
        have hfirst : action = first := (List.cons.inj htail).1
        have hm : first ∈ [Action.handled (.ok ()), .settled (.ok ())] := by simp [hrest]
        simp only [List.mem_cons, List.not_mem_nil, or_false] at hm
        rcases hm with rfl | rfl <;> subst hfirst <;> cases hreleases
  · intro hnot
    rw [hall] at hnot
    exact absurd (List.sublist_append_left _ _) hnot
  · intro _
    refine ⟨hresult, fun result hm => ?_⟩
    rw [hall] at hm
    rcases List.mem_append.mp hm with hm | hm
    · simp at hm
    · exact nomatch hreleased _ hm

/-- The handler ran or it did not. -/
theorem dispatch_cases (rt : Runtime) (worker : GrantWorker) (body : String) (ambient : Ambient)
    (grants : Grants) :
    (∃ e, dispatch rt worker body ambient grants = ⟨[], .error e, grants⟩) ∨
      ∃ result, dispatch rt worker body ambient grants =
        ⟨[.handled result], result, worker.handling grants⟩ := by
  unfold dispatch
  split
  · exact .inl ⟨_, rfl⟩
  · exact .inr ⟨_, rfl⟩

theorem dispatch_unsettled (rt : Runtime) (worker : GrantWorker) (body : String) (ambient : Ambient)
    (grants : Grants) : Unsettled worker grants (dispatch rt worker body ambient grants) := by
  rcases dispatch_cases rt worker body ambient grants with ⟨e, hd⟩ | ⟨result, hd⟩
  · rw [hd]
    exact unsettled_untouched _
  · rw [hd]
    constructor
    · intro action hm
      rw [List.mem_singleton.mp hm]
      rfl
    · intro hm
      cases List.mem_singleton.mp hm
    · rfl

theorem dispatch_abandons (rt : Runtime) (worker : GrantWorker) (body : String) (ambient : Ambient)
    (grants : Grants) (result : Except Exc Unit) :
    .abandoned result ∉ (dispatch rt worker body ambient grants).trace := by
  intro hm
  rcases dispatch_cases rt worker body ambient grants with ⟨e, hd⟩ | ⟨ended, hd⟩
  · rw [hd] at hm
    cases hm
  · rw [hd] at hm
    cases List.mem_singleton.mp hm

theorem dispatch_ok {body : String} {ambient : Ambient} {u : Unit}
    (h : (dispatch rt worker body ambient grants).result = .ok u) :
    (dispatch rt worker body ambient grants).trace = [.handled (.ok ())] := by
  rcases dispatch_cases rt worker body ambient grants with ⟨e, hd⟩ | ⟨result, hd⟩
  · rw [hd] at h
    cases h
  · rw [hd] at h ⊢
    cases h
    rfl

/-- A Service Bus message that is settled is released at once. Any other is unsettled. -/
theorem settleInSpan_cases (message : ServiceBusMessage) (properties : List (Json × Json))
    (ambient : Ambient) (he : settleInSpan rt worker message properties ambient grants = attempt) :
    (ReleasesLast worker grants attempt ∧ attempt.result = .ok ()) ∨
      (Unsettled worker grants attempt ∧ ∃ e, attempt.result = .error e) := by
  unfold settleInSpan at he
  dsimp only at he
  split at he
  · subst he
    exact .inr ⟨unsettled_untouched _, _, rfl⟩
  · rename_i body _
    have hun := dispatch_unsettled rt worker body ambient grants
    split at he
    · rename_i e hresult
      subst he
      exact .inr ⟨hun, e, hresult⟩
    · rename_i hresult
      split at he
      · rename_i e _
        subst he
        exact .inr ⟨hun.settleFailed e _, e, rfl⟩
      · subst he
        refine .inl ⟨thenRelease_last _ ?_, (releaseDelegationGrant_spec _ _ _).1⟩
        rw [Attempt.log, dispatch_ok hresult]
        rfl

theorem attemptMessage_cases (message : ServiceBusMessage) (ambient : Ambient)
    (he : attemptMessage rt worker message ambient grants = attempt) :
    (ReleasesLast worker grants attempt ∧ attempt.result = .ok ()) ∨
      (Unsettled worker grants attempt ∧ ∃ e, attempt.result = .error e) := by
  unfold attemptMessage at he
  split at he
  · subst he
    exact .inr ⟨unsettled_untouched _, _, rfl⟩
  · dsimp only at he
    split at he
    · subst he
      exact .inr ⟨unsettled_untouched _, _, rfl⟩
    · rename_i entered _
      rcases settleInSpan_cases message _ entered rfl with ⟨hlast, hresult⟩ | ⟨hun, e, hresult⟩
      · rw [hresult] at he
        subst he
        exact .inl ⟨hlast, hresult⟩
      · rw [hresult] at he
        subst he
        exact .inr ⟨hun.abandon _ _, e, hresult⟩

/-- The same worker without its release. -/
def GrantWorker.identities (worker : GrantWorker) : Worker :=
  { resolve := worker.resolve, completeMessage := fun _ => worker.settle }

theorem settleInSpan_result (message : ServiceBusMessage) (properties : List (Json × Json)) (entered : Ambient) :
    (settleInSpan rt worker message properties entered grants).result =
      (processInSpan rt worker.identities message properties entered).result := by
  unfold settleInSpan processInSpan dispatch GrantWorker.identities
  cases readBaggage rt (appProperty properties "Baggage" (.str "\x7b\x7d")) with
  | error e => rfl
  | ok _ =>
    cases decodeMessageBody message.body with
    | error e => rfl
    | ok body =>
      simp only [bind, Except.bind]
      cases rt.loads body with
      | error e => rfl
      | ok event =>
        cases hread : readEventMessage event with
        | error e => simp only [hread, Handled.failed]
        | ok named =>
          obtain ⟨type, payload⟩ := named
          cases hhandled : (processMessage rt worker.resolve type payload entered).result with
          | error e => simp only [hread, hhandled, Handled.andThen]
          | ok _ =>
            cases hsettle : worker.settle with
            | error e => simp only [hread, hhandled, Handled.andThen]
            | ok _ =>
              simp only [hread, hhandled, Handled.andThen]
              refine (releaseDelegationGrant_spec _ _ _).1.trans ?_
              split
              · split <;> rfl
              · rfl

/-- The release is what the handling of identities leaves open, and it never raises there. -/
theorem attemptMessage_result (message : ServiceBusMessage) (ambient : Ambient) :
    (attemptMessage rt worker message ambient grants).result =
      (messageHandler rt worker.identities message ambient).result := by
  unfold attemptMessage messageHandler
  cases decodeAppProperties message.applicationProperties with
  | error e => rfl
  | ok properties =>
    dsimp only
    cases setDelegatedToken (appProperty properties "DelegationGrant" .null)
        (restoreSecurityContext rt (appProperty properties "SecurityContext" (.str "")) ambient) with
    | error e => rfl
    | ok entered =>
      dsimp only
      rw [← settleInSpan_result]
      split
      · rfl
      · rfl

theorem receiveMessage_last (message : ServiceBusMessage) (ambient : Ambient) :
    ReleasesLast worker grants (receiveMessage rt worker message ambient grants) := by
  unfold receiveMessage
  dsimp only
  rcases attemptMessage_cases message ambient rfl with ⟨hlast, hresult⟩ | ⟨hun, e, hresult⟩
  · rw [hresult]
    exact hlast
  · rw [hresult]
    exact (hun.abandon _ _).releasesLast

theorem processRabbitMessage_last (message : RabbitMessage) (ambient : Ambient) :
    ReleasesLast worker grants (processRabbitMessage rt worker message ambient grants) := by
  unfold processRabbitMessage
  dsimp only
  split
  · exact (unsettled_untouched _).releasesLast
  · rename_i delegationGrant entered body _
    have hun := dispatch_unsettled rt worker body entered grants
    split
    · exact (hun.settleFailed _ _).releasesLast
    · split
      · rename_i hresult
        apply thenRelease_last
        rw [Attempt.log, dispatch_ok hresult]
        rfl
      · exact hun.acknowledge (dispatch_abandons rt worker body entered grants)

/-- On either transport, whatever the handler, the broker and Redis answer. -/
theorem release_follows_settle (rt : Runtime) (worker : GrantWorker) (ambient : Ambient) (grants : Grants) :
    (∀ message, ReleasesLast worker grants (receiveMessage rt worker message ambient grants)) ∧
      ∀ message, ReleasesLast worker grants (processRabbitMessage rt worker message ambient grants) :=
  ⟨fun message => receiveMessage_last message ambient, fun message => processRabbitMessage_last message ambient⟩

end Steps

end BlocksGenesis.Message
