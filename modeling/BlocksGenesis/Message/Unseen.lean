import BlocksGenesis.Delegation.Asked
import BlocksGenesis.Message.Masked

/-! When the telemetry of a run tells nothing of its grant ids: just where no operation asks Redis about a grant. -/

namespace BlocksGenesis.Traced
open Python Telemetry BlocksGenesis.Auth BlocksGenesis.Delegation BlocksGenesis.Message

variable {w : World} {flow : Flow} {s : State} {random : GrantToken}

/-! ## One operation -/

/-- How a Service Bus message comes as far as the release of its grant. -/
def settledAzure (rt : Runtime) (message : Received) (processing : Processing) : Except Exc Unit := do
  message.setGrant
  readBaggage rt (appProperty message.properties "Baggage" (.str "\x7b\x7d"))
  let body ← decodeMessageBody message.body
  let (type, payload) ← rt.loads body >>= readEventMessage
  processing.handler type payload
  processing.settle

/-- The baggage header of a RabbitMQ message stops it unless it is an object or no JSON. -/
def readRabbitBaggage (rt : Runtime) (baggage : String) : Except Exc Unit :=
  match rt.loads baggage with
  | .ok (.obj _) | .error .jsonDecode | .error (.typeError _) => .ok ()
  | .ok _ => .error (.attributeError "object has no attribute 'items'")
  | .error e => .error e

/-- Likewise a RabbitMQ message, which is settled even if its handler failed, but then releases nothing. -/
def settledRabbit (rt : Runtime) (message : RabbitMessage) (processing : Processing) : Except Exc Unit := do
  let _ ← message.header rt "TraceId" ""
  let _ ← message.header rt "SpanId" ""
  let _ ← message.header rt "TenantId" ""
  let _ ← message.header rt "SecurityContext" ""
  let baggage ← message.header rt "Baggage" "\x7b\x7d"
  readRabbitBaggage rt baggage
  let body ← message.bodyText rt
  processing.settle
  let (type, payload) ← rt.loads body >>= readEventMessage
  processing.handler type payload

/-- The grant an operation asks Redis about first, if it asks Redis about one. -/
def asked (w : World) (s : State) : Operation → Option Asked
  | .create _ context _ _ _ _ => if (context.filter namesUser).isSome then some .drawn else none
  | .createForClient _ tenantId clientId _ _ _ =>
    if tenantId.isEmpty || clientId.isEmpty then none else some .drawn
  | .get _ grant _ | .delete _ grant _ => Asked.stored (grant.resolve s)
  | .sendToAzureBus place message _ => after message.payload (askedForSend w.rt (place.flow s).ambient)
  | .sendToRabbit place message _ =>
    after message.ready (after message.payload (askedForSend w.rt (place.flow s).ambient))
  | .handleAzure _ message processing grant =>
    after (settledAzure w.rt message processing) (Asked.stored (grant.bind (GrantRef.resolve s)))
  | .handleRabbit _ message _ processing grant =>
    after (settledRabbit w.rt message processing) (Asked.stored (grant.bind (GrantRef.resolve s)))
  | .expire _ => none

section Sending
variable {message : Outgoing} {outage : Outage}

theorem logError_quiet (level : Level) (text : String) (e : Exc) :
    Quiet keyOf (logError w level text e) s (.ok ()) :=
  quiet_log level _

theorem publishToAzureBus_silent : Writes keyOf (publishToAzureBus w message) s none := by
  unfold publishToAzureBus
  refine (quiet_ofExcept _).writes.handle (fun e => ?_)
  refine (logError_quiet _ _ e).goes ?_
  refine Writes.bind ?_ (fun _ => (quiet_ofExcept _).writes)
  exact (quiet_ofExcept _).writes.handle (fun e => (logError_quiet _ _ e).writes)

theorem sendToAzureBus_asks :
    Asks random (sendToAzureBus w flow random message outage) s
      (after message.payload (askedForSend w.rt flow.ambient)) := by
  unfold sendToAzureBus
  cases hcontext : flow.ambient.context with
  | none =>
    have hnone : askedForSend w.rt flow.ambient = none := by
      unfold askedForSend
      rw [hcontext]
      rfl
    rw [hnone, after_none]
    refine activity_asks ?_ (fun span => (quiet_raise _).writes)
    intro entry hmem
    cases hmem
  | some context =>
    unfold Asks
    rw [map_after]
    refine activity_asks (by simp [azureProperties]) (fun span => ?_)
    refine (quiet_ofExcept _).last (fun _ _ => ?_)
    refine createForSend_asks.bind (fun _ => ?_)
    refine Writes.handle ?_ (fun e => ((quiet_log _ _).next (quiet_raise e)).writes)
    exact publishToAzureBus_silent.bind (fun _ => (quiet_log _ _).writes)

theorem sendToRabbit_asks :
    Asks random (sendToRabbit w flow random message outage) s
      (after message.ready (after message.payload (askedForSend w.rt flow.ambient))) := by
  unfold sendToRabbit Asks
  rw [map_after, map_after]
  refine (quiet_ofExcept _).last (fun _ _ => ?_)
  refine activity_asks (by simp [rabbitProperties]) (fun span => ?_)
  refine (quiet_ofExcept _).last (fun _ _ => ?_)
  refine createForSend_asks.bind (fun _ => ?_)
  refine Writes.handle ?_ (fun e => ((quiet_log _ _).next (quiet_raise e)).writes)
  exact (quiet_ofExcept _).writes.bind (fun _ => (quiet_log _ _).writes)

end Sending

section Handling
variable {processing : Processing} {grant : Option String} {ambient : Ambient}

theorem restoreContext_quiet (raw : Json) {unread : Exc → Program State Unit}
    (hunread : ∀ e, Quiet keyOf (unread e) s (.ok ())) :
    ∃ restored, Quiet keyOf (restoreContext w raw ambient unread) s (.ok restored) := by
  unfold restoreContext
  split
  · exact ⟨_, quiet_pure _⟩
  · split
    · exact ⟨_, quiet_pure _⟩
    · exact ⟨_, (hunread _).next (quiet_pure _)⟩

theorem releaseGrant_asks (error : Option Exc) :
    Asks random (releaseGrant w flow grant error) s (Asked.stored grant) := by
  unfold releaseGrant
  rw [← stored_given]
  exact deleteGrant_asks _ error

theorem azureBaggage_quiet (baggage : Json) :
    ∃ r, Quiet keyOf (azureBaggage w baggage) s r ∧ r.map (fun _ => ()) = readBaggage w.rt baggage := by
  unfold azureBaggage readBaggage
  cases baggage with
  | str text =>
    dsimp only
    cases w.rt.loads text with
    | ok read =>
      cases read with
      | obj fields =>
        have hentries := @quiet_setProperties s _ (baggage_keyless fields Prod.snd)
        exact ⟨_, hentries.next (quiet_pure _), rfl⟩
      | _ => exact ⟨_, quiet_raise _, rfl⟩
    | error e =>
      cases e with
      | jsonDecode => exact ⟨_, (quiet_log _ _).next (quiet_pure _), rfl⟩
      | _ => exact ⟨_, quiet_raise _, rfl⟩
  | _ => exact ⟨_, quiet_raise _, rfl⟩

theorem abandonMessage_silent (text : String) : Writes keyOf (abandonMessage w processing text) s none :=
  (quiet_ofExcept _).writes.handle (fun _ => (quiet_log _ _).writes)

theorem processAzureMessage_asks (message : Received) (hset : message.setGrant = .ok ()) :
    Asks random (processAzureMessage w ambient message processing grant) s
      (after (settledAzure w.rt message processing) (Asked.stored grant)) := by
  unfold processAzureMessage settledAzure Asks
  rw [map_after, hset]
  refine (quiet_setProperties (by simp [azureSpan])).goes ?_
  obtain ⟨r, hbaggage, hplain⟩ := @azureBaggage_quiet w s
    (appProperty message.properties "Baggage" (.str "{}"))
  rw [← hplain]
  cases r with
  | error e => exact (hbaggage.stops _).writes
  | ok baggage =>
    refine hbaggage.goes ?_
    refine (quiet_ofExcept _).step (fun body _ => ?_)
    refine (quiet_ofExcept _).step (fun event _ => ?_)
    refine (quiet_ofExcept _).step (fun _ _ => ?_)
    refine (quiet_log _ _).goes ?_
    refine (quiet_setProperties (by simp)).goes ?_
    refine (quiet_write (by simp [keyOf])).goes ?_
    refine (quiet_ofExcept _).last (fun _ _ => ?_)
    exact (quiet_log _ _).goes (releaseGrant_asks _)

theorem handleAzureMessage_asks (message : Received) :
    Asks random (handleAzureMessage w flow message processing grant) s
      (after (settledAzure w.rt message processing) (Asked.stored grant)) := by
  unfold handleAzureMessage
  refine Writes.handle ?_ (fun e => (quiet_log _ _).goes (abandonMessage_silent _))
  refine (quiet_log _ _).goes ?_
  obtain ⟨restored, hrestored⟩ := @restoreContext_quiet w s flow.ambient
    (appProperty message.properties "SecurityContext" (.str "")) _ (fun e => quiet_log .warning _)
  refine hrestored.goes ?_
  cases hset : message.setGrant with
  | error e =>
    have hstops : settledAzure w.rt message processing = .error e := by
      unfold settledAzure
      rw [hset]
      rfl
    rw [hstops]
    exact ((quiet_ofExcept _).stops _).writes
  | ok a =>
    refine (quiet_ofExcept _).goes ?_
    refine (asks_span (processAzureMessage_asks message hset) _).handle (fun e => ?_)
    refine (quiet_log _ _).goes ?_
    exact (abandonMessage_silent _).bind (fun _ => (quiet_raise e).writes)

theorem rabbitBaggage_quiet (baggage : String) :
    ∃ r, Quiet keyOf (rabbitBaggage w baggage) s r ∧ r.map (fun _ => ()) = readRabbitBaggage w.rt baggage := by
  unfold rabbitBaggage readRabbitBaggage
  cases w.rt.loads baggage with
  | ok read =>
    cases read with
    | obj fields =>
      have hentries := @quiet_setProperties s _ (baggage_keyless fields (fun entry => .str (entry.2.toStr w.rt)))
      exact ⟨_, hentries.next (quiet_pure _), rfl⟩
    | _ => exact ⟨_, quiet_raise _, rfl⟩
  | error e =>
    cases e with
    | jsonDecode | typeError => exact ⟨_, (quiet_log _ _).next (quiet_pure _), rfl⟩
    | _ => exact ⟨_, quiet_raise _, rfl⟩

/-- The event is handled, or it is said that it is not. -/
theorem processRabbitEvent_quiet (body : String) :
    Quiet keyOf (processRabbitEvent w processing body) s
      (.ok (w.rt.loads body >>= readEventMessage >>= fun event => processing.handler event.1 event.2).isOk) := by
  have hfailed : ∀ e, Quiet keyOf (do
      logError w .error "Error processing RabbitMQ message." e
      Program.write [.status false (w.str e)]
      Program.setProperties [("error", .str (w.str e))]
      return false) s (.ok false) := by
    intro e
    refine (logError_quiet _ _ e).next ?_
    refine (quiet_write (by simp [keyOf])).next ?_
    exact (quiet_setProperties (by simp)).next (quiet_pure false)
  unfold processRabbitEvent
  cases hread : w.rt.loads body >>= readEventMessage with
  | error e => exact ((quiet_ofExcept _).stops _).handle_error (hfailed e)
  | ok event =>
    obtain ⟨type, payload⟩ := event
    change Quiet keyOf _ s (.ok (processing.handler type payload).isOk)
    cases hhandled : processing.handler type payload with
    | error e =>
      refine ((quiet_ofExcept _).next ?_).handle_error (hfailed e)
      dsimp only
      rw [hhandled]
      exact (quiet_ofExcept _).stops _
    | ok done =>
      refine ((quiet_ofExcept _).next ?_).handle_ok _
      dsimp only
      rw [hhandled]
      refine (quiet_ofExcept _).next ?_
      refine (quiet_write (by simp [keyOf])).next ?_
      exact (quiet_log _ _).next (quiet_pure true)

theorem processRabbitSpan_asks (message : RabbitMessage) (queueName tenantId securityContext baggage : String) :
    Asks random (processRabbitSpan w ambient message queueName tenantId securityContext baggage processing grant) s
      (after (do
        readRabbitBaggage w.rt baggage
        let body ← message.bodyText w.rt
        processing.settle
        let (type, payload) ← w.rt.loads body >>= readEventMessage
        processing.handler type payload) (Asked.stored grant)) := by
  unfold processRabbitSpan Asks
  rw [map_after]
  refine (quiet_setProperties (by simp [rabbitSpan])).goes ?_
  obtain ⟨r, hbaggage, hplain⟩ := @rabbitBaggage_quiet w s baggage
  rw [← hplain]
  cases r with
  | error e => exact (hbaggage.stops _).writes
  | ok entries =>
    refine hbaggage.goes ?_
    refine (quiet_ofExcept _).step (fun body _ => ?_)
    refine (quiet_setProperties (by simp)).goes ?_
    refine (quiet_log _ _).goes ?_
    refine (processRabbitEvent_quiet _).goes ?_
    refine (quiet_ofExcept _).step (fun _ _ => ?_)
    change Writes keyOf _ s (after (w.rt.loads body >>= readEventMessage >>= fun event =>
      processing.handler event.1 event.2) _)
    cases w.rt.loads body >>= readEventMessage >>= fun event => processing.handler event.1 event.2 with
    | ok done => exact releaseGrant_asks _
    | error e => exact (quiet_pure ()).writes

theorem handleRabbitMessage_asks (message : RabbitMessage) (queueName : String) :
    Asks random (handleRabbitMessage w flow message queueName processing grant) s
      (after (settledRabbit w.rt message processing) (Asked.stored grant)) := by
  unfold handleRabbitMessage settledRabbit
  refine Writes.handle ?_ (fun e => (logError_quiet _ _ e).writes)
  rw [map_after]
  refine (quiet_ofExcept _).step (fun _ _ => ?_)
  refine (quiet_ofExcept _).step (fun _ _ => ?_)
  refine (quiet_ofExcept _).step (fun tenantId _ => ?_)
  refine (quiet_ofExcept _).step (fun securityContext _ => ?_)
  refine (quiet_ofExcept _).step (fun baggage _ => ?_)
  obtain ⟨restored, hrestored⟩ := @restoreContext_quiet w s flow.ambient (.str securityContext) _
    (fun e => logError_quiet .warning "Could not parse SecurityContext header." e)
  refine hrestored.goes ?_
  rw [← map_after]
  exact asks_span (processRabbitSpan_asks message _ _ _ _) _

end Handling

/-! ## Runs -/

/-- What an operation asks Redis about first; and if that is nothing, the grants stay those handed out. -/
theorem perform_asks (w : World) (s : State) (operation : Operation) (random : GrantToken) :
    ((perform w operation random) s).entries.findSome? keyOf =
        (asked w s operation).map (fun asked => keyJson (asked.id random)) ∧
      (asked w s operation = none → ((perform w operation random) s).state.created = s.created) := by
  have hprogram : ∀ m : Program State Unit, Asks random m s (asked w s operation) →
      perform w operation random s = m s →
      ((perform w operation random) s).entries.findSome? keyOf =
          (asked w s operation).map (fun asked => keyJson (asked.id random)) ∧
        (asked w s operation = none → ((perform w operation random) s).state.created = s.created) := by
    intro m hasks hrun
    refine ⟨by rw [hrun, hasks.first], fun hnone => ?_⟩
    rw [hrun, hasks.kept (by rw [hnone]; rfl)]
  cases operation with
  | create place context tokenVersion securityStamp ttlSeconds error =>
    exact hprogram _ ((createGrant_asks _ _ _).bind (fun _ => (quiet_pure ()).writes)) rfl
  | createForClient place tenantId clientId organizationId ttlSeconds error =>
    exact hprogram _ ((createGrantForClient_asks _ _ _ _).bind (fun _ => (quiet_pure ()).writes)) rfl
  | get place grant error => exact hprogram _ ((getGrant_asks _ _).bind (fun _ => (quiet_pure ()).writes)) rfl
  | delete place grant error => exact hprogram _ (deleteGrant_asks _ _) rfl
  | sendToAzureBus place message outage => exact hprogram _ sendToAzureBus_asks rfl
  | sendToRabbit place message outage => exact hprogram _ sendToRabbit_asks rfl
  | handleAzure place message processing grant => exact hprogram _ (handleAzureMessage_asks message) rfl
  | handleRabbit place message queueName processing grant =>
    exact hprogram _ (handleRabbitMessage_asks message queueName) rfl
  | expire grant => exact ⟨rfl, fun _ => rfl⟩

/-- An operation that asks Redis about no grant draws none. -/
theorem perform_same {operation : Operation} (h : asked w s operation = none) (random random' : GrantToken) :
    perform w operation random s = perform w operation random' s := by
  cases operation with
  | create place context tokenVersion securityStamp ttlSeconds error =>
    have hunnamed : (context.filter namesUser).isSome = false := by
      by_contra hnamed
      rw [asked, if_pos (eq_true_of_ne_false hnamed)] at h
      cases h
    have hsame := @createGrant_same w (place.flow s) ttlSeconds context tokenVersion securityStamp error hunnamed
      random random'
    simp only [perform, hsame]
  | createForClient place tenantId clientId organizationId ttlSeconds error =>
    have hunnamed : (tenantId.isEmpty || clientId.isEmpty) = true := by
      by_contra hnamed
      rw [asked, if_neg hnamed] at h
      cases h
    have hsame := @createGrantForClient_same w (place.flow s) ttlSeconds tenantId clientId organizationId error
      hunnamed random random'
    simp only [perform, hsame]
  | sendToAzureBus place message outage =>
    change sendToAzureBus w (place.flow s) random message outage s =
      sendToAzureBus w (place.flow s) random' message outage s
    unfold sendToAzureBus
    cases (place.flow s).ambient.context with
    | none => rfl
    | some context =>
      apply activity_congr
      intro span
      apply (reads_ofExcept message.payload).bind_congr
      intro _ hpayload
      apply Program.bind_congr_left
      apply createForSend_same
      rw [asked, hpayload] at h
      exact h
  | sendToRabbit place message outage =>
    change sendToRabbit w (place.flow s) random message outage s =
      sendToRabbit w (place.flow s) random' message outage s
    unfold sendToRabbit
    apply (reads_ofExcept message.ready).bind_congr
    intro _ hready
    apply activity_congr
    intro span
    apply (reads_ofExcept message.payload).bind_congr
    intro _ hpayload
    apply Program.bind_congr_left
    apply createForSend_same
    rw [asked, hready, hpayload] at h
    exact h
  | get | delete | handleAzure | handleRabbit | expire => rfl

section Runs
variable {s' : State} {operations : List Operation} {σ : Equiv.Perm GrantToken}

/-- Of the state, only the ids handed out matter. -/
theorem asked_congr (h : s'.created = s.created) (operation : Operation) :
    asked w s' operation = asked w s operation := by
  have hresolve : ∀ grant : GrantRef, grant.resolve s' = grant.resolve s := by
    intro grant
    cases grant with
    | text id => rfl
    | created n =>
      change s'.created[n]? = s.created[n]?
      rw [h]
  cases operation <;> simp only [asked, Place.flow, hresolve]

def Asked.rename (σ : Equiv.Perm GrantToken) : Asked → Asked
  | .drawn => .drawn
  | .given delegationId => .given (renameId σ delegationId)

theorem Asked.id_rename (asked : Asked) (random : GrantToken) :
    (asked.rename σ).id (σ random) = renameId σ (asked.id random) := by
  cases asked with
  | drawn => exact (renameId_newGrantId random).symm
  | given id => rfl

theorem filter_rename (grant : Option String) :
    (grant.map (renameId σ)).filter isWellFormed = (grant.filter isWellFormed).map (renameId σ) := by
  cases grant with
  | none => rfl
  | some id =>
    simp only [Option.map_some, Option.filter, isWellFormed_renameId]
    split <;> rfl

theorem stored_rename (grant : Option String) :
    Asked.stored (grant.map (renameId σ)) = (Asked.stored grant).map (Asked.rename σ) := by
  unfold Asked.stored
  rw [filter_rename, Option.map_map, Option.map_map]
  rfl

theorem resolve_rename (grant : GrantRef) :
    (grant.rename σ).resolve (s.rename σ) = (grant.resolve s).map (renameId σ) := by
  cases grant with
  | text id => rfl
  | created n => exact List.getElem?_map

theorem bind_resolve_rename (grant : Option GrantRef) :
    (grant.map (GrantRef.rename σ)).bind (GrantRef.resolve (s.rename σ)) =
      (grant.bind (GrantRef.resolve s)).map (renameId σ) := by
  cases grant with
  | none => rfl
  | some grant => exact resolve_rename grant

theorem askedForSend_rename (rt : Runtime) {ambient ambient' : Ambient} (hcontext : ambient'.context = ambient.context)
    (hclaims : ambient'.authClaims = ambient.authClaims) (hgrant : ambient'.grant = ambient.grant.map (renameId σ)) :
    askedForSend rt ambient' = (askedForSend rt ambient).map (Asked.rename σ) := by
  have hstored : Asked.stored ambient'.grant = (Asked.stored ambient.grant).map (Asked.rename σ) := by
    rw [hgrant, stored_rename]
  have hclient : claimsClientId ambient' = claimsClientId ambient := by
    unfold claimsClientId
    rw [hclaims]
  unfold askedForSend
  rw [hcontext]
  cases ambient.context.filter (fun context => context.isAuthenticated && !context.tenantId.isEmpty) with
  | none => rfl
  | some context =>
    simp only [askedForUser, askedForClient, hclaims, hclient, hstored]
    repeat' split
    all_goals rfl

theorem asked_rename (operation : Operation) :
    asked w (s.rename σ) (operation.rename σ) = (asked w s operation).map (Asked.rename σ) := by
  have hsend : ∀ place : Place, askedForSend w.rt ((place.rename σ).flow (s.rename σ)).ambient =
      (askedForSend w.rt (place.flow s).ambient).map (Asked.rename σ) := by
    intro place
    refine askedForSend_rename w.rt rfl rfl ?_
    change ((place.held.map (GrantRef.rename σ)).bind (GrantRef.resolve (s.rename σ))).filter isWellFormed = _
    rw [bind_resolve_rename, filter_rename]
    rfl
  cases operation with
  | create place context tokenVersion securityStamp ttlSeconds error =>
    simp only [asked, Operation.rename]
    split <;> rfl
  | createForClient place tenantId clientId organizationId ttlSeconds error =>
    simp only [asked, Operation.rename]
    split <;> rfl
  | get place grant error | delete place grant error =>
    simp only [asked, Operation.rename, resolve_rename, stored_rename]
  | sendToAzureBus place message outage => simp only [asked, Operation.rename, hsend, map_after]
  | sendToRabbit place message outage => simp only [asked, Operation.rename, hsend, map_after]
  | handleAzure place message processing grant =>
    simp only [asked, Operation.rename, bind_resolve_rename, stored_rename, map_after]
  | handleRabbit place message queueName processing grant =>
    simp only [asked, Operation.rename, bind_resolve_rename, stored_rename, map_after]
  | expire grant => rfl

/-- The first grant that Redis is asked about in a run. -/
def firstAsked (w : World) (s : State) : (Nat → GrantToken) → List Operation → Option String
  | _, [] => none
  | ids, operation :: operations =>
    ((asked w s operation).map (Asked.id (ids 0))).or (firstAsked w s (fun n => ids (n + 1)) operations)

theorem firstAsked_congr (h : s'.created = s.created) (ids : Nat → GrantToken) :
    firstAsked w s' ids operations = firstAsked w s ids operations := by
  induction operations generalizing ids with
  | nil => rfl
  | cons operation operations ih => simp only [firstAsked, asked_congr h, ih]

/-- Its key is the first that the run writes. -/
theorem telemetry_asks (ids : Nat → GrantToken) :
    (telemetry w ids operations s).findSome? keyOf = (firstAsked w s ids operations).map keyJson := by
  induction operations generalizing s ids with
  | nil => rfl
  | cons operation operations ih =>
    obtain ⟨hfirst, hkept⟩ := perform_asks w s operation (ids 0)
    simp only [telemetry, firstAsked, List.findSome?_append, hfirst, ih]
    cases hasked : asked w s operation with
    | some asked => rfl
    | none => rw [firstAsked_congr (hkept hasked)]; rfl

theorem firstAsked_rename (ids : Nat → GrantToken) :
    firstAsked w (s.rename σ) (σ ∘ ids) (operations.map (Operation.rename σ)) =
      (firstAsked w s ids operations).map (renameId σ) := by
  induction operations generalizing ids with
  | nil => rfl
  | cons operation operations ih =>
    have hrest := ih (fun n => ids (n + 1))
    simp only [List.map_cons, firstAsked, asked_rename, Option.map_map]
    change Option.or _ (firstAsked w (s.rename σ) (σ ∘ fun n => ids (n + 1)) _) = _
    rw [hrest]
    cases asked w s operation with
    | none => rfl
    | some asked => exact congrArg some (asked.id_rename (ids 0))

theorem asked_wellFormed {operation : Operation} {grant : Asked} (h : asked w s operation = some grant) :
    isWellFormed (grant.id random) = true := by
  cases operation with
  | create place context tokenVersion securityStamp ttlSeconds error =>
    rw [asked] at h
    split at h
    · exact drawn_wellFormed h
    · cases h
  | createForClient place tenantId clientId organizationId ttlSeconds error =>
    rw [asked] at h
    split at h
    · cases h
    · exact drawn_wellFormed h
  | get | delete => exact stored_wellFormed h
  | sendToAzureBus place message outage => exact askedForSend_wellFormed (of_after h)
  | sendToRabbit place message outage => exact askedForSend_wellFormed (of_after (of_after h))
  | handleAzure | handleRabbit => exact stored_wellFormed (of_after h)
  | expire grant => cases h

theorem firstAsked_wellFormed {ids : Nat → GrantToken} {id : String}
    (h : firstAsked w s ids operations = some id) : isWellFormed id = true := by
  induction operations generalizing ids with
  | nil => cases h
  | cons operation operations ih =>
    unfold firstAsked at h
    cases hasked : asked w s operation with
    | none =>
      rw [hasked] at h
      exact ih h
    | some grant =>
      rw [hasked] at h
      cases h
      exact asked_wellFormed hasked

theorem firstAsked_eq_none_iff {ids : Nat → GrantToken} :
    firstAsked w s ids operations = none ↔ ∀ operation ∈ operations, asked w s operation = none := by
  induction operations generalizing ids with
  | nil => exact ⟨fun _ _ hmem => absurd hmem List.not_mem_nil, fun _ => rfl⟩
  | cons operation operations ih =>
    rw [firstAsked, Option.or_eq_none_iff, Option.map_eq_none_iff, ih, List.forall_mem_cons]

/-- The telemetry of a run is the same whatever its grant ids are: those it is given, holds and finds stored are
exchanged for others one for one, and those it draws for any. -/
def Unseen (w : World) (operations : List Operation) (s : State) : Prop :=
  ∀ (σ : Equiv.Perm GrantToken) (ids ids' : Nat → GrantToken),
    telemetry w ids' (operations.map (Operation.rename σ)) (s.rename σ) = telemetry w ids operations s

/-- No operation of the run asks Redis about a grant. -/
def Unasked (w : World) (operations : List Operation) (s : State) : Prop :=
  ∀ operation ∈ operations, asked w s operation = none

theorem Unseen.unasked (h : Unseen w operations s) : Unasked w operations s := by
  have hids : GrantToken := grantToken '0' (by decide)
  refine (@firstAsked_eq_none_iff w s operations (fun _ => hids)).mp ?_
  cases hfirst : firstAsked w s (fun _ => hids) operations with
  | none => rfl
  | some id =>
    obtain ⟨σ, hne⟩ := exists_renameId_ne (firstAsked_wellFormed hfirst)
    have hsame := congrArg (List.findSome? keyOf) (h σ (fun _ => hids) (σ ∘ fun _ => hids))
    rw [telemetry_asks, telemetry_asks, firstAsked_rename, hfirst] at hsame
    exact absurd (keyJson_inj.mp (Option.some.inj hsame)) hne

theorem Unasked.rename (h : Unasked w operations s) :
    Unasked w (operations.map (Operation.rename σ)) (s.rename σ) := by
  intro operation hmem
  obtain ⟨other, hother, rfl⟩ := List.mem_map.mp hmem
  rw [asked_rename, h other hother]
  rfl

theorem Unasked.next {operation : Operation} (h : Unasked w (operation :: operations) s) (random : GrantToken) :
    Unasked w operations ((perform w operation random) s).state := by
  have hkept := (perform_asks w s operation random).2 (h operation List.mem_cons_self)
  intro other hmem
  rw [asked_congr hkept]
  exact h other (List.mem_cons_of_mem _ hmem)

theorem Unasked.same (h : Unasked w operations s) (ids ids' : Nat → GrantToken) :
    telemetry w ids operations s = telemetry w ids' operations s := by
  induction operations generalizing s ids ids' with
  | nil => rfl
  | cons operation operations ih =>
    have hsame := perform_same (h operation List.mem_cons_self) (ids 0) (ids' 0)
    simp only [telemetry]
    rw [hsame, ih (h.next (ids' 0)) (fun n => ids (n + 1)) (fun n => ids' (n + 1))]

theorem maskKey_of_keyless {entries : List Telemetry.Entry} (h : entries.findSome? keyOf = none) :
    entries.map maskKey = entries := by
  refine List.map_congr_left (fun entry hmem => ?_) |>.trans (List.map_id entries)
  have hnone := List.findSome?_eq_none_iff.mp h entry hmem
  cases entry with
  | property key value =>
    have hkey : key ≠ "key" := by
      rintro rfl
      cases hnone
    change Telemetry.Entry.property key (if key = "key" then .null else value) = _
    rw [if_neg hkey]
    rfl
  | _ => rfl

theorem Unasked.keyless (h : Unasked w operations s) (ids : Nat → GrantToken) :
    (telemetry w ids operations s).findSome? keyOf = none := by
  rw [telemetry_asks, firstAsked_eq_none_iff.mpr h]
  rfl

theorem Unasked.unseen (h : Unasked w operations s) : Unseen w operations s := by
  intro σ ids ids'
  have hrenamed : Unasked w (operations.map (Operation.rename σ)) (s.rename σ) := h.rename
  have hmasked := only_keys_differ w σ ids operations s
  rw [maskKey_of_keyless (h.keyless ids), maskKey_of_keyless (hrenamed.keyless (σ ∘ ids))] at hmasked
  rw [hrenamed.same ids' (σ ∘ ids), hmasked]

end Runs

/-- A run tells nothing of its grant ids just where it asks Redis about none: the key of the first command is an
attribute of its span. -/
theorem grant_ids_unseen_iff (w : World) (operations : List Operation) (s : State) :
    Unseen w operations s ↔ Unasked w operations s :=
  ⟨Unseen.unasked, Unasked.unseen⟩

def plainWorld : World where
  rt := asciiRuntime
  str _ := ""
  dumps _ := "\x7b\x7d"

/-- One grant is created for a user. -/
theorem grant_id_traced :
    ¬ Unseen plainWorld [.create {} (some { tenantId := "acme", userId := "ada" }) "1" "stamp" none none] {} := by
  intro hunseen
  have hnone := hunseen.unasked _ List.mem_cons_self
  cases hnone

end BlocksGenesis.Traced
