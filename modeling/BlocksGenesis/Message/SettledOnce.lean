import BlocksGenesis.Message.Delivery

/-! A Service Bus delivery: what is asked of the receiver for it, by two layers that both settle. -/

namespace BlocksGenesis.Message
open Python BlocksGenesis.Auth BlocksGenesis.Delegation

/-- A settlement the receiver was asked for, with how the call ended. -/
inductive SettlementRequest where
  | complete (ending : Ending)
  | abandon (ending : Ending)

/-- The ACK of Service Bus is `complete_message`. An abandon may answer by what was asked before. -/
structure BusWorker extends DeliveryWorker where
  abandon : List SettlementRequest → Ending

/-- What was asked for a delivery, how its handling ended, and the flow afterwards. -/
structure Settlement where
  requests : List SettlementRequest
  ending : Ending
  ambient : Ambient

/-- Both layers abandon alike: an error of the call is logged, an interruption goes on. -/
def Settlement.abandonFor (settlement : Settlement) (worker : BusWorker) (ending : Ending) : Settlement :=
  let abandoned := worker.abandon settlement.requests
  { settlement with
    requests := settlement.requests ++ [.abandon abandoned]
    ending := match abandoned with
      | .interrupted => .interrupted
      | .returned | .raised _ => ending }

/-- The `try` of `message_handler`: business operation, ACK, DEL. -/
def settleInTry (rt : Runtime) (worker : BusWorker) (message : ServiceBusMessage)
    (properties : List (Json × Json)) (ambient : Ambient) : Settlement :=
  let body := do
    readBaggage rt (appProperty properties "Baggage" (.str "\x7b\x7d"))
    decodeMessageBody message.body
  match body with
  | .error e => ⟨[], .raised e, ambient⟩
  | .ok body =>
    let (ending, after) := handleDelivery rt worker.toDeliveryWorker body ambient
    match ending with
    | .returned =>
      match worker.ack with
      | .returned =>
        ⟨[.complete .returned], releaseGrant worker.toDeliveryWorker (grantProperty properties), after⟩
      | failed => ⟨[.complete failed], failed, after⟩
    | failed => ⟨[], failed, after⟩

/-- `message_handler`, with its `except` and its `finally`. -/
def handleBusMessage (rt : Runtime) (worker : BusWorker) (message : ServiceBusMessage) (ambient : Ambient) :
    Settlement :=
  match decodeAppProperties message.applicationProperties with
  | .error e => ⟨[], .raised e, ambient⟩
  | .ok properties =>
    let restored := restoreSecurityContext rt (appProperty properties "SecurityContext" (.str "")) ambient
    match setDelegatedToken (appProperty properties "DelegationGrant" .null) restored with
    | .error e => ⟨[], .raised e, restored⟩
    | .ok entered =>
      let settlement := settleInTry rt worker message properties entered
      let settled := match settlement.ending with
        | .raised e => settlement.abandonFor worker (.raised e)
        | .returned | .interrupted => settlement
      { settled with ambient := clearHolders settled.ambient }

/-- The body of the loop in `process_receiver`. An error of `message_handler` ends here. -/
def receiveBusMessage (rt : Runtime) (worker : BusWorker) (message : ServiceBusMessage) (ambient : Ambient) :
    Settlement :=
  let settlement := handleBusMessage rt worker message ambient
  match settlement.ending with
  | .raised _ => settlement.abandonFor worker .returned
  | .returned | .interrupted => settlement

/-- A delivery of the loop: the message, how its steps end, the flow it found, and what came of it. -/
structure Received where
  message : ServiceBusMessage
  worker : BusWorker
  flow : Ambient
  settlement : Settlement

/-- The loop of `process_receiver`, which only an interruption ends. -/
def receiveDeliveries (rt : Runtime) : List (ServiceBusMessage × BusWorker) → Ambient → List Received
  | [], _ => []
  | (message, worker) :: deliveries, flow =>
    let settlement := receiveBusMessage rt worker message flow
    ⟨message, worker, flow, settlement⟩ :: match settlement.ending with
      | .interrupted => []
      | .returned | .raised _ => receiveDeliveries rt deliveries settlement.ambient

/-! ## The same as the order of its steps says -/

/-- An action that asks the receiver for a settlement. -/
def Action.request : Action → Option SettlementRequest
  | .settled result => some (.complete (.ofResult result))
  | .abandoned result => some (.abandon (.ofResult result))
  | .handled _ | .invalidated _ | .deleted _ _ => none

/-- A worker of the other model, in which nothing is interrupted. -/
def GrantWorker.busDeliveries (worker : GrantWorker) (removed : String → Except Exc Unit)
    (abandoned : List SettlementRequest → Except Exc Unit) : BusWorker where
  toDeliveryWorker := worker.deliveries removed
  abandon requests := .ofResult (abandoned requests)

section Same
variable {rt : Runtime} {worker : GrantWorker} {removed : String → Except Exc Unit}
  {abandoned : List SettlementRequest → Except Exc Unit} {grants : Grants}

/-- What is asked of the receiver, and how it ends, in both models. -/
structure Agrees (settlement : Settlement) (attempt : Attempt) : Prop where
  requests : settlement.requests = attempt.trace.filterMap Action.request
  ending : settlement.ending = .ofResult attempt.result

theorem releases_request_nothing {trace : List Action} (h : ∀ action ∈ trace, action.releases = true) :
    trace.filterMap Action.request = [] := by
  apply List.filterMap_eq_nil_iff.mpr
  intro action hm
  have hreleases := h action hm
  cases action with
  | handled result | settled result | abandoned result => cases hreleases
  | invalidated delegationGrant | deleted delegationId result => rfl

theorem dispatch_requests_nothing (body : String) (ambient : Ambient) :
    (dispatch rt worker body ambient grants).trace.filterMap Action.request = [] := by
  rcases dispatch_cases rt worker body ambient grants with ⟨e, hd⟩ | ⟨result, hd⟩ <;> rw [hd] <;> rfl

theorem settleInTry_same (message : ServiceBusMessage) (properties : List (Json × Json)) (entered : Ambient) :
    Agrees (settleInTry rt (worker.busDeliveries removed abandoned) message properties entered)
      (settleInSpan rt worker message properties entered grants) := by
  unfold settleInTry settleInSpan
  dsimp only [bind, Except.bind]
  cases readBaggage rt (appProperty properties "Baggage" (.str "\x7b\x7d")) with
  | error e => exact ⟨rfl, rfl⟩
  | ok _ =>
    dsimp only
    cases decodeMessageBody message.body with
    | error e => exact ⟨rfl, rfl⟩
    | ok body =>
      have hsame := @handleDelivery_same rt worker removed body entered grants
      have hnothing := @dispatch_requests_nothing rt worker grants body entered
      dsimp only [GrantWorker.busDeliveries]
      rw [hsame, releaseGrant_same]
      cases hresult : (dispatch rt worker body entered grants).result with
      | error e =>
        constructor
        · exact hnothing.symm
        · rw [hresult]
          rfl
      | ok _ =>
        have hack : (worker.deliveries removed).ack = .ofResult worker.settle := rfl
        dsimp only [Ending.ofResult]
        rw [hack]
        cases worker.settle with
        | error e =>
          constructor
          · simp [Attempt.log, hnothing, Action.request, Ending.ofResult]
          · rfl
        | ok _ =>
          obtain ⟨hreleased, hreleases⟩ := releaseDelegationGrant_spec worker (grantProperty properties)
            (dispatch rt worker body entered grants).grants
          constructor
          · simp [Attempt.thenRelease, Attempt.log, hnothing, releases_request_nothing hreleases,
              Action.request, Ending.ofResult]
          · simp [Attempt.thenRelease, Attempt.log, hreleased, Ending.ofResult]

/-- Both models abandon alike, where an abandon answers by what was asked before it. -/
theorem Agrees.abandon {settlement : Settlement} {attempt : Attempt} (h : Agrees settlement attempt)
    (habandon : ∀ trace, worker.abandon trace = abandoned (trace.filterMap Action.request))
    (result : Except Exc Unit) :
    Agrees (settlement.abandonFor (worker.busDeliveries removed abandoned) (.ofResult result))
      { attempt.log (.abandoned (worker.abandon attempt.trace)) with result } := by
  constructor
  · simp [Settlement.abandonFor, Attempt.log, GrantWorker.busDeliveries, h.requests, habandon, Action.request]
  · dsimp only [Settlement.abandonFor, GrantWorker.busDeliveries]
    cases abandoned settlement.requests <;> rfl

theorem handleBusMessage_same (message : ServiceBusMessage) (ambient : Ambient)
    (habandon : ∀ trace, worker.abandon trace = abandoned (trace.filterMap Action.request)) :
    Agrees (handleBusMessage rt (worker.busDeliveries removed abandoned) message ambient)
      (attemptMessage rt worker message ambient grants) := by
  unfold handleBusMessage attemptMessage
  cases decodeAppProperties message.applicationProperties with
  | error e => exact ⟨rfl, rfl⟩
  | ok properties =>
    dsimp only
    cases setDelegatedToken (appProperty properties "DelegationGrant" .null)
        (restoreSecurityContext rt (appProperty properties "SecurityContext" (.str "")) ambient) with
    | error e => exact ⟨rfl, rfl⟩
    | ok entered =>
      have hsame := @settleInTry_same rt worker removed abandoned grants message properties entered
      dsimp only
      rw [hsame.ending]
      cases hresult : (settleInSpan rt worker message properties entered grants).result with
      | ok _ => exact ⟨hsame.requests, hsame.ending⟩
      | error e =>
        obtain ⟨hrequests, hending⟩ := hsame.abandon habandon (.error e)
        exact ⟨hrequests, hending.trans (by rw [Attempt.log, hresult])⟩

/-- A delivery asks of the receiver what the order of its steps has it ask. -/
theorem receiveBusMessage_same (message : ServiceBusMessage) (ambient : Ambient)
    (habandon : ∀ trace, worker.abandon trace = abandoned (trace.filterMap Action.request)) :
    Agrees (receiveBusMessage rt (worker.busDeliveries removed abandoned) message ambient)
      (receiveMessage rt worker message ambient grants) := by
  have hsame := @handleBusMessage_same rt worker removed abandoned grants message ambient habandon
  unfold receiveBusMessage receiveMessage
  dsimp only
  rw [hsame.ending]
  cases hresult : (attemptMessage rt worker message ambient grants).result with
  | ok _ => exact hsame
  | error e => exact hsame.abandon habandon (.ok ())

end Same

/-! ## How often a delivery is settled -/

/-- At most one settlement is asked for, and no abandon after a `complete_message` that returned. -/
structure SettledOnce (requests : List SettlementRequest) : Prop where
  once : requests.length ≤ 1
  unabandoned : ∀ before after, requests = before ++ after → .complete .returned ∈ before →
    ∀ ending, .abandon ending ∉ after

/-- Nothing raises between the start of the `try` and this handler, which gets this payload. -/
structure Reaches (rt : Runtime) (worker : DeliveryWorker) (message : ServiceBusMessage)
    (properties : List (Json × Json)) (handler : DeliveryHandler) (payload : Json) : Prop where
  baggage : readBaggage rt (appProperty properties "Baggage" (.str "{}")) = .ok ()
  event : ∃ type text, (do readEventMessage (← rt.loads (← decodeMessageBody message.body))) = .ok (type, text) ∧
    worker.resolve type = .ok handler ∧ rt.loads text = .ok payload

/-- The message reaches its handler, and the handler ends so. -/
def HandlerEnds (rt : Runtime) (worker : DeliveryWorker) (message : ServiceBusMessage)
    (properties : List (Json × Json)) (entered : Ambient) (ending : Ending) : Prop :=
  ∃ handler payload, Reaches rt worker message properties handler payload ∧ (handler payload entered).1 = ending

/-- The message gets as far as the `try`, with these properties and in this flow. -/
def Enters (rt : Runtime) (message : ServiceBusMessage) (flow : Ambient) (properties : List (Json × Json))
    (entered : Ambient) : Prop :=
  decodeAppProperties message.applicationProperties = .ok properties ∧
    setDelegatedToken (appProperty properties "DelegationGrant" .null)
      (restoreSecurityContext rt (appProperty properties "SecurityContext" (.str "")) flow) = .ok entered

/-- No error comes up inside the `try`; or, before `complete_message` is called, one does and the
abandon that answers it is interrupted. -/
def Quiet (rt : Runtime) (worker : BusWorker) (message : ServiceBusMessage) (flow : Ambient) : Prop :=
  ∀ properties entered, Enters rt message flow properties entered →
    HandlerEnds rt worker.toDeliveryWorker message properties entered .interrupted ∨
    (HandlerEnds rt worker.toDeliveryWorker message properties entered .returned ∧
      ∀ e, worker.ack ≠ .raised e) ∨
    (¬ HandlerEnds rt worker.toDeliveryWorker message properties entered .returned ∧
      worker.abandon [] = .interrupted)

section Delivery
variable {rt : Runtime} {worker : BusWorker} {message : ServiceBusMessage} {properties : List (Json × Json)}
  {flow entered : Ambient}

theorem settledOnce_iff {requests : List SettlementRequest} : SettledOnce requests ↔ requests.length ≤ 1 := by
  refine ⟨fun h => h.once, fun h => ⟨h, ?_⟩⟩
  rintro before after rfl hcompleted ending habandoned
  have hbefore := List.length_pos_of_mem hcompleted
  have hafter := List.length_pos_of_mem habandoned
  rw [List.length_append] at h
  omega

theorem releaseGrant_quiet (worker : DeliveryWorker) (delegationGrant : Option String) (e : Exc) :
    releaseGrant worker delegationGrant ≠ .raised e := by
  unfold releaseGrant
  split
  · nofun
  · split
    · nofun
    · split <;> nofun

theorem HandlerEnds.unique {worker : DeliveryWorker} {first second : Ending}
    (h : HandlerEnds rt worker message properties entered first)
    (h' : HandlerEnds rt worker message properties entered second) : first = second := by
  obtain ⟨handler, payload, ⟨_, type, text, hevent, hresolve, hloads⟩, rfl⟩ := h
  obtain ⟨_, _, ⟨_, type', text', hevent', hresolve', hloads'⟩, rfl⟩ := h'
  cases hevent.symm.trans hevent'
  cases hresolve.symm.trans hresolve'
  cases hloads.symm.trans hloads'
  rfl

/-- What is no error of the `try` around the handler is the handler's own ending. -/
theorem handlerEnds_iff {worker : DeliveryWorker} {body : String} {ending : Ending}
    (hbaggage : readBaggage rt (appProperty properties "Baggage" (.str "\x7b\x7d")) = .ok ())
    (hbody : decodeMessageBody message.body = .ok body) (hquiet : ∀ e, ending ≠ .raised e) :
    HandlerEnds rt worker message properties entered ending ↔
      (handleDelivery rt worker body entered).1 = ending := by
  constructor
  · rintro ⟨handler, payload, ⟨_, type, text, hevent, hresolve, hloads⟩, hending⟩
    rw [hbody] at hevent
    have hread : rt.loads body >>= readEventMessage = .ok (type, text) := hevent
    unfold handleDelivery
    rw [hread]
    dsimp only
    rw [hresolve]
    dsimp only
    rw [hloads]
    exact hending
  · intro hending
    unfold handleDelivery at hending
    split at hending
    · exact absurd hending.symm (hquiet _)
    · rename_i type text hread
      split at hending
      · exact absurd hending.symm (hquiet _)
      · rename_i handler hresolve
        split at hending
        · exact absurd hending.symm (hquiet _)
        · rename_i payload hloads
          refine ⟨handler, payload, ⟨hbaggage, type, text, ?_, hresolve, hloads⟩, hending⟩
          rw [hbody]
          exact hread

/-- The `try` is interrupted in its handler, gets as far as `complete_message`, or raises before. -/
theorem settleInTry_cases (worker : BusWorker) (message : ServiceBusMessage) (properties : List (Json × Json))
    (entered : Ambient) {settlement : Settlement}
    (hs : settleInTry rt worker message properties entered = settlement) :
    (HandlerEnds rt worker.toDeliveryWorker message properties entered .interrupted ∧
      settlement.requests = [] ∧ settlement.ending = .interrupted) ∨
    (HandlerEnds rt worker.toDeliveryWorker message properties entered .returned ∧
      settlement.requests = [.complete worker.ack] ∧
      ∀ e, settlement.ending = .raised e ↔ worker.ack = .raised e) ∨
    ((∀ ending, HandlerEnds rt worker.toDeliveryWorker message properties entered ending →
        ∃ e, ending = .raised e) ∧
      settlement.requests = [] ∧ ∃ e, settlement.ending = .raised e) := by
  subst hs
  unfold settleInTry
  dsimp only [bind, Except.bind]
  cases hbaggage : readBaggage rt (appProperty properties "Baggage" (.str "\x7b\x7d")) with
  | error e =>
    refine .inr (.inr ⟨?_, rfl, e, rfl⟩)
    rintro ending ⟨_, _, hreaches, _⟩
    cases hreaches.baggage.symm.trans hbaggage
  | ok _ =>
    dsimp only
    cases hbody : decodeMessageBody message.body with
    | error e =>
      refine .inr (.inr ⟨?_, rfl, e, rfl⟩)
      rintro ending ⟨_, _, ⟨_, type, text, hevent, _⟩, _⟩
      rw [hbody] at hevent
      cases hevent
    | ok body =>
      have hstopped : HandlerEnds rt worker.toDeliveryWorker message properties entered .interrupted ↔ _ :=
        handlerEnds_iff hbaggage hbody nofun
      have hreturned : HandlerEnds rt worker.toDeliveryWorker message properties entered .returned ↔ _ :=
        handlerEnds_iff hbaggage hbody nofun
      dsimp only
      cases hending : (handleDelivery rt worker.toDeliveryWorker body entered).1 with
      | interrupted => exact .inl ⟨hstopped.mpr hending, rfl, rfl⟩
      | returned =>
        refine .inr (.inl ⟨hreturned.mpr hending, ?_⟩)
        dsimp only
        cases worker.ack with
        | returned => exact ⟨rfl, fun e => ⟨fun h => absurd h (releaseGrant_quiet _ _ e), nofun⟩⟩
        | raised e => exact ⟨rfl, fun e => Iff.rfl⟩
        | interrupted => exact ⟨rfl, fun e => Iff.rfl⟩
      | raised e =>
        refine .inr (.inr ⟨?_, rfl, e, rfl⟩)
        intro ending hends
        cases ending with
        | raised e' => exact ⟨e', rfl⟩
        | returned => cases (hreturned.mp hends).symm.trans hending
        | interrupted => cases (hstopped.mp hends).symm.trans hending

/-- What a failure before the `try`, and one inside it, add to what was asked. -/
theorem receiveBusMessage_unopened
    (h : ∀ properties entered, ¬ Enters rt message flow properties entered) :
    (receiveBusMessage rt worker message flow).requests = [.abandon (worker.abandon [])] := by
  unfold receiveBusMessage handleBusMessage
  cases hproperties : decodeAppProperties message.applicationProperties with
  | error e => rfl
  | ok properties =>
    dsimp only
    cases hset : setDelegatedToken (appProperty properties "DelegationGrant" .null)
        (restoreSecurityContext rt (appProperty properties "SecurityContext" (.str "")) flow) with
    | error e => rfl
    | ok entered => exact absurd ⟨hproperties, hset⟩ (h properties entered)

theorem receiveBusMessage_kept (h : Enters rt message flow properties entered)
    (hending : ∀ e, (settleInTry rt worker message properties entered).ending ≠ .raised e) :
    (receiveBusMessage rt worker message flow).requests =
      (settleInTry rt worker message properties entered).requests := by
  unfold receiveBusMessage handleBusMessage
  rw [h.1]
  dsimp only
  rw [h.2]
  dsimp only
  cases hended : (settleInTry rt worker message properties entered).ending with
  | raised e => exact absurd hended (hending e)
  | returned => simp only [hended]
  | interrupted => simp only [hended]

/-- The failure abandons the message here, and once more unless the first abandon is interrupted. -/
theorem receiveBusMessage_failed {e : Exc} (h : Enters rt message flow properties entered)
    (hending : (settleInTry rt worker message properties entered).ending = .raised e) :
    ∃ again : List Ending, (receiveBusMessage rt worker message flow).requests =
        (settleInTry rt worker message properties entered).requests ++
          .abandon (worker.abandon (settleInTry rt worker message properties entered).requests) ::
            again.map .abandon ∧
      (again = [] ↔
        worker.abandon (settleInTry rt worker message properties entered).requests = .interrupted) := by
  unfold receiveBusMessage handleBusMessage
  rw [h.1]
  dsimp only
  rw [h.2]
  dsimp only
  rw [hending]
  dsimp only [Settlement.abandonFor]
  cases worker.abandon (settleInTry rt worker message properties entered).requests with
  | interrupted => exact ⟨[], rfl, by simp⟩
  | returned => exact ⟨[_], List.append_assoc .., by simp⟩
  | raised e' => exact ⟨[_], List.append_assoc .., by simp⟩

/-- All that is asked of the receiver for one delivery, and why. -/
inductive Asked (rt : Runtime) (worker : BusWorker) (message : ServiceBusMessage) (flow : Ambient) :
    List SettlementRequest → Prop
  | unopened (ended : Ending) (h : ∀ properties entered, ¬ Enters rt message flow properties entered) :
      Asked rt worker message flow [.abandon ended]
  | stopped {properties : List (Json × Json)} {entered : Ambient}
      (h : Enters rt message flow properties entered)
      (hends : HandlerEnds rt worker.toDeliveryWorker message properties entered .interrupted) :
      Asked rt worker message flow []
  | completed {properties : List (Json × Json)} {entered : Ambient}
      (h : Enters rt message flow properties entered)
      (hends : HandlerEnds rt worker.toDeliveryWorker message properties entered .returned)
      (hack : ∀ e, worker.ack ≠ .raised e) :
      Asked rt worker message flow [.complete worker.ack]
  | uncompleted {properties : List (Json × Json)} {entered : Ambient} {e : Exc}
      (h : Enters rt message flow properties entered)
      (hends : HandlerEnds rt worker.toDeliveryWorker message properties entered .returned)
      (hack : worker.ack = .raised e) (ended : Ending) (again : List Ending) :
      Asked rt worker message flow (.complete (.raised e) :: .abandon ended :: again.map .abandon)
  | failed {properties : List (Json × Json)} {entered : Ambient} (again : List Ending)
      (h : Enters rt message flow properties entered)
      (hends : ∀ ending, HandlerEnds rt worker.toDeliveryWorker message properties entered ending →
        ∃ e, ending = .raised e)
      (hagain : again = [] ↔ worker.abandon [] = .interrupted) :
      Asked rt worker message flow (.abandon (worker.abandon []) :: again.map .abandon)

theorem receiveBusMessage_asked (rt : Runtime) (worker : BusWorker) (message : ServiceBusMessage)
    (flow : Ambient) : Asked rt worker message flow (receiveBusMessage rt worker message flow).requests := by
  by_cases hentered : ∃ properties entered, Enters rt message flow properties entered
  · obtain ⟨properties, entered, hentered⟩ := hentered
    rcases @settleInTry_cases rt worker message properties entered _ rfl with
      ⟨hends, hrequests, hending⟩ | ⟨hends, hrequests, hending⟩ | ⟨hends, hrequests, e, hending⟩
    · rw [receiveBusMessage_kept hentered (by simp [hending]), hrequests]
      exact .stopped hentered hends
    · by_cases hack : ∃ e, worker.ack = .raised e
      · obtain ⟨e, hack⟩ := hack
        obtain ⟨again, hasked, _⟩ := receiveBusMessage_failed hentered ((hending e).mpr hack)
        rw [hasked, hrequests, hack]
        exact .uncompleted hentered hends hack _ again
      · have hquiet : ∀ e, worker.ack ≠ .raised e := fun e he => hack ⟨e, he⟩
        rw [receiveBusMessage_kept hentered (fun e he => hquiet e ((hending e).mp he)), hrequests]
        exact .completed hentered hends hquiet
    · obtain ⟨again, hasked, hagain⟩ := receiveBusMessage_failed hentered hending
      rw [hrequests] at hasked hagain
      rw [hasked]
      exact .failed again hentered hends hagain
  · have hunopened : ∀ properties entered, ¬ Enters rt message flow properties entered :=
      fun properties entered h => hentered ⟨properties, entered, h⟩
    rw [receiveBusMessage_unopened hunopened]
    exact .unopened _ hunopened

theorem Enters.unique {properties' : List (Json × Json)} {entered' : Ambient}
    (h : Enters rt message flow properties entered) (h' : Enters rt message flow properties' entered') :
    properties = properties' ∧ entered = entered' := by
  obtain ⟨hproperties, hset⟩ := h
  obtain ⟨hproperties', hset'⟩ := h'
  cases hproperties.symm.trans hproperties'
  cases hset.symm.trans hset'
  exact ⟨rfl, rfl⟩

/-- Nothing follows a `complete_message` that returned: the release after it raises no error. -/
theorem Asked.unabandoned {requests : List SettlementRequest} (h : Asked rt worker message flow requests)
    (hcompleted : .complete .returned ∈ requests) : requests = [.complete .returned] := by
  cases h with
  | unopened ended h => simp at hcompleted
  | stopped h hends => cases hcompleted
  | completed h hends hack =>
    rw [← List.mem_singleton.mp hcompleted]
  | uncompleted h hends hack ended again => simp at hcompleted
  | failed again h hends hagain => simp at hcompleted

/-- One request is all there is exactly where the message fails quietly, if it fails inside. -/
theorem Asked.once_iff {requests : List SettlementRequest} (h : Asked rt worker message flow requests) :
    requests.length ≤ 1 ↔ Quiet rt worker message flow := by
  cases h with
  | unopened ended h =>
    refine ⟨fun _ properties entered hentered => absurd hentered (h properties entered), fun _ => ?_⟩
    exact Nat.le_refl 1
  | stopped h hends =>
    refine ⟨fun _ properties entered hentered => .inl ?_, fun _ => Nat.zero_le 1⟩
    obtain ⟨rfl, rfl⟩ := h.unique hentered
    exact hends
  | completed h hends hack =>
    refine ⟨fun _ properties entered hentered => .inr (.inl ⟨?_, hack⟩), fun _ => Nat.le_refl 1⟩
    obtain ⟨rfl, rfl⟩ := h.unique hentered
    exact hends
  | uncompleted h hends hack ended again =>
    refine ⟨fun hlength => by simp at hlength, fun hquiet => ?_⟩
    rcases hquiet _ _ h with hstopped | ⟨_, hack'⟩ | ⟨hnot, _⟩
    · cases hstopped.unique hends
    · exact absurd hack (hack' _)
    · exact absurd hends hnot
  | failed again h hends hagain =>
    have hone : (SettlementRequest.abandon (worker.abandon []) :: again.map .abandon).length ≤ 1 ↔ again = [] := by
      simp
    rw [hone, hagain]
    constructor
    · intro hended properties entered hentered
      obtain ⟨rfl, rfl⟩ := h.unique hentered
      exact .inr (.inr ⟨fun hreturned => (nomatch hends _ hreturned), hended⟩)
    · intro hquiet
      rcases hquiet _ _ h with hstopped | ⟨hreturned, _⟩ | ⟨_, hended⟩
      · exact nomatch hends _ hstopped
      · exact nomatch hends _ hreturned
      · exact hended

/-- What the loop does to one delivery, whatever came before it. -/
theorem receiveDeliveries_mem {deliveries : List (ServiceBusMessage × BusWorker)} {received : Received}
    (h : received ∈ receiveDeliveries rt deliveries flow) :
    received.settlement = receiveBusMessage rt received.worker received.message received.flow := by
  induction deliveries generalizing flow with
  | nil => cases h
  | cons delivery deliveries ih =>
    obtain ⟨message, worker⟩ := delivery
    rcases List.mem_cons.mp h with rfl | h
    · rfl
    · split at h
      · cases h
      · exact ih h
      · exact ih h

/-- A `complete_message` that returned is all that was asked of the receiver for its delivery. -/
theorem completed_unabandoned {deliveries : List (ServiceBusMessage × BusWorker)} {received : Received}
    (h : received ∈ receiveDeliveries rt deliveries flow)
    (hcompleted : .complete .returned ∈ received.settlement.requests) :
    received.settlement.requests = [.complete .returned] := by
  rw [receiveDeliveries_mem h] at hcompleted ⊢
  exact (receiveBusMessage_asked rt received.worker received.message received.flow).unabandoned hcompleted

/-- A delivery is settled at most once exactly where it fails quietly, in every run of the loop. -/
theorem settled_once_iff_quiet (rt : Runtime) (deliveries : List (ServiceBusMessage × BusWorker))
    (flow : Ambient) : ∀ received ∈ receiveDeliveries rt deliveries flow,
      SettledOnce received.settlement.requests ↔ Quiet rt received.worker received.message received.flow := by
  intro received h
  rw [receiveDeliveries_mem h, settledOnce_iff]
  exact (receiveBusMessage_asked rt received.worker received.message received.flow).once_iff

end Delivery

/-! ## A handler that raises -/

/-- The receiver answers every request, and the handler of the event does not. -/
def refusingWorker : BusWorker where
  resolve _ := .ok (fun _ ambient => (.raised (.valueError "no such order"), ambient))
  ack := .returned
  deleteGrant _ := .returned
  abandon _ := .returned

def pingDelivery : ServiceBusMessage := { body := .text eventText }

theorem pingDelivery_received :
    receiveDeliveries pingRuntime [(pingDelivery, refusingWorker)] {} =
      [⟨pingDelivery, refusingWorker, {}, ⟨[.abandon .returned, .abandon .returned], .returned, {}⟩⟩] := by
  rfl

theorem settled_once_iff_quiet_ping :
    SettledOnce [.abandon .returned, .abandon .returned] ↔ Quiet pingRuntime refusingWorker pingDelivery {} :=
  settled_once_iff_quiet pingRuntime [(pingDelivery, refusingWorker)] {}
    ⟨pingDelivery, refusingWorker, {}, ⟨[.abandon .returned, .abandon .returned], .returned, {}⟩⟩
    (by rw [pingDelivery_received]; exact List.mem_singleton_self _)

/-- `message_handler` abandons the message, and `process_receiver` abandons it again. -/
theorem handler_error_abandons_twice : ¬ ∀ (rt : Runtime) (deliveries : List (ServiceBusMessage × BusWorker))
    (flow : Ambient), ∀ received ∈ receiveDeliveries rt deliveries flow,
      SettledOnce received.settlement.requests := by
  intro h
  have hreceived := h pingRuntime [(pingDelivery, refusingWorker)] {}
  rw [pingDelivery_received] at hreceived
  have honce := (hreceived _ (List.mem_singleton_self _)).once
  exact absurd honce (by decide)

end BlocksGenesis.Message
