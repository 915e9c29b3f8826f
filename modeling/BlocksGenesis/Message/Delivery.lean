import BlocksGenesis.Message.Settlement

/-! A RabbitMQ delivery: how often it is acknowledged, and what it leaves in the flow. -/

namespace BlocksGenesis.Message
open Python BlocksGenesis.Auth BlocksGenesis.Delegation

/-- How an awaited step ends. A cancellation, and what else is no `Exception`, interrupts. -/
inductive Ending where
  | returned
  | raised (e : Exc)
  | interrupted

/-- An event handler that may also be interrupted. -/
abbrev DeliveryHandler := Json → Ambient → Ending × Ambient

/-- The registered handlers, and how the steps that are awaited for this delivery end. -/
structure DeliveryWorker where
  resolve : String → Except Exc DeliveryHandler
  ack : Ending
  deleteGrant : String → Ending

/-- What became of a delivery: how often `ack` was called, how the processing ended, and the flow
afterwards. -/
structure Processed where
  acks : Nat
  ending : Ending
  ambient : Ambient

/-- The `try` around the handler, the same as `dispatch` with the flow kept. -/
def handleDelivery (rt : Runtime) (worker : DeliveryWorker) (body : String) (ambient : Ambient) : Ending × Ambient :=
  match rt.loads body >>= readEventMessage with
  | .error e => (.raised e, ambient)
  | .ok (type, payload) =>
    match worker.resolve type with
    | .error e => (.raised e, ambient)
    | .ok handler =>
      match rt.loads payload with
      | .error e => (.raised e, ambient)
      | .ok payload => handler payload ambient

/-- `_release_delegation_grant`. An error of Redis is logged in `delete_async`. -/
def releaseGrant (worker : DeliveryWorker) (delegationGrant : Option String) : Ending :=
  match given delegationGrant with
  | none => .returned
  | some id =>
    if !isWellFormed id then .returned
    else match worker.deleteGrant id with
      | .interrupted => .interrupted
      | .returned | .raised _ => .returned

def clearHolders (ambient : Ambient) : Ambient := { ambient with context := none, grant := none }

/-- The `finally`: acknowledge, release after a handler that returned, and clear. An error of the
handler is logged before it, an interruption goes on after it. -/
def settleDelivery (worker : DeliveryWorker) (delegationGrant : Option String) (ending : Ending)
    (ambient : Ambient) : Processed :=
  match worker.ack with
  | .returned =>
    match ending with
    | .returned =>
      match releaseGrant worker delegationGrant with
      | .returned => ⟨1, .returned, clearHolders ambient⟩
      | failed => ⟨1, failed, ambient⟩
    | .raised _ => ⟨1, .returned, clearHolders ambient⟩
    | .interrupted => ⟨1, .interrupted, clearHolders ambient⟩
  | failed => ⟨1, failed, ambient⟩

/-- `_process_message` with its `finally`. What comes before the `try` leaves the message as it is. -/
def processDelivery (rt : Runtime) (worker : DeliveryWorker) (message : RabbitMessage) (ambient : Ambient) :
    Processed :=
  match restoreMessageContext rt message ambient with
  | .error e => ⟨0, .raised e, ambient⟩
  | .ok (baggage, delegationGrant, entered) =>
    match (do readBaggage rt (.str baggage); message.bodyText rt) with
    | .error e => ⟨0, .raised e, entered⟩
    | .ok body =>
      let (ending, after) := handleDelivery rt worker body entered
      settleDelivery worker delegationGrant ending after

/-! ## The same as the order of its steps says -/

def Ending.ofResult : Except Exc Unit → Ending
  | .ok _ => .returned
  | .error e => .raised e

/-- A worker of the other model, in which nothing is interrupted. -/
def GrantWorker.deliveries (worker : GrantWorker) (removed : String → Except Exc Unit) : DeliveryWorker where
  resolve type := (worker.resolve type).map (fun handler payload ambient =>
    (.ofResult (handler payload ambient).1, (handler payload ambient).2))
  ack := .ofResult worker.settle
  deleteGrant id := .ofResult (removed id)

def Action.isSettled : Action → Bool
  | .settled _ => true
  | _ => false

section Same
variable {rt : Runtime} {worker : GrantWorker} {removed : String → Except Exc Unit}

theorem handleDelivery_same (body : String) (ambient : Ambient) (grants : Grants) :
    (handleDelivery rt (worker.deliveries removed) body ambient).1 =
      .ofResult (dispatch rt worker body ambient grants).result := by
  unfold handleDelivery dispatch
  cases rt.loads body >>= readEventMessage with
  | error e => rfl
  | ok named =>
    obtain ⟨type, payload⟩ := named
    dsimp only [processMessage, GrantWorker.deliveries]
    cases worker.resolve type with
    | error e => rfl
    | ok handler =>
      dsimp only [Except.map]
      cases rt.loads payload <;> rfl

theorem releaseGrant_same (delegationGrant : Option String) :
    releaseGrant (worker.deliveries removed) delegationGrant = .returned := by
  unfold releaseGrant
  split
  · rfl
  · split
    · rfl
    · rename_i id _ _
      dsimp only [GrantWorker.deliveries]
      cases removed id <;> rfl

theorem releases_settle_nothing {trace : List Action} (h : ∀ action ∈ trace, action.releases = true) :
    trace.countP Action.isSettled = 0 := by
  apply List.countP_eq_zero.mpr
  intro action hm hsettled
  have hreleases := h action hm
  cases action with
  | handled result | settled result | abandoned result => cases hreleases
  | invalidated delegationGrant | deleted delegationId result => cases hsettled

theorem dispatch_settles_nothing (body : String) (ambient : Ambient) (grants : Grants) :
    (dispatch rt worker body ambient grants).trace.countP Action.isSettled = 0 := by
  rcases dispatch_cases rt worker body ambient grants with ⟨e, hd⟩ | ⟨result, hd⟩ <;> rw [hd] <;> rfl

/-- A delivery ends as the order of its steps has it, and is acknowledged as often. -/
theorem processDelivery_same (message : RabbitMessage) (ambient : Ambient) (grants : Grants) :
    (processDelivery rt (worker.deliveries removed) message ambient).ending =
        .ofResult (processRabbitMessage rt worker message ambient grants).result ∧
      (processDelivery rt (worker.deliveries removed) message ambient).acks =
        (processRabbitMessage rt worker message ambient grants).trace.countP Action.isSettled := by
  unfold processDelivery processRabbitMessage
  cases restoreMessageContext rt message ambient with
  | error e => exact ⟨rfl, rfl⟩
  | ok restored =>
    obtain ⟨baggage, delegationGrant, entered⟩ := restored
    dsimp only [bind, Except.bind]
    cases readBaggage rt (.str baggage) with
    | error e => exact ⟨rfl, rfl⟩
    | ok _ =>
      dsimp only
      cases message.bodyText rt with
      | error e => exact ⟨rfl, rfl⟩
      | ok body =>
        have hsame := @handleDelivery_same rt worker removed body entered grants
        have hcount := @dispatch_settles_nothing rt worker body entered grants
        have hrelease := releaseDelegationGrant_spec worker delegationGrant
          (dispatch rt worker body entered grants).grants
        dsimp only [pure, Except.pure]
        rw [hsame]
        unfold settleDelivery
        rw [releaseGrant_same]
        unfold GrantWorker.deliveries
        cases hsettle : worker.settle with
        | error e =>
          constructor
          · rfl
          · simp [Attempt.log, Ending.ofResult, hcount, Action.isSettled]
        | ok _ =>
          cases hresult : (dispatch rt worker body entered grants).result with
          | error e =>
            constructor
            · rfl
            · simp [Attempt.log, Ending.ofResult, hcount, Action.isSettled]
          | ok _ =>
            constructor
            · simp [Attempt.thenRelease, Attempt.log, Ending.ofResult, hrelease.1]
            · have hreleased := releases_settle_nothing hrelease.2
              simp [Attempt.thenRelease, Attempt.log, Ending.ofResult, hcount, hreleased, List.countP_cons,
                Action.isSettled]

end Same

/-! ## What is acknowledged and cleaned up -/

structure Acknowledged (processed : Processed) : Prop where
  once : processed.acks = 1
  clear : Clear processed.ambient

def readHeaders : List String :=
  ["TraceId", "SpanId", "TenantId", "SecurityContext", "Baggage", "DelegationGrant"]

/-- Nothing of the message raises before the `try`: its headers and its body are UTF-8 where they
are bytes, and its baggage is a JSON object, or no JSON at all. -/
structure Openable (rt : Runtime) (message : RabbitMessage) : Prop where
  headers : ∀ name ∈ readHeaders, message.headers.lookup name ≠ some (.bytes none)
  baggage : ∀ text, message.header rt "Baggage" "\x7b\x7d" = .ok text →
    (∃ fields, rt.loads text = .ok (.obj fields)) ∨ rt.loads text = .error .jsonDecode
  body : message.body ≠ .bytes none

/-- The acknowledgement returns, and after a handler that returned so does the release. -/
def Finishes (worker : DeliveryWorker) (delegationGrant : Option String) (ending : Ending) : Prop :=
  worker.ack = .returned ∧ (ending = .returned → releaseGrant worker delegationGrant = .returned)

section Delivery
variable {rt : Runtime} {message : RabbitMessage} {ambient : Ambient}

theorem header_ok_iff {name default : String} :
    (∃ text, message.header rt name default = .ok text) ↔ message.headers.lookup name ≠ some (.bytes none) := by
  unfold RabbitMessage.header
  cases message.headers.lookup name with
  | none => simp
  | some value =>
    cases value with
    | value v => cases v <;> simp [Property.decodeText]
    | bytes utf8 => cases utf8 <;> simp [Property.decodeText]

theorem bodyText_ok_iff : (∃ text, message.bodyText rt = .ok text) ↔ message.body ≠ .bytes none := by
  unfold RabbitMessage.bodyText
  cases message.body with
  | value v => simp
  | bytes utf8 => cases utf8 <;> simp

theorem readBaggage_ok_iff {text : String} :
    readBaggage rt (.str text) = .ok () ↔
      (∃ fields, rt.loads text = .ok (.obj fields)) ∨ rt.loads text = .error .jsonDecode := by
  unfold readBaggage
  dsimp only
  split <;> simp_all

/-- A grant header is text by now, so its holder takes it or stays empty. -/
theorem setDelegatedToken_header (delegationGrant : Option String) (ambient : Ambient) :
    ∃ entered, setDelegatedToken ((delegationGrant.map Json.str).getD .null) ambient = .ok entered := by
  cases delegationGrant with
  | none => exact ⟨_, rfl⟩
  | some id => exact ⟨_, rfl⟩

theorem restoreMessageContext_ok {baggage : String} {delegationGrant : Option String} {entered : Ambient}
    (h : restoreMessageContext rt message ambient = .ok (baggage, delegationGrant, entered)) :
    message.header rt "Baggage" "\x7b\x7d" = .ok baggage ∧
      ∀ name ∈ readHeaders, message.headers.lookup name ≠ some (.bytes none) := by
  unfold restoreMessageContext at h
  obtain ⟨_, htrace, h⟩ := bind_ok_iff.mp h
  obtain ⟨_, hspan, h⟩ := bind_ok_iff.mp h
  obtain ⟨_, htenant, h⟩ := bind_ok_iff.mp h
  obtain ⟨_, hcontext, h⟩ := bind_ok_iff.mp h
  obtain ⟨_, hbaggage, h⟩ := bind_ok_iff.mp h
  obtain ⟨_, hgrant, h⟩ := bind_ok_iff.mp h
  obtain ⟨_, _, h⟩ := bind_ok_iff.mp h
  cases h
  refine ⟨hbaggage, ?_⟩
  simp only [readHeaders, List.forall_mem_cons]
  exact ⟨header_ok_iff.mp ⟨_, htrace⟩, header_ok_iff.mp ⟨_, hspan⟩, header_ok_iff.mp ⟨_, htenant⟩,
    header_ok_iff.mp ⟨_, hcontext⟩, header_ok_iff.mp ⟨_, hbaggage⟩, header_ok_iff.mp ⟨_, hgrant⟩, nofun⟩

theorem restoreMessageContext_opens (rt : Runtime) (ambient : Ambient)
    (h : ∀ name ∈ readHeaders, message.headers.lookup name ≠ some (.bytes none)) :
    ∃ restored, restoreMessageContext rt message ambient = .ok restored := by
  simp only [readHeaders, List.forall_mem_cons] at h
  obtain ⟨htrace, hspan, htenant, hcontext, hbaggage, hgrant, _⟩ := h
  obtain ⟨_, htrace⟩ := header_ok_iff.mpr htrace
  obtain ⟨_, hspan⟩ := header_ok_iff.mpr hspan
  obtain ⟨_, htenant⟩ := header_ok_iff.mpr htenant
  obtain ⟨context, hcontext⟩ := header_ok_iff.mpr hcontext
  obtain ⟨baggage, hbaggage⟩ := header_ok_iff.mpr hbaggage
  obtain ⟨grant, hgrant⟩ := header_ok_iff.mpr hgrant
  obtain ⟨entered, hentered⟩ := setDelegatedToken_header (given (some grant))
    (restoreSecurityContext rt (.str context) ambient)
  refine ⟨(baggage, given (some grant), entered), ?_⟩
  unfold restoreMessageContext
  rw [htrace, hspan, htenant, hcontext, hbaggage, hgrant]
  simp only [bind, Except.bind, hentered]
  rfl

theorem settleDelivery_clear_iff (worker : DeliveryWorker) (delegationGrant : Option String) (ending : Ending)
    (after : Ambient) :
    Acknowledged (settleDelivery worker delegationGrant ending after) ↔
      Finishes worker delegationGrant ending ∨ Clear after := by
  have hone : ∀ {failed : Ending}, Acknowledged ⟨1, failed, after⟩ ↔ Clear after :=
    ⟨fun h => h.clear, fun h => ⟨rfl, h⟩⟩
  have hcleared : ∀ ended : Ending, Acknowledged ⟨1, ended, clearHolders after⟩ := fun _ => ⟨rfl, rfl, rfl⟩
  unfold settleDelivery Finishes
  cases worker.ack with
  | raised e | interrupted => simp [hone]
  | returned =>
    cases ending with
    | raised e | interrupted => simp [hcleared]
    | returned => cases releaseGrant worker delegationGrant <;> simp [hone, hcleared]

/-- A message that cannot be opened is not acknowledged, since that comes before the `try`. -/
theorem acknowledged_iff (rt : Runtime) (worker : DeliveryWorker) (message : RabbitMessage) (ambient : Ambient) :
    Acknowledged (processDelivery rt worker message ambient) ↔ Openable rt message ∧
      ∀ baggage delegationGrant entered body,
        restoreMessageContext rt message ambient = .ok (baggage, delegationGrant, entered) →
        message.bodyText rt = .ok body →
        Finishes worker delegationGrant (handleDelivery rt worker body entered).1 ∨
          Clear (handleDelivery rt worker body entered).2 := by
  have hlost : ∀ {ending : Ending} {after : Ambient}, ¬ Acknowledged ⟨0, ending, after⟩ :=
    fun h => nomatch h.once
  unfold processDelivery
  cases hrestored : restoreMessageContext rt message ambient with
  | error e =>
    refine ⟨fun h => absurd h hlost, fun h => ?_⟩
    obtain ⟨restored, hopens⟩ := restoreMessageContext_opens rt ambient h.1.headers
    cases hopens.symm.trans hrestored
  | ok restored =>
    obtain ⟨baggage, delegationGrant, entered⟩ := restored
    obtain ⟨hbaggage, hheaders⟩ := restoreMessageContext_ok hrestored
    dsimp only [bind, Except.bind]
    cases hread : readBaggage rt (.str baggage) with
    | error e =>
      refine ⟨fun h => absurd h hlost, fun h => ?_⟩
      cases (readBaggage_ok_iff.mpr (h.1.baggage baggage hbaggage)).symm.trans hread
    | ok _ =>
      dsimp only
      cases hbody : message.bodyText rt with
      | error e =>
        refine ⟨fun h => absurd h hlost, fun h => ?_⟩
        obtain ⟨text, htext⟩ := (@bodyText_ok_iff rt message).mpr h.1.body
        cases htext.symm.trans hbody
      | ok body =>
        rw [settleDelivery_clear_iff]
        constructor
        · intro h
          refine ⟨⟨hheaders, ?_, bodyText_ok_iff.mp ⟨body, hbody⟩⟩, ?_⟩
          · intro text htext
            cases hbaggage.symm.trans htext
            exact readBaggage_ok_iff.mp hread
          · intro _ _ _ _ hsame hbody'
            cases hsame
            cases hbody'
            exact h
        · intro h
          exact h.2 baggage delegationGrant entered body rfl rfl

/-- The baggage of this delivery is JSON, and no object: it stays unacknowledged. -/
theorem array_baggage_unacknowledged : ¬ ∀ (rt : Runtime) (worker : DeliveryWorker) (message : RabbitMessage)
    (ambient : Ambient), Acknowledged (processDelivery rt worker message ambient) := by
  intro h
  have hone := (h { asciiRuntime with loads := fun s => if s = "[]" then .ok (.arr []) else .error .jsonDecode }
    ⟨fun _ => .error (.other "KeyError"), .returned, fun _ => .returned⟩
    { headers := [("Baggage", .bytes (some "[]"))] } ⟨none, none, none⟩).once
  cases hone

end Delivery

end BlocksGenesis.Message
