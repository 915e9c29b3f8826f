import BlocksGenesis.Machine.Queue
import BlocksGenesis.Machine.Run
import BlocksGenesis.Message.SettledOnce

/-! A Service Bus queue and its receivers in all replicas: how often a message is delivered, and where it ends. -/

namespace BlocksGenesis.Message.BusQueue
open Python Machine BlocksGenesis.Auth BlocksGenesis.Delegation

/-- What a receiver makes of a delivery. The message lies in its buffer, or it was handled so, and these requests are
not made yet. -/
inductive Task where
  | buffered
  | handled (settlement : Settlement) (rest : List SettlementRequest)

abbrev State (broker : Broker) := Queue broker ServiceBusMessage Task

/-- The lock of a delivery may expire at any time, as may a message that waits. -/
inductive Event where
  | publish (message : ServiceBusMessage)
  | deliver
  | handle (lease : Nat) (worker : BusWorker) (flow : Ambient)
  | request (lease : Nat) (reached : Bool)
  | expireLock (lease : Nat)
  | expire (place : Nat)

/-- What a request does to the queue: nothing where it does not reach the bus, and nothing where the lock is lost. -/
def make {broker : Broker} (s : State broker) (lease : Nat) (reached : Bool) : SettlementRequest → State broker
  | .complete _ => if reached then (s.settle lease).getD s else s
  | .abandon _ => if reached then (s.takeBack lease).getD s else s

/-- Receivers of all replicas take deliveries from the queue, each one after the other, and some of them ahead. -/
def step {broker : Broker} (rt : Runtime) (s : State broker) : Event → Option (State broker)
  | .publish message => some (s.publish message)
  | .deliver => s.deliver .buffered
  | .handle lease worker flow =>
    match s.tasks[lease]?, s.messageOf lease with
    | some .buffered, some message =>
      let settlement := receiveBusMessage rt worker message flow
      some (s.become lease (.handled settlement settlement.requests))
    | _, _ => none
  | .request lease reached =>
    match s.tasks[lease]? with
    | some (.handled settlement (request :: rest)) =>
      some (make (s.become lease (.handled settlement rest)) lease reached request)
    | _ => none
  | .expireLock lease => s.takeBack lease
  | .expire place => s.expire place

/-- What is relied on of the bus: a `complete_message` that returns has reached it, and the lock was held. -/
def answered {broker : Broker} (s : State broker) : Event → Bool
  | .request lease reached =>
    match s.tasks[lease]? with
    | some (.handled _ (.complete .returned :: _)) => reached && (broker.settle s.state lease).isSome
    | _ => true
  | _ => true

/-! ## What every step keeps -/

/-- The message gets as far as its handler, and that returns. -/
def Succeeds (rt : Runtime) (worker : BusWorker) (message : ServiceBusMessage) (flow : Ambient) : Prop :=
  ∃ properties entered, Enters rt message flow properties entered ∧
    HandlerEnds rt worker.toDeliveryWorker message properties entered .returned

/-- A task that may be one of this message's. -/
inductive TaskFor (rt : Runtime) (message : ServiceBusMessage) : Task → Prop where
  | buffered : TaskFor rt message .buffered
  | handled {settlement : Settlement} {rest : List SettlementRequest} (worker : BusWorker) (flow : Ambient)
      (made : List SettlementRequest) : settlement = receiveBusMessage rt worker message flow →
      settlement.requests = made ++ rest → TaskFor rt message (.handled settlement rest)

/-- A message is completed only after a handler of its own that returned. -/
inductive Completes (rt : Runtime) (message : ServiceBusMessage) : Task → Prop where
  | handled {settlement : Settlement} {rest : List SettlementRequest} (worker : BusWorker) (flow : Ambient) :
      settlement = receiveBusMessage rt worker message flow → Succeeds rt worker message flow →
      Completes rt message (.handled settlement rest)

abbrev Sound (rt : Runtime) (maxDeliveryCount : Nat) {broker : Broker} (s : State broker) : Prop :=
  Queue.Sound (some maxDeliveryCount) (TaskFor rt) (Completes rt) s

/-- Where a delivery has made its requests, and a `complete_message` among them returned, its lease is settled. -/
def Settles {broker : Broker} (s : State broker) : Prop :=
  ∀ (lease : Nat) settlement, s.tasks[lease]? = some (.handled settlement []) →
    .complete .returned ∈ settlement.requests → ∃ m, s.ledger.leases[lease]? = some ⟨m, .settled⟩

section Steps
variable {broker : Broker} {rt : Runtime} {maxDeliveryCount : Nat} {s s' : State broker}

/-- A `complete_message` is asked for only after a handler that returned. -/
theorem succeeds_of_complete {worker : BusWorker} {message : ServiceBusMessage} {flow : Ambient} {ending : Ending}
    (h : .complete ending ∈ (receiveBusMessage rt worker message flow).requests) :
    Succeeds rt worker message flow := by
  have hasked := receiveBusMessage_asked rt worker message flow
  generalize (receiveBusMessage rt worker message flow).requests = requests at h hasked
  cases hasked with
  | unopened _ _ => simp at h
  | stopped _ _ => cases h
  | completed hentered hends _ => exact ⟨_, _, hentered, hends⟩
  | uncompleted hentered hends _ _ _ => exact ⟨_, _, hentered, hends⟩
  | failed _ _ _ _ => simp at h

/-- What a request has done to the queue: it has settled the lease, ended it unsettled, or nothing. -/
theorem make_some {lease : Nat} {reached : Bool} {request : SettlementRequest}
    (h : some (make s lease reached request) = some s') :
    (s.settle lease = some s' ∧ ∃ ending, request = .complete ending) ∨ s.takeBack lease = some s' ∨ s' = s := by
  cases request with
  | complete ending =>
    rcases Queue.reached_some h with hsettle | hsame
    · exact .inl ⟨hsettle, ending, rfl⟩
    · exact .inr (.inr hsame)
  | abandon ending => exact .inr (Queue.reached_some h)

theorem sound_start (hbroker : broker.Lawful (some maxDeliveryCount)) (hpositive : 0 < maxDeliveryCount) :
    Sound rt maxDeliveryCount ({} : State broker) :=
  Queue.sound_start hbroker (fun _ hn => Option.some.inj hn ▸ hpositive)

theorem sound_request {lease : Nat} {reached : Bool} {settlement : Settlement} {request : SettlementRequest}
    {rest : List SettlementRequest} (hbroker : broker.Lawful (some maxDeliveryCount)) (h : Sound rt maxDeliveryCount s)
    (ht : s.tasks[lease]? = some (.handled settlement (request :: rest)))
    (hmake : some (make (s.become lease (.handled settlement rest)) lease reached request) = some s') :
    Sound rt maxDeliveryCount s' := by
  obtain ⟨message, hmessage, htask⟩ := h.tasks lease _ ht
  cases htask with
  | handled worker flow made hsettlement hrequests =>
    have hnow : TaskFor rt message (.handled settlement rest) :=
      .handled worker flow (made ++ [request]) hsettlement (by simp [hrequests])
    have hbecome := Queue.sound_become h ht hmessage hnow
      (fun other hother => by
        cases hother with
        | handled worker flow hsame hsucceeds => exact .handled worker flow hsame hsucceeds)
    rcases make_some hmake with ⟨hsettle, ending, rfl⟩ | hback | rfl
    · have hsucceeds : Succeeds rt worker message flow := by
        apply @succeeds_of_complete rt worker message flow ending
        rw [← hsettlement, hrequests]
        simp
      exact Queue.sound_settle hbroker hbecome (slot_set_self ht) hmessage
        (.handled worker flow hsettlement hsucceeds) hsettle
    · exact Queue.sound_takeBack hbroker hbecome hback
    · exact hbecome

theorem step_sound {e : Event} (hbroker : broker.Lawful (some maxDeliveryCount)) (h : Sound rt maxDeliveryCount s)
    (hstep : step rt s e = some s') : Sound rt maxDeliveryCount s' := by
  cases e with
  | publish message =>
    cases hstep
    exact Queue.sound_publish hbroker h message
  | deliver => exact Queue.sound_deliver hbroker h (fun _ => .buffered) hstep
  | handle lease worker flow =>
    simp only [step] at hstep
    split at hstep
    · rename_i message ht hmessage
      cases hstep
      exact Queue.sound_become h ht hmessage (.handled worker flow [] rfl rfl) nofun
    · cases hstep
  | request lease reached =>
    simp only [step] at hstep
    split at hstep
    · rename_i settlement request rest ht
      exact sound_request hbroker h ht hstep
    · cases hstep
  | expireLock lease => exact Queue.sound_takeBack hbroker h hstep
  | expire place => exact Queue.sound_expire hbroker h hstep

theorem run_sound {events : List Event} (hbroker : broker.Lawful (some maxDeliveryCount))
    (hpositive : 0 < maxDeliveryCount) {allowed : State broker → Event → Prop}
    (h : Run (step rt) allowed ({} : State broker) events s) : Sound rt maxDeliveryCount s :=
  h.invariant (sound_start hbroker hpositive) (fun hs _ hstep => step_sound hbroker hs hstep)

/-- In every run, with any number of receivers, any handlers, any answers of the bus and any expiry: each message
waits, is held, is completed, is a dead letter or has expired, and no two of these; it is delivered no more often than
the queue has it, after that is completed or a dead letter unless it is held, and is no dead letter before; and it is
completed only by a delivery whose handler returned. -/
theorem delivered_or_dead {events : List Event} (hbroker : broker.Lawful (some maxDeliveryCount))
    (hpositive : 0 < maxDeliveryCount) (h : Run (step rt) (fun _ _ => True) ({} : State broker) events s) :
    (∀ m < s.messages.length, s.ledger.waiting.count m + s.ledger.count m .held + s.ledger.count m .settled +
      s.ledger.dead.count m + s.ledger.expired.count m = 1) ∧
    (∀ m, s.ledger.handed m ≤ maxDeliveryCount) ∧
    (∀ m, s.ledger.handed m = maxDeliveryCount → s.ledger.count m .held = 0 →
      s.ledger.count m .settled + s.ledger.dead.count m = 1) ∧
    (∀ m ∈ s.ledger.dead, s.ledger.handed m = maxDeliveryCount) ∧
    ∀ (lease m : Nat), s.ledger.leases[lease]? = some ⟨m, .settled⟩ →
      ∃ message worker flow rest, s.messages[m]? = some message ∧ Succeeds rt worker message flow ∧
        s.tasks[lease]? = some (.handled (receiveBusMessage rt worker message flow) rest) := by
  have hsound := run_sound hbroker hpositive h
  have honce : ∀ m < s.messages.length, s.ledger.waiting.count m + s.ledger.count m .held +
      s.ledger.count m .settled + s.ledger.dead.count m + s.ledger.expired.count m = 1 :=
    fun m hm => hsound.accounted.once m (hsound.messages ▸ hm)
  have hlimited := hsound.accounted.limited maxDeliveryCount rfl
  refine ⟨honce, hlimited, fun m hall hheld => ?_, fun m hm => ?_, fun lease m hl => ?_⟩
  · have hknown : m < s.messages.length := by
      apply Nat.lt_of_not_le
      intro hge
      have hnever := (hsound.accounted.unknown m (hsound.messages ▸ hge)).2
      omega
    have hone := honce m hknown
    -- A message that waits, or has expired, was still due, and this one is not.
    have hdue := hsound.accounted.due maxDeliveryCount rfl m
    omega
  · obtain ⟨n, hn, hmany⟩ := hsound.accounted.buried m (List.count_pos_iff.mpr hm)
    cases hn
    exact Nat.le_antisymm (hlimited m) hmany
  · obtain ⟨message, _, hm, ht, hcompletes⟩ := hsound.settled lease m hl
    cases hcompletes with
    | handled worker flow hsame hsucceeds => exact ⟨message, worker, flow, _, hm, hsucceeds, hsame ▸ ht⟩

end Steps

/-- The handler raises in both deliveries, and each of them makes two requests. Another message waits for too long. -/
def refusedTwice : List Event :=
  [.publish pingDelivery, .publish pingDelivery, .expire 1, .deliver, .handle 0 refusingWorker {}, .request 0 true,
    .request 0 true, .deliver, .handle 1 refusingWorker {}, .request 1 true, .request 1 false]

theorem delivered_or_dead_refused :
    ∃ s : State (leasing (some 2) 0), Run (step pingRuntime) (fun _ _ => True) {} refusedTwice s ∧
      s.ledger.handed 0 = 2 ∧ s.ledger.count 0 .settled + s.ledger.dead.count 0 = 1 ∧ s.ledger.dead = [0] ∧
      s.ledger.expired = [1] := by
  have hran : ∃ s : State (leasing (some 2) 0), Run (step pingRuntime) (fun _ _ => True) {} refusedTwice s ∧
      s.ledger.handed 0 = 2 ∧ s.ledger.count 0 .held = 0 ∧ s.ledger.dead = [0] ∧ s.ledger.expired = [1] :=
    ⟨_, Run.of_exec (fun _ _ _ => trivial) rfl, rfl, rfl, rfl, rfl⟩
  obtain ⟨s, hrun, hhanded, hheld, hdead, hexpired⟩ := hran
  obtain ⟨_, _, hends, _⟩ := delivered_or_dead (leasing_lawful (some 2) 0) Nat.zero_lt_two hrun
  exact ⟨s, hrun, hhanded, hends 0 hhanded hheld, hdead, hexpired⟩

/-! ## What is completed -/

section Completed
variable {broker : Broker} {rt : Runtime} {maxDeliveryCount : Nat} {s s' : State broker}

/-- A lease that is settled stays so, and its message is as often delivered as before. -/
theorem settle_settled {lease other m : Nat} (hbroker : broker.Lawful (some maxDeliveryCount))
    (h : s.settle lease = some s') (hl : s.ledger.leases[other]? = some ⟨m, .settled⟩) :
    s'.ledger.leases[other]? = some ⟨m, .settled⟩ ∧ s'.ledger.handed m = s.ledger.handed m := by
  obtain ⟨⟨_, hheld, hledger⟩, _⟩ := Queue.settle_some hbroker h
  rw [hledger]
  exact ⟨Ledger.settled_set hheld hl, Ledger.handed_set hheld⟩

theorem takeBack_settled {lease other m : Nat} (hbroker : broker.Lawful (some maxDeliveryCount))
    (h : s.takeBack lease = some s') (hl : s.ledger.leases[other]? = some ⟨m, .settled⟩) :
    s'.ledger.leases[other]? = some ⟨m, .settled⟩ ∧ s'.ledger.handed m = s.ledger.handed m := by
  obtain ⟨⟨_, hheld, ⟨_, hledger⟩ | ⟨_, _, _, hledger⟩⟩, _⟩ := Queue.takeBack_some hbroker h
  · rw [hledger]
    exact ⟨Ledger.settled_set hheld hl, Ledger.handed_set hheld⟩
  · rw [hledger]
    exact ⟨Ledger.settled_set hheld hl, Ledger.handed_set hheld⟩

theorem settle_self {lease : Nat} (hbroker : broker.Lawful (some maxDeliveryCount)) (h : s.settle lease = some s') :
    ∃ m, s'.ledger.leases[lease]? = some ⟨m, .settled⟩ := by
  obtain ⟨⟨m, hheld, hledger⟩, _⟩ := Queue.settle_some hbroker h
  rw [hledger]
  exact ⟨m, slot_set_self hheld⟩

/-- A delivery that has made all its requests, with a `complete_message` that returned, has made no other last. -/
theorem last_request {worker : BusWorker} {message : ServiceBusMessage} {flow : Ambient}
    {made : List SettlementRequest} {request : SettlementRequest}
    (hrequests : (receiveBusMessage rt worker message flow).requests = made ++ [request])
    (hcompleted : .complete .returned ∈ (receiveBusMessage rt worker message flow).requests) :
    request = .complete .returned := by
  have hone := (receiveBusMessage_asked rt worker message flow).unabandoned hcompleted
  rw [hone] at hrequests
  cases made with
  | nil => exact (List.singleton_inj.mp hrequests).symm
  | cons first made => simp at hrequests

/-- A message that is completed is not handed out again. -/
theorem step_completed {e : Event} {lease m : Nat} (hbroker : broker.Lawful (some maxDeliveryCount))
    (h : Sound rt maxDeliveryCount s) (hl : s.ledger.leases[lease]? = some ⟨m, .settled⟩)
    (hstep : step rt s e = some s') :
    s'.ledger.leases[lease]? = some ⟨m, .settled⟩ ∧ s'.ledger.handed m = s.ledger.handed m := by
  cases e with
  | publish message =>
    cases hstep
    obtain ⟨waiting, _, hledger⟩ := Queue.publish_ledger hbroker s message
    rw [hledger]
    exact ⟨hl, rfl⟩
  | deliver => exact Ledger.handedOut_settled h.accounted hl (Queue.deliver_some hbroker hstep).1
  | handle other worker flow =>
    simp only [step] at hstep
    split at hstep
    · cases hstep
      exact ⟨hl, rfl⟩
    · cases hstep
  | request other reached =>
    simp only [step] at hstep
    split at hstep
    · rcases make_some hstep with ⟨hsettle, _⟩ | hback | rfl
      · have hkept := settle_settled hbroker hsettle hl
        exact hkept
      · have hkept := takeBack_settled hbroker hback hl
        exact hkept
      · exact ⟨hl, rfl⟩
    · cases hstep
  | expireLock other => exact takeBack_settled hbroker hstep hl
  | expire place =>
    obtain ⟨⟨_, rest, _, hledger⟩, _⟩ := Queue.expire_some hbroker hstep
    rw [hledger]
    exact ⟨hl, rfl⟩

/-- A request leaves what is settled as it was, and settles its lease where it is a `complete_message` that returned. -/
theorem settles_request {lease : Nat} {reached : Bool} {settlement : Settlement} {request : SettlementRequest}
    {rest : List SettlementRequest} (hbroker : broker.Lawful (some maxDeliveryCount)) (h : Sound rt maxDeliveryCount s)
    (hsettles : Settles s) (hanswered : answered s (.request lease reached) = true)
    (ht : s.tasks[lease]? = some (.handled settlement (request :: rest)))
    (hmake : some (make (s.become lease (.handled settlement rest)) lease reached request) = some s') :
    Settles s' := by
  intro other found hfound hcompleted
  have hmade := make_some hmake
  have htasks : s'.tasks = s.tasks.set lease (.handled settlement rest) := by
    rcases hmade with ⟨hsettle, _⟩ | hback | rfl
    · exact (Queue.settle_some hbroker hsettle).2.2
    · exact (Queue.takeBack_some hbroker hback).2.2
    · rfl
  rw [htasks] at hfound
  rcases slot_of_set hfound with ⟨rfl, hsame⟩ | ⟨_, hold⟩
  · -- This delivery has made its last request now.
    cases hsame
    obtain ⟨message, _, htask⟩ := h.tasks other _ ht
    cases htask with
    | handled worker flow made hsettlement hrequests =>
      rw [hsettlement] at hrequests hcompleted
      cases last_request hrequests hcompleted
      simp only [answered, ht, Bool.and_eq_true] at hanswered
      obtain ⟨rfl, hsome⟩ := hanswered
      obtain ⟨state, hstate⟩ := Option.isSome_iff_exists.mp hsome
      have hsettle : (s.become other (.handled settlement [])).settle other = some s' := by
        rw [← hmake]
        simp [make, Queue.settle, Queue.become, hstate]
      exact settle_self hbroker hsettle
  · obtain ⟨m, hl⟩ := hsettles other found hold hcompleted
    refine ⟨m, ?_⟩
    rcases hmade with ⟨hsettle, _⟩ | hback | rfl
    · have hkept := settle_settled hbroker hsettle hl
      exact hkept.1
    · have hkept := takeBack_settled hbroker hback hl
      exact hkept.1
    · exact hl

theorem step_settles {e : Event} (hbroker : broker.Lawful (some maxDeliveryCount)) (h : Sound rt maxDeliveryCount s)
    (hsettles : Settles s) (hanswered : answered s e = true) (hstep : step rt s e = some s') : Settles s' := by
  cases e with
  | publish message =>
    cases hstep
    obtain ⟨waiting, _, hledger⟩ := Queue.publish_ledger hbroker s message
    unfold Settles
    rw [hledger]
    exact hsettles
  | deliver =>
    obtain ⟨⟨first, rest, _, hledger⟩, _, htasks⟩ := Queue.deliver_some hbroker hstep
    intro lease settlement ht hcompleted
    rw [htasks] at ht
    rw [hledger]
    rcases slot_of_append ht with ⟨_, hnew⟩ | ⟨_, hold⟩
    · cases hnew
    · obtain ⟨m, hl⟩ := hsettles lease settlement hold hcompleted
      exact ⟨m, slot_append_left hl⟩
  | handle lease worker flow =>
    simp only [step] at hstep
    split at hstep
    · cases hstep
      intro other settlement hfound hcompleted
      rcases slot_of_set hfound with ⟨rfl, hsame⟩ | ⟨_, hold⟩
      · -- Its requests are still to be made.
        simp only [Task.handled.injEq] at hsame
        obtain ⟨rfl, hnone⟩ := hsame
        rw [← hnone] at hcompleted
        cases hcompleted
      · exact hsettles other settlement hold hcompleted
    · cases hstep
  | request lease reached =>
    simp only [step] at hstep
    split at hstep
    · rename_i settlement request rest ht
      exact settles_request hbroker h hsettles hanswered ht hstep
    · cases hstep
  | expireLock lease =>
    intro other settlement ht hcompleted
    rw [(Queue.takeBack_some hbroker hstep).2.2] at ht
    obtain ⟨m, hl⟩ := hsettles other settlement ht hcompleted
    exact ⟨m, (takeBack_settled hbroker hstep hl).1⟩
  | expire place =>
    obtain ⟨⟨m, rest, _, hledger⟩, _, htasks⟩ := Queue.expire_some hbroker hstep
    unfold Settles
    rw [hledger, htasks]
    exact hsettles

/-- Once `complete_message` has returned for a delivery, its message is nowhere else in any later run. -/
theorem completed_final {before after : List Event} {lease : Nat} {settlement : Settlement}
    (hbroker : broker.Lawful (some maxDeliveryCount)) (hpositive : 0 < maxDeliveryCount)
    (hbefore : Run (step rt) (fun s e => answered s e = true) ({} : State broker) before s)
    (ht : s.tasks[lease]? = some (.handled settlement [])) (hcompleted : .complete .returned ∈ settlement.requests)
    (hafter : Run (step rt) (fun _ _ => True) s after s') :
    ∃ m, s.ledger.leases[lease]? = some ⟨m, .settled⟩ ∧ s'.ledger.handed m = s.ledger.handed m ∧
      s'.ledger.waiting.count m = 0 ∧ s'.ledger.count m .held = 0 ∧ s'.ledger.dead.count m = 0 := by
  have hboth : Sound rt maxDeliveryCount s ∧ Settles s := by
    apply @Run.invariant (State broker) Event _ _ _ _ _ (fun now => Sound rt maxDeliveryCount now ∧ Settles now) hbefore
    · exact ⟨sound_start hbroker hpositive, fun _ _ hnone => by cases hnone⟩
    · rintro now e next ⟨hnow, hkept⟩ hanswered hstep
      exact ⟨step_sound hbroker hnow hstep, step_settles hbroker hnow hkept hanswered hstep⟩
  obtain ⟨hsound, hsettles⟩ := hboth
  obtain ⟨m, hl⟩ := hsettles lease settlement ht hcompleted
  obtain ⟨hlast, hsettled, hsame⟩ := @Run.invariant (State broker) Event _ _ _ _ _
    (fun now => Sound rt maxDeliveryCount now ∧ now.ledger.leases[lease]? = some ⟨m, .settled⟩ ∧
      now.ledger.handed m = s.ledger.handed m)
    hafter ⟨hsound, hl, rfl⟩ (by
      rintro now e next ⟨hnow, hkept, hhanded⟩ _ hstep
      obtain ⟨hlater, hsame⟩ := step_completed hbroker hnow hkept hstep
      exact ⟨step_sound hbroker hnow hstep, hlater, hsame.trans hhanded⟩)
  obtain ⟨hwaits, hheld, hdead, _⟩ := hlast.accounted.settled_alone hsettled
  exact ⟨m, hl, hsame, hwaits, hheld, hdead⟩

/-- A delivery that releases its grant has asked for a `complete_message` that returned. -/
theorem completes_of_releases {worker : GrantWorker} {removed : String → Except Exc Unit}
    {abandoned : List SettlementRequest → Except Exc Unit} {message : ServiceBusMessage} {flow : Ambient}
    {grants : Grants} (habandon : ∀ trace, worker.abandon trace = abandoned (trace.filterMap Action.request))
    (hreleases : ∃ action ∈ (receiveMessage rt worker message flow grants).trace, action.releases = true) :
    .complete .returned ∈ (receiveBusMessage rt (worker.busDeliveries removed abandoned) message flow).requests := by
  obtain ⟨action, haction, hreleases⟩ := hreleases
  obtain ⟨before, after, htrace⟩ := List.append_of_mem haction
  have horder := (receiveMessage_last message flow).order before action after htrace hreleases
  have hsame := @receiveBusMessage_same rt worker removed abandoned grants message flow habandon
  rw [hsame.requests, htrace]
  have hsettled : Action.settled (.ok ()) ∈ before ++ action :: after :=
    List.mem_append_left _ (horder.subset (by simp))
  exact List.mem_filterMap.mpr ⟨_, hsettled, rfl⟩

/-- In a run whose answers can be relied on: once the requests of a delivery are made, after which its grant is removed
if it is released at all, and it is released, no later run of all the receivers has another delivery of that message,
which could need the grant. It does not wait, is not held and is no dead letter. -/
theorem released_final {before after : List Event} {lease : Nat} {worker : GrantWorker}
    {removed : String → Except Exc Unit} {abandoned : List SettlementRequest → Except Exc Unit}
    {message : ServiceBusMessage} {flow : Ambient} {grants : Grants} (hbroker : broker.Lawful (some maxDeliveryCount))
    (hpositive : 0 < maxDeliveryCount)
    (habandon : ∀ trace, worker.abandon trace = abandoned (trace.filterMap Action.request))
    (hbefore : Run (step rt) (fun s e => answered s e = true) ({} : State broker) before s)
    (ht : s.tasks[lease]? =
      some (.handled (receiveBusMessage rt (worker.busDeliveries removed abandoned) message flow) []))
    (hreleases : ∃ action ∈ (receiveMessage rt worker message flow grants).trace, action.releases = true)
    (hafter : Run (step rt) (fun _ _ => True) s after s') :
    ∃ m, s.ledger.leases[lease]? = some ⟨m, .settled⟩ ∧ s'.ledger.handed m = s.ledger.handed m ∧
      s'.ledger.waiting.count m = 0 ∧ s'.ledger.count m .held = 0 ∧ s'.ledger.dead.count m = 0 :=
  completed_final hbroker hpositive hbefore ht (completes_of_releases habandon hreleases) hafter

end Completed

/-- A worker whose handler returns. -/
def grantedWorker : GrantWorker where
  resolve _ := .ok (fun _ ambient => (.ok (), ambient))
  removeKey _ redis := (.ok (), redis)

/-- An event that comes with a grant. -/
def grantedDelivery : ServiceBusMessage where
  applicationProperties := [(.value (.str "DelegationGrant"), .value (.str (newGrantId (grantToken 'f' (by decide)))))]
  body := .text eventText

/-- Its lock expires, and the second delivery is handled. -/
def grantedTwice : List Event :=
  [.publish grantedDelivery, .deliver, .expireLock 0, .deliver,
    .handle 1 (grantedWorker.busDeliveries (fun _ => .ok ()) (fun _ => .ok ())) {}, .request 1 true]

/-- The first delivery is handled after all, and its `complete_message` comes too late. -/
def grantedLate : List Event :=
  [.handle 0 (({ grantedWorker with settle := .error (.other "MessageLockLostError") } : GrantWorker).busDeliveries
    (fun _ => .ok ()) (fun _ => .ok ())) {}, .request 0 false, .request 0 true]

theorem grantedDelivery_releases (grants : Grants) :
    ∃ action ∈ (receiveMessage pingRuntime grantedWorker grantedDelivery {} grants).trace, action.releases = true := by
  have htrace : (receiveMessage pingRuntime grantedWorker grantedDelivery {} grants).trace[2]? =
      some (.invalidated (newGrantId (grantToken 'f' (by decide)))) := rfl
  exact ⟨_, List.mem_of_getElem? htrace, rfl⟩

theorem released_final_relocked :
    ∃ s s' : State (leasing (some 2) 0), Run (step pingRuntime) (fun s e => answered s e = true) {} grantedTwice s ∧
      Run (step pingRuntime) (fun _ _ => True) s grantedLate s' ∧
      s'.ledger.handed 0 = 2 ∧ s'.ledger.waiting.count 0 = 0 ∧ s'.ledger.count 0 .held = 0 := by
  have hran : ∃ s s' : State (leasing (some 2) 0),
      Run (step pingRuntime) (fun s e => answered s e = true) {} grantedTwice s ∧
      Run (step pingRuntime) (fun _ _ => True) s grantedLate s' ∧
      s.tasks[1]? = some (.handled (receiveBusMessage pingRuntime
        (grantedWorker.busDeliveries (fun _ => .ok ()) (fun _ => .ok ())) grantedDelivery {}) []) ∧
      s.ledger.leases[1]? = some ⟨0, .settled⟩ ∧ s.ledger.handed 0 = 2 :=
    ⟨_, _, Run.of_checked rfl, Run.of_exec (fun _ _ _ => trivial) rfl, rfl, rfl, rfl⟩
  obtain ⟨s, s', hbefore, hafter, ht, hl, hhanded⟩ := hran
  obtain ⟨m, hm, hsame, hwaits, hheld, _⟩ := released_final (leasing_lawful (some 2) 0) Nat.zero_lt_two
    (fun _ => rfl) hbefore ht (grantedDelivery_releases ⟨{}, {}⟩) hafter
  cases hl.symm.trans hm
  exact ⟨s, s', hbefore, hafter, hsame.trans hhanded, hwaits, hheld⟩

end BlocksGenesis.Message.BusQueue
