import BlocksGenesis.Machine.Queue
import BlocksGenesis.Machine.Run
import BlocksGenesis.Message.Delivery

/-! A RabbitMQ queue and the worker that consumes it: what becomes of every message, whatever is lost on the way. -/

namespace BlocksGenesis.Message.RabbitQueue
open Python Machine BlocksGenesis.Auth

/-- The task of a delivery. Its callback has been called, its handler is at work, or it is over. What comes of it is
known once it starts, since the worker of the model has the answers of all that is awaited. -/
inductive Task where
  | called
  | handling (processed : Processed)
  | ended (processed : Processed)

abbrev State (broker : Broker) := Queue broker RabbitMessage Task

/-- An acknowledgement reaches the broker or does not, whatever the worker hears of it, and the channel of a delivery
may be lost at any time. -/
inductive Event where
  | publish (message : RabbitMessage)
  | deliver
  | begin (lease : Nat) (worker : DeliveryWorker) (ambient : Ambient)
  | acknowledge (lease : Nat) (reached : Bool)
  | lose (lease : Nat)

/-- The callback makes a task of the delivery or is one, so all that are delivered are processed beside each other. -/
def step {broker : Broker} (rt : Runtime) (s : State broker) : Event → Option (State broker)
  | .publish message => some (s.publish message)
  | .deliver => s.deliver .called
  | .begin lease worker ambient =>
    match s.tasks[lease]?, s.messageOf lease with
    | some .called, some message =>
      let processed := processDelivery rt worker message ambient
      some (s.become lease (if processed.acks = 0 then .ended processed else .handling processed))
    | _, _ => none
  | .acknowledge lease reached =>
    match s.tasks[lease]? with
    | some (.handling processed) =>
      let finished := s.become lease (.ended processed)
      some (if reached then (finished.settle lease).getD finished else finished)
    | _ => none
  | .lose lease => s.takeBack lease

/-! ## What is acknowledged -/

section Acknowledgements
variable {rt : Runtime} {message : RabbitMessage}

theorem settleDelivery_acks (worker : DeliveryWorker) (delegationGrant : Option String) (ending : Ending)
    (after : Ambient) : (settleDelivery worker delegationGrant ending after).acks = 1 := by
  unfold settleDelivery
  split
  · split
    · split <;> rfl
    · rfl
    · rfl
  · rfl

/-- A delivery is acknowledged once if its message can be opened, else not at all, whatever its handler does. -/
theorem processDelivery_acks (worker : DeliveryWorker) (ambient : Ambient) :
    (processDelivery rt worker message ambient).acks = 1 ∧ Openable rt message ∨
      (processDelivery rt worker message ambient).acks = 0 ∧ ¬ Openable rt message := by
  unfold processDelivery
  cases hrestored : restoreMessageContext rt message ambient with
  | error e =>
    refine .inr ⟨rfl, fun hopen => ?_⟩
    obtain ⟨restored, hopens⟩ := restoreMessageContext_opens rt ambient hopen.headers
    cases hopens.symm.trans hrestored
  | ok restored =>
    obtain ⟨baggage, delegationGrant, entered⟩ := restored
    obtain ⟨hbaggage, hheaders⟩ := restoreMessageContext_ok hrestored
    dsimp only [bind, Except.bind]
    cases hread : readBaggage rt (.str baggage) with
    | error e =>
      refine .inr ⟨rfl, fun hopen => ?_⟩
      cases (readBaggage_ok_iff.mpr (hopen.baggage baggage hbaggage)).symm.trans hread
    | ok _ =>
      dsimp only
      cases hbody : message.bodyText rt with
      | error e =>
        refine .inr ⟨rfl, fun hopen => ?_⟩
        obtain ⟨text, htext⟩ := (@bodyText_ok_iff rt message).mpr hopen.body
        cases htext.symm.trans hbody
      | ok body =>
        refine .inl ⟨settleDelivery_acks _ _ _ _, hheaders, fun text htext => ?_, bodyText_ok_iff.mp ⟨body, hbody⟩⟩
        cases hbaggage.symm.trans htext
        exact readBaggage_ok_iff.mp hread

end Acknowledgements

/-! ## What every step keeps -/

/-- A task that may be one of this message's. -/
inductive TaskFor (rt : Runtime) (message : RabbitMessage) : Task → Prop where
  | called : TaskFor rt message .called
  | handling (worker : DeliveryWorker) (ambient : Ambient) : Openable rt message →
      TaskFor rt message (.handling (processDelivery rt worker message ambient))
  | ended (worker : DeliveryWorker) (ambient : Ambient) :
      TaskFor rt message (.ended (processDelivery rt worker message ambient))

/-- A message is acknowledged by a task of its own that is over, and only where it can be opened. -/
inductive Acknowledges (rt : Runtime) (message : RabbitMessage) : Task → Prop where
  | ended (worker : DeliveryWorker) (ambient : Ambient) : Openable rt message →
      Acknowledges rt message (.ended (processDelivery rt worker message ambient))

structure Sound (rt : Runtime) {broker : Broker} (s : State broker) : Prop extends
    Queue.Sound none (TaskFor rt) (Acknowledges rt) s where
  unexpired : s.ledger.expired = []

section Steps
variable {broker : Broker} {rt : Runtime} {s s' : State broker}

theorem sound_start (hbroker : broker.Lawful none) : Sound rt ({} : State broker) where
  toSound := Queue.sound_start hbroker nofun
  unexpired := by
    rw [Queue.ledger, hbroker.start]

/-- The task is over, and the lease is settled where the acknowledgement reaches the broker in time. -/
theorem acknowledge_some {lease : Nat} {reached : Bool}
    (hstep : step rt s (.acknowledge lease reached) = some s') :
    ∃ processed, s.tasks[lease]? = some (.handling processed) ∧
      (s' = s.become lease (.ended processed) ∨ (s.become lease (.ended processed)).settle lease = some s') := by
  simp only [step] at hstep
  split at hstep
  · rename_i processed ht
    exact ⟨processed, ht, (Queue.reached_some hstep).symm⟩
  · cases hstep

theorem step_queue {e : Event} (hbroker : broker.Lawful none) (h : Queue.Sound none (TaskFor rt) (Acknowledges rt) s)
    (hstep : step rt s e = some s') : Queue.Sound none (TaskFor rt) (Acknowledges rt) s' := by
  cases e with
  | publish message =>
    cases hstep
    exact Queue.sound_publish hbroker h message
  | deliver => exact Queue.sound_deliver hbroker h (fun _ => .called) hstep
  | begin lease worker ambient =>
    simp only [step] at hstep
    split at hstep
    · rename_i message ht hmessage
      cases hstep
      refine Queue.sound_become h ht hmessage ?_ nofun
      rcases @processDelivery_acks rt message worker ambient with ⟨hone, hopen⟩ | ⟨hzero, _⟩
      · rw [if_neg (by omega)]
        exact .handling worker ambient hopen
      · rw [if_pos hzero]
        exact .ended worker ambient
    · cases hstep
  | acknowledge lease reached =>
    obtain ⟨processed, ht, hover⟩ := acknowledge_some hstep
    obtain ⟨message, hmessage, htask⟩ := h.tasks lease _ ht
    cases htask with
    | handling worker ambient hopen =>
      have hended := Queue.sound_become h ht hmessage (.ended worker ambient) nofun
      rcases hover with rfl | hsettle
      · exact hended
      · exact Queue.sound_settle hbroker hended (slot_set_self ht) hmessage (.ended worker ambient hopen) hsettle
  | lose lease => exact Queue.sound_takeBack hbroker h hstep

theorem step_unexpired {e : Event} (hbroker : broker.Lawful none) (hstep : step rt s e = some s') :
    s'.ledger.expired = s.ledger.expired := by
  cases e with
  | publish message =>
    cases hstep
    obtain ⟨waiting, _, hledger⟩ := Queue.publish_ledger hbroker s message
    rw [hledger]
  | deliver =>
    obtain ⟨⟨first, rest, _, hledger⟩, _⟩ := Queue.deliver_some hbroker hstep
    rw [hledger]
  | begin lease worker ambient =>
    simp only [step] at hstep
    split at hstep
    · cases hstep
      rfl
    · cases hstep
  | acknowledge lease reached =>
    obtain ⟨processed, _, rfl | hsettle⟩ := acknowledge_some hstep
    · rfl
    · obtain ⟨⟨m, _, hledger⟩, _⟩ := Queue.settle_some hbroker hsettle
      rw [hledger]
      rfl
  | lose lease =>
    obtain ⟨⟨m, _, ⟨_, hledger⟩ | ⟨_, waiting, _, hledger⟩⟩, _⟩ := Queue.takeBack_some hbroker hstep
    · rw [hledger]
    · rw [hledger]

theorem step_sound {e : Event} (hbroker : broker.Lawful none) (h : Sound rt s) (hstep : step rt s e = some s') :
    Sound rt s' :=
  ⟨step_queue hbroker h.toSound hstep, (step_unexpired hbroker hstep).trans h.unexpired⟩

/-- Where there is no limit, there are no dead letters. -/
theorem Sound.undead (h : Sound rt s) (m : Nat) : s.ledger.dead.count m = 0 := by
  cases hdead : s.ledger.dead.count m with
  | zero => rfl
  | succ n =>
    obtain ⟨_, hlimit, _⟩ := h.accounted.buried m (by omega)
    cases hlimit

/-- In every run, with any number of deliveries beside each other, any handlers and any losses: each message that was
published waits, is held by one delivery, or is acknowledged, and no two of these; it was delivered once, and once more
for each time its channel was lost; and one that is acknowledged can be opened, and its task is over, whatever its
handler did. -/
theorem consumed_once {events : List Event} (hbroker : broker.Lawful none)
    (h : Run (step rt) (fun _ _ => True) ({} : State broker) events s) :
    (∀ m < s.messages.length, s.ledger.waiting.count m + s.ledger.count m .held + s.ledger.count m .settled = 1) ∧
    (∀ m, s.ledger.handed m ≤ 1 + s.ledger.count m .returned) ∧
    ∀ (lease m : Nat), s.ledger.leases[lease]? = some ⟨m, .settled⟩ →
      ∃ message worker ambient, s.messages[m]? = some message ∧ Openable rt message ∧
        s.tasks[lease]? = some (.ended (processDelivery rt worker message ambient)) := by
  have hsound : Sound rt s :=
    h.invariant (sound_start hbroker) (fun hs _ hstep => step_sound hbroker hs hstep)
  have honce : ∀ m < s.messages.length,
      s.ledger.waiting.count m + s.ledger.count m .held + s.ledger.count m .settled = 1 := by
    intro m hm
    have hplaces := hsound.accounted.once m (hsound.messages ▸ hm)
    rw [Ledger.places, hsound.undead, hsound.unexpired] at hplaces
    exact hplaces
  refine ⟨honce, fun m => ?_, fun lease m hl => ?_⟩
  · rw [Ledger.handed_eq]
    rcases Nat.lt_or_ge m s.messages.length with hlt | hge
    · have hone := honce m hlt
      omega
    · have hnowhere := (hsound.accounted.unknown m (hsound.messages ▸ hge)).1
      rw [Ledger.places] at hnowhere
      omega
  · obtain ⟨message, _, hm, ht, hacks⟩ := hsound.settled lease m hl
    cases hacks with
    | ended worker ambient hopen => exact ⟨message, worker, ambient, hm, hopen, ht⟩

end Steps

def listRuntime : Runtime :=
  { asciiRuntime with
    loads := fun text =>
      if text = "\x7b\x7d" then .ok (.obj []) else if text = "[]" then .ok (.arr []) else .error .jsonDecode }

def idleWorker : DeliveryWorker where
  resolve _ := .error (.other "KeyError")
  ack := .returned
  deleteGrant _ := .returned

/-- The channel is lost before the acknowledgement arrives, and the message is delivered once more. -/
theorem consumed_once_lost :
    ∃ s : State (leasing none 1), Run (step listRuntime) (fun _ _ => True) {}
        [.publish {}, .deliver, .begin 0 idleWorker ⟨none, none, none⟩, .lose 0, .acknowledge 0 true, .deliver,
          .begin 1 idleWorker ⟨none, none, none⟩, .acknowledge 1 true] s ∧
      s.ledger.waiting.count 0 + s.ledger.count 0 .held + s.ledger.count 0 .settled = 1 ∧
      s.ledger.handed 0 = 2 ∧ s.ledger.count 0 .settled = 1 := by
  have hran : ∃ s : State (leasing none 1), Run (step listRuntime) (fun _ _ => True) {}
        [.publish {}, .deliver, .begin 0 idleWorker ⟨none, none, none⟩, .lose 0, .acknowledge 0 true, .deliver,
          .begin 1 idleWorker ⟨none, none, none⟩, .acknowledge 1 true] s ∧
      s.messages.length = 1 ∧ s.ledger.handed 0 = 2 ∧ s.ledger.count 0 .settled = 1 := by
    refine ⟨_, Run.of_exec (fun _ _ _ => trivial) rfl, ?_⟩
    decide
  obtain ⟨s, hrun, hlength, hhanded, hsettled⟩ := hran
  exact ⟨s, hrun, (consumed_once (leasing_lawful none 1) hrun).1 0 (by omega), hhanded, hsettled⟩

/-! ## What stays with the worker -/

/-- A lease on a message that cannot be opened. -/
structure Stuck (rt : Runtime) {broker : Broker} (s : State broker) (lease : Nat) : Prop where
  held : ∃ m, s.ledger.leases[lease]? = some ⟨m, .held⟩
  unopenable : ∃ message, s.messageOf lease = some message ∧ ¬ Openable rt message

section Stalls
variable {broker : Broker} {rt : Runtime} {prefetchCount : Nat} {s s' : State broker} {lease : Nat}

/-- What changes neither the message of a lease nor that it is held. -/
theorem Stuck.kept (h : Stuck rt s lease)
    (hlease : ∀ found, s.ledger.leases[lease]? = some found → s'.ledger.leases[lease]? = some found)
    (hmessages : ∀ (m : Nat) message, s.messages[m]? = some message → s'.messages[m]? = some message) :
    Stuck rt s' lease := by
  obtain ⟨⟨m, hheld⟩, message, hmessage, hclosed⟩ := h
  obtain ⟨found, hfound, hm⟩ := Option.bind_eq_some_iff.mp hmessage
  refine ⟨⟨m, hlease _ hheld⟩, message, ?_, hclosed⟩
  exact Option.bind_eq_some_iff.mpr ⟨found, hlease _ hfound, hmessages _ _ hm⟩

/-- The message of a stuck lease cannot be opened, so no task of its own comes to the acknowledgement. -/
theorem step_stuck {e : Event} (hbroker : broker.Lawful none) (hsound : Sound rt s) (hlost : e ≠ .lose lease)
    (hstep : step rt s e = some s') (h : Stuck rt s lease) : Stuck rt s' lease := by
  cases e with
  | publish message =>
    cases hstep
    obtain ⟨waiting, _, hledger⟩ := Queue.publish_ledger hbroker s message
    refine h.kept (fun found hl => ?_) (fun _ _ hm => slot_append_left hm)
    rw [hledger]
    exact hl
  | deliver =>
    obtain ⟨⟨first, rest, _, hledger⟩, hmessages, _⟩ := Queue.deliver_some hbroker hstep
    refine h.kept (fun found hl => ?_) (fun _ _ hm => hmessages ▸ hm)
    rw [hledger]
    exact slot_append_left hl
  | begin other worker ambient =>
    simp only [step] at hstep
    split at hstep
    · cases hstep
      exact h.kept (fun _ hl => hl) (fun _ _ hm => hm)
    · cases hstep
  | acknowledge other reached =>
    obtain ⟨processed, ht, hover⟩ := acknowledge_some hstep
    have hne : other ≠ lease := by
      rintro rfl
      obtain ⟨message, hmessage, htask⟩ := hsound.tasks other _ ht
      obtain ⟨closed, hsame, hclosed⟩ := h.unopenable
      cases hmessage.symm.trans hsame
      cases htask with
      | handling _ _ hopen => exact hclosed hopen
    rcases hover with rfl | hsettle
    · exact h.kept (fun _ hl => hl) (fun _ _ hm => hm)
    · obtain ⟨⟨m, _, hledger⟩, hmessages, _⟩ := Queue.settle_some hbroker hsettle
      refine h.kept (fun found hl => ?_) (fun _ _ hm => hmessages ▸ hm)
      rw [hledger]
      exact (List.getElem?_set_ne hne).trans hl
  | lose other =>
    have hne : other ≠ lease := by
      rintro rfl
      exact hlost rfl
    obtain ⟨⟨m, _, ⟨_, hledger⟩ | ⟨_, waiting, _, hledger⟩⟩, hmessages, _⟩ := Queue.takeBack_some hbroker hstep
    all_goals
      refine h.kept (fun found hl => ?_) (fun _ _ hm => hmessages ▸ hm)
      rw [hledger]
      exact (List.getElem?_set_ne hne).trans hl

/-- The broker hands nothing out while the worker holds as much as it may. -/
theorem step_full {e : Event} (hbroker : broker.Lawful none) (hfull : broker.handOut s.state = none)
    (hlost : ∀ other, e ≠ .lose other) (hstep : step rt s e = some s') :
    s'.ledger.leases.length = s.ledger.leases.length ∧ ∀ m ∈ s.ledger.waiting, m ∈ s'.ledger.waiting := by
  cases e with
  | publish message =>
    cases hstep
    obtain ⟨waiting, hperm, hledger⟩ := Queue.publish_ledger hbroker s message
    rw [hledger]
    exact ⟨rfl, fun m hm => hperm.mem_iff.mpr (List.mem_cons_of_mem _ hm)⟩
  | deliver => simp [step, Queue.deliver, hfull] at hstep
  | begin other worker ambient =>
    simp only [step] at hstep
    split at hstep
    · cases hstep
      exact ⟨rfl, fun _ hm => hm⟩
    · cases hstep
  | acknowledge other reached =>
    obtain ⟨processed, _, rfl | hsettle⟩ := acknowledge_some hstep
    · exact ⟨rfl, fun _ hm => hm⟩
    · obtain ⟨⟨m, _, hledger⟩, _⟩ := Queue.settle_some hbroker hsettle
      rw [hledger]
      exact ⟨List.length_set, fun _ hm => hm⟩
  | lose other => exact absurd rfl (hlost other)

theorem full_of_stuck {stuck : List Nat} (hprefetch : broker.Prefetches prefetchCount) (hpositive : 0 < prefetchCount)
    (hnodup : stuck.Nodup) (hmany : prefetchCount ≤ stuck.length) (hstuck : ∀ lease ∈ stuck, Stuck rt s lease) :
    broker.handOut s.state = none := by
  have hheld : stuck.length ≤ s.ledger.numberHeld :=
    Ledger.held_le_numberHeld hnodup (fun lease hm => (hstuck lease hm).held)
  exact hprefetch s.state hpositive (hmany.trans hheld)

/-- Deliveries of messages that cannot be opened stay held as long as no channel is lost, whatever else happens. Once
there are as many of them as the prefetch count, the queue stands still: the worker gets no further delivery, and all
that waits goes on waiting. -/
theorem unopenable_stalls {before after : List Event} {stuck : List Nat} (hbroker : broker.Lawful none)
    (hprefetch : broker.Prefetches prefetchCount)
    (hbefore : Run (step rt) (fun _ _ => True) ({} : State broker) before s)
    (hafter : Run (step rt) (fun _ e => ∀ other, e ≠ .lose other) s after s') (hnodup : stuck.Nodup)
    (hstuck : ∀ lease ∈ stuck, Stuck rt s lease) :
    (∀ lease ∈ stuck, Stuck rt s' lease) ∧
      (0 < prefetchCount → prefetchCount ≤ stuck.length →
        s'.ledger.leases.length = s.ledger.leases.length ∧ ∀ m ∈ s.ledger.waiting, m ∈ s'.ledger.waiting) := by
  have hsound : Sound rt s :=
    hbefore.invariant (sound_start hbroker) (fun hs _ hstep => step_sound hbroker hs hstep)
  have hkept := @Run.invariant (State broker) Event _ _ _ _ _
    (fun now => Sound rt now ∧ (∀ lease ∈ stuck, Stuck rt now lease) ∧
      (0 < prefetchCount → prefetchCount ≤ stuck.length →
        now.ledger.leases.length = s.ledger.leases.length ∧ ∀ m ∈ s.ledger.waiting, m ∈ now.ledger.waiting))
    hafter ⟨hsound, hstuck, fun _ _ => ⟨rfl, fun _ hm => hm⟩⟩ ?_
  · exact hkept.2
  · rintro now e next ⟨hnow, hall, hstill⟩ hlost hstep
    refine ⟨step_sound hbroker hnow hstep,
      fun lease hm => step_stuck hbroker hnow (hlost lease) hstep (hall lease hm), ?_⟩
    intro hpositive hmany
    obtain ⟨hleases, hwaits⟩ := hstill hpositive hmany
    have hfull := full_of_stuck hprefetch hpositive hnodup hmany hall
    obtain ⟨hsame, hmore⟩ := step_full hbroker hfull hlost hstep
    exact ⟨hsame.trans hleases, fun m hm => hmore m (hwaits m hm)⟩

end Stalls

/-- The baggage of the first message is an array. The second one waits behind it. -/
theorem unopenable_stalls_array :
    ∃ s s' : State (leasing none 1), Run (step listRuntime) (fun _ _ => True) {}
        [.publish { headers := [("Baggage", .bytes (some "[]"))] }, .publish {}, .deliver] s ∧
      Run (step listRuntime) (fun _ e => ∀ other, e ≠ .lose other) s
        [.begin 0 idleWorker ⟨none, none, none⟩, .publish {}] s' ∧
      Stuck listRuntime s' 0 ∧ s'.ledger.leases.length = 1 ∧ 1 ∈ s'.ledger.waiting := by
  have hran : ∃ s s' : State (leasing none 1), Run (step listRuntime) (fun _ _ => True) {}
        [.publish { headers := [("Baggage", .bytes (some "[]"))] }, .publish {}, .deliver] s ∧
      Run (step listRuntime) (fun _ e => ∀ other, e ≠ .lose other) s
        [.begin 0 idleWorker ⟨none, none, none⟩, .publish {}] s' ∧
      Stuck listRuntime s 0 ∧ s.ledger.leases.length = 1 ∧ s.ledger.waiting = [1] := by
    refine ⟨_, _, Run.of_exec (fun _ _ _ => trivial) rfl, Run.of_exec ?_ rfl, ⟨⟨0, rfl⟩, _, rfl, ?_⟩, rfl, rfl⟩
    · simp
    · intro hopen
      rcases hopen.baggage "[]" rfl with ⟨fields, hfields⟩ | herror
      · cases hfields
      · cases herror
  obtain ⟨s, s', hbefore, hafter, hstuck, hlength, hwaits⟩ := hran
  obtain ⟨hheld, hstands⟩ := unopenable_stalls (leasing_lawful none 1) (leasing_prefetches none 1) hbefore hafter
    (by simp) (fun lease hm => List.mem_singleton.mp hm ▸ hstuck)
  obtain ⟨hleases, hstill⟩ := hstands (Nat.lt_add_one 0) (Nat.le_refl _)
  exact ⟨s, s', hbefore, hafter, hheld 0 (List.mem_singleton_self 0), hleases.trans hlength,
    hstill 1 (by simp [hwaits])⟩

end BlocksGenesis.Message.RabbitQueue
