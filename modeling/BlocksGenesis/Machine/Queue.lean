import BlocksGenesis.Machine.Broker

/-! The messages of a queue and the tasks that work on their leases. -/

namespace Machine

/-- Messages stand in the order of their numbers, and a task in the place of its lease. -/
structure Queue (broker : Broker) (Message Task : Type) where
  state : broker.State := broker.start
  messages : List Message := []
  tasks : List Task := []

namespace Queue
variable {broker : Broker} {Message Task : Type}

def ledger (q : Queue broker Message Task) : Ledger := broker.ledger q.state

def messageOf (q : Queue broker Message Task) (lease : Nat) : Option Message :=
  (q.ledger.leases[lease]?).bind (fun found => q.messages[found.message]?)

def publish (q : Queue broker Message Task) (message : Message) : Queue broker Message Task :=
  { q with state := broker.publish q.state, messages := q.messages ++ [message] }

/-- A lease comes with its task. -/
def deliver (q : Queue broker Message Task) (task : Task) : Option (Queue broker Message Task) :=
  (broker.handOut q.state).map (fun state => { q with state, tasks := q.tasks ++ [task] })

def become (q : Queue broker Message Task) (lease : Nat) (task : Task) : Queue broker Message Task :=
  { q with tasks := q.tasks.set lease task }

def settle (q : Queue broker Message Task) (lease : Nat) : Option (Queue broker Message Task) :=
  (broker.settle q.state lease).map (fun state => { q with state })

def takeBack (q : Queue broker Message Task) (lease : Nat) : Option (Queue broker Message Task) :=
  (broker.takeBack q.state lease).map (fun state => { q with state })

def expire (q : Queue broker Message Task) (place : Nat) : Option (Queue broker Message Task) :=
  (broker.expire q.state place).map (fun state => { q with state })

/-- Each task may be one of its message's, and a lease is settled only where its task settles the message. -/
structure Sound (limit : Option Nat) (TaskFor Settles : Message → Task → Prop) (q : Queue broker Message Task) :
    Prop where
  accounted : q.ledger.Accounted limit
  messages : q.messages.length = q.ledger.published
  numbers : q.tasks.length = q.ledger.leases.length
  tasks : ∀ (lease : Nat) task, q.tasks[lease]? = some task →
    ∃ message, q.messageOf lease = some message ∧ TaskFor message task
  settled : ∀ (lease m : Nat), q.ledger.leases[lease]? = some ⟨m, .settled⟩ →
    ∃ message task, q.messages[m]? = some message ∧ q.tasks[lease]? = some task ∧ Settles message task

section Operations
variable {limit : Option Nat} {TaskFor Settles : Message → Task → Prop} {q q' : Queue broker Message Task}
  {lease place : Nat} {message : Message} {old task : Task}

/-- A request that reached the broker has done what it asks for, or nothing. -/
theorem reached_some {reached : Bool} {asked : Option (Queue broker Message Task)}
    (h : some (if reached then asked.getD q else q) = some q') : asked = some q' ∨ q' = q := by
  cases reached with
  | false =>
    cases h
    exact .inr rfl
  | true =>
    cases asked with
    | none =>
      cases h
      exact .inr rfl
    | some next =>
      cases h
      exact .inl rfl

theorem publish_ledger (hbroker : broker.Lawful limit) (q : Queue broker Message Task) (message : Message) :
    q.ledger.Published (q.publish message).ledger := hbroker.publish q.state

theorem deliver_some (hbroker : broker.Lawful limit) (hq : q.deliver task = some q') :
    q.ledger.HandedOut q'.ledger ∧ q'.messages = q.messages ∧ q'.tasks = q.tasks ++ [task] := by
  obtain ⟨state, hout, rfl⟩ := Option.map_eq_some_iff.mp hq
  exact ⟨hbroker.handOut _ _ hout, rfl, rfl⟩

theorem settle_some (hbroker : broker.Lawful limit) (hq : q.settle lease = some q') :
    q.ledger.Settled lease q'.ledger ∧ q'.messages = q.messages ∧ q'.tasks = q.tasks := by
  obtain ⟨state, hsettle, rfl⟩ := Option.map_eq_some_iff.mp hq
  exact ⟨hbroker.settle _ _ _ hsettle, rfl, rfl⟩

theorem takeBack_some (hbroker : broker.Lawful limit) (hq : q.takeBack lease = some q') :
    q.ledger.TakenBack limit lease q'.ledger ∧ q'.messages = q.messages ∧ q'.tasks = q.tasks := by
  obtain ⟨state, hback, rfl⟩ := Option.map_eq_some_iff.mp hq
  exact ⟨hbroker.takeBack _ _ _ hback, rfl, rfl⟩

theorem expire_some (hbroker : broker.Lawful limit) (hq : q.expire place = some q') :
    q.ledger.Expired q'.ledger ∧ q'.messages = q.messages ∧ q'.tasks = q.tasks := by
  obtain ⟨state, hexpire, rfl⟩ := Option.map_eq_some_iff.mp hq
  exact ⟨hbroker.expire _ _ _ hexpire, rfl, rfl⟩

theorem sound_start (hbroker : broker.Lawful limit) (hlimit : ∀ n, limit = some n → 0 < n) :
    Sound limit TaskFor Settles ({} : Queue broker Message Task) := by
  have hledger : ({} : Queue broker Message Task).ledger = {} := hbroker.start
  refine ⟨?_, ?_, ?_, fun _ _ h => (nomatch h), fun lease m h => ?_⟩
  · rw [hledger]
    exact Ledger.accounted_start hlimit
  · rw [hledger]
    rfl
  · rw [hledger]
    rfl
  · rw [hledger] at h
    cases h

theorem messageOf_set {m : Nat} {before after : Fate} (hl : q.ledger.leases[lease]? = some ⟨m, before⟩) (other : Nat) :
    (q.ledger.leases.set lease ⟨m, after⟩)[other]?.bind (fun found => q.messages[found.message]?) =
      q.messageOf other := by
  unfold messageOf
  by_cases he : lease = other
  · subst he
    rw [slot_set_self hl, hl]
    rfl
  · rw [List.getElem?_set_ne he]

theorem sound_publish (hbroker : broker.Lawful limit) (h : Sound limit TaskFor Settles q) (message : Message) :
    Sound limit TaskFor Settles (q.publish message) := by
  have hpublished := publish_ledger hbroker q message
  have haccounted := Ledger.accounted_published h.accounted hpublished
  obtain ⟨waiting, _, hledger⟩ := hpublished
  refine ⟨haccounted, ?_, ?_, ?_, ?_⟩
  · rw [hledger]
    simp [publish, h.messages]
  · rw [hledger]
    exact h.numbers
  · intro lease task ht
    obtain ⟨found, hfound, htask⟩ := h.tasks lease task ht
    obtain ⟨l, hl, hm⟩ := Option.bind_eq_some_iff.mp hfound
    refine ⟨found, Option.bind_eq_some_iff.mpr ⟨l, ?_, slot_append_left hm⟩, htask⟩
    rw [hledger]
    exact hl
  · intro lease m hl
    rw [hledger] at hl
    obtain ⟨found, task, hm, hrest⟩ := h.settled lease m hl
    exact ⟨found, task, slot_append_left hm, hrest⟩

theorem sound_deliver (hbroker : broker.Lawful limit) (h : Sound limit TaskFor Settles q)
    (htask : ∀ message, TaskFor message task) (hq : q.deliver task = some q') : Sound limit TaskFor Settles q' := by
  obtain ⟨hout, hmessages, htasks⟩ := deliver_some hbroker hq
  have haccounted := Ledger.accounted_handedOut h.accounted hout
  obtain ⟨first, rest, hperm, hledger⟩ := hout
  have hpublished : first < q.messages.length := by
    rw [h.messages]
    apply Nat.lt_of_not_le
    intro hle
    have hnowhere := (h.accounted.unknown first hle).1
    rw [Ledger.places, hperm.count_eq, List.count_cons_self] at hnowhere
    omega
  refine ⟨haccounted, ?_, ?_, ?_, ?_⟩
  · rw [hledger, hmessages]
    exact h.messages
  · rw [hledger, htasks]
    simp [h.numbers]
  · intro lease found ht
    rw [htasks] at ht
    unfold messageOf
    rw [hledger, hmessages]
    rcases slot_of_append ht with ⟨rfl, rfl⟩ | ⟨_, hold⟩
    · refine ⟨q.messages[first], Option.bind_eq_some_iff.mpr ⟨⟨first, .held⟩, ?_, ?_⟩, htask _⟩
      · rw [h.numbers]
        exact List.getElem?_concat_length
      · exact List.getElem?_eq_getElem hpublished
    · obtain ⟨message, hmessage, hfor⟩ := h.tasks lease found hold
      obtain ⟨l, hl, hm⟩ := Option.bind_eq_some_iff.mp hmessage
      exact ⟨message, Option.bind_eq_some_iff.mpr ⟨l, slot_append_left hl, hm⟩, hfor⟩
  · intro lease m hl
    rw [hledger] at hl
    rw [hmessages, htasks]
    rcases slot_of_append hl with ⟨_, hnew⟩ | ⟨_, hold⟩
    · cases hnew
    · obtain ⟨message, found, hm, ht, hsettles⟩ := h.settled lease m hold
      exact ⟨message, found, hm, slot_append_left ht, hsettles⟩

/-- A task that goes on, and still settles what it has settled. -/
theorem sound_become (h : Sound limit TaskFor Settles q) (ht : q.tasks[lease]? = some old)
    (hmessage : q.messageOf lease = some message) (htask : TaskFor message task)
    (hsettles : ∀ message, Settles message old → Settles message task) :
    Sound limit TaskFor Settles (q.become lease task) := by
  refine ⟨h.accounted, h.messages, ?_, ?_, ?_⟩
  · exact List.length_set.trans h.numbers
  · intro other found hfound
    rcases slot_of_set hfound with ⟨rfl, rfl⟩ | ⟨_, hold⟩
    · exact ⟨message, hmessage, htask⟩
    · exact h.tasks other found hold
  · intro other m hl
    obtain ⟨settled, found, hm, hfound, hsettled⟩ := h.settled other m hl
    by_cases he : lease = other
    · subst he
      cases ht.symm.trans hfound
      exact ⟨settled, task, hm, slot_set_self ht, hsettles settled hsettled⟩
    · exact ⟨settled, found, hm, (List.getElem?_set_ne he).trans hfound, hsettled⟩

theorem sound_settle (hbroker : broker.Lawful limit) (h : Sound limit TaskFor Settles q)
    (ht : q.tasks[lease]? = some task) (hmessage : q.messageOf lease = some message) (hsettles : Settles message task)
    (hq : q.settle lease = some q') : Sound limit TaskFor Settles q' := by
  obtain ⟨hsettled, hmessages, htasks⟩ := settle_some hbroker hq
  have haccounted := Ledger.accounted_settled h.accounted hsettled
  obtain ⟨m, hl, hledger⟩ := hsettled
  have hm : q.messages[m]? = some message := by
    rw [messageOf, hl] at hmessage
    exact hmessage
  refine ⟨haccounted, ?_, ?_, ?_, ?_⟩
  · rw [hledger, hmessages]
    exact h.messages
  · rw [hledger, htasks]
    simp [h.numbers]
  · intro other found hother
    rw [htasks] at hother
    obtain ⟨held, hheld, hfor⟩ := h.tasks other found hother
    refine ⟨held, ?_, hfor⟩
    rw [messageOf, hledger, hmessages]
    exact (messageOf_set hl other).trans hheld
  · intro other found hfound
    rw [hledger] at hfound
    rw [hmessages, htasks]
    rcases slot_of_set hfound with ⟨rfl, hnew⟩ | ⟨_, hold⟩
    · cases hnew
      exact ⟨message, task, hm, ht, hsettles⟩
    · exact h.settled other found hold

theorem sound_takeBack (hbroker : broker.Lawful limit) (h : Sound limit TaskFor Settles q)
    (hq : q.takeBack lease = some q') : Sound limit TaskFor Settles q' := by
  obtain ⟨hback, hmessages, htasks⟩ := takeBack_some hbroker hq
  have haccounted := Ledger.accounted_takenBack h.accounted hback
  obtain ⟨m, hl, hcases⟩ := hback
  have hleases : q'.ledger.leases = q.ledger.leases.set lease ⟨m, .returned⟩ := by
    rcases hcases with ⟨_, hledger⟩ | ⟨_, _, _, hledger⟩
    · rw [hledger]
    · rw [hledger]
  have hpublished : q'.ledger.published = q.ledger.published := by
    rcases hcases with ⟨_, hledger⟩ | ⟨_, _, _, hledger⟩
    · rw [hledger]
    · rw [hledger]
  refine ⟨haccounted, ?_, ?_, ?_, ?_⟩
  · rw [hpublished, hmessages]
    exact h.messages
  · rw [hleases, htasks, List.length_set]
    exact h.numbers
  · intro other task ht
    rw [htasks] at ht
    obtain ⟨held, hheld, hfor⟩ := h.tasks other task ht
    refine ⟨held, ?_, hfor⟩
    rw [messageOf, hleases, hmessages]
    exact (messageOf_set hl other).trans hheld
  · intro other found hfound
    rw [hleases] at hfound
    rw [hmessages, htasks]
    rcases slot_of_set hfound with ⟨_, hnew⟩ | ⟨_, hold⟩
    · cases hnew
    · exact h.settled other found hold

theorem sound_expire (hbroker : broker.Lawful limit) (h : Sound limit TaskFor Settles q)
    (hq : q.expire place = some q') : Sound limit TaskFor Settles q' := by
  obtain ⟨hexpired, hmessages, htasks⟩ := expire_some hbroker hq
  have haccounted := Ledger.accounted_expired h.accounted hexpired
  obtain ⟨m, rest, _, hledger⟩ := hexpired
  refine ⟨haccounted, ?_, ?_, ?_, ?_⟩
  · rw [hledger, hmessages]
    exact h.messages
  · rw [hledger, htasks]
    exact h.numbers
  · intro other task ht
    rw [htasks] at ht
    rw [messageOf, hledger, hmessages]
    exact h.tasks other task ht
  · intro other found hfound
    rw [hledger] at hfound
    rw [hmessages, htasks]
    exact h.settled other found hfound

end Operations

end Queue

end Machine
