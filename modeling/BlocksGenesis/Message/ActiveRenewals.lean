import BlocksGenesis.Machine.Run
import BlocksGenesis.Machine.Slots
import BlocksGenesis.Python.Dict
import BlocksGenesis.Python.Value
import Mathlib.Data.List.Nodup

/-! Which messages of a Service Bus worker `stop` reaches: the map of their cancellation events. -/

namespace BlocksGenesis.Message
open Python

/-- A message that got as far as its entry in `_active_message_renewals`. Its event is known by its
place among them. `stopped` is not in the code: `stop` found the entry. -/
structure InFlight where
  receiver : Nat
  messageId : Option String
  cancellation : Bool
  running : Bool
  stopped : Bool

structure ActiveRenewals where
  messages : List InFlight := []
  activeMessageRenewals : Dict (Option String) Nat := []

/-- What happens between two awaits. A receiver hands over a message, and what comes before its entry
goes through or raises; a renewal of the lock fails; a handler gets to its `finally`; the worker stops. -/
inductive RenewalEvent where
  | receive (receiver : Nat) (messageId : Option String) (opened : Except Exc Unit)
  | renewalFailed (i : Nat)
  | finish (i : Nat)
  | stop

namespace ActiveRenewals

def setMessage (s : ActiveRenewals) (i : Nat) (message : InFlight) : ActiveRenewals :=
  { s with messages := s.messages.set i message }

/-- The handler starts: it makes its event and writes the entry. -/
def enter (s : ActiveRenewals) (receiver : Nat) (messageId : Option String) : ActiveRenewals where
  messages := s.messages ++ [⟨receiver, messageId, false, true, false⟩]
  activeMessageRenewals := s.activeMessageRenewals.set messageId s.messages.length

/-- The `finally` of `message_handler`: `event.set()`, then `pop(message_id, None)`. -/
def leave (s : ActiveRenewals) (i : Nat) (message : InFlight) : ActiveRenewals where
  messages := s.messages.set i { message with cancellation := true, running := false }
  activeMessageRenewals := s.activeMessageRenewals.pop message.messageId

/-- `stop`, up to its first await: every event of the map is set, and the map is cleared. -/
def stopAll (s : ActiveRenewals) : ActiveRenewals where
  messages := s.messages.mapIdx (fun i message =>
    if i ∈ s.activeMessageRenewals.map Prod.snd then { message with cancellation := true, stopped := true }
    else message)
  activeMessageRenewals := []

/-- A receiver hands over one message at a time. -/
def busy (s : ActiveRenewals) (receiver : Nat) : Bool :=
  s.messages.any (fun message => message.running && message.receiver == receiver)

def step (s : ActiveRenewals) : RenewalEvent → Option ActiveRenewals
  | .receive receiver messageId opened =>
    if s.busy receiver then none
    else match opened with
      | .error _ => some s
      | .ok _ => some (s.enter receiver messageId)
  | .renewalFailed i => (s.messages[i]?).map (fun message => s.setMessage i { message with cancellation := true })
  | .finish i => (s.messages[i]?).bind (fun message => if message.running then some (s.leave i message) else none)
  | .stop => some s.stopAll

/-! ## Every message in flight can be stopped -/

/-- In flight, and `stop` has not come across it. -/
def Waits (message : InFlight) : Prop := message.running = true ∧ message.stopped = false

/-- The map holds one event for each message in flight and nothing else. Those that `stop` has taken
out of it have been told. -/
structure Stoppable (s : ActiveRenewals) : Prop where
  held : ∀ (i : Nat) (message : InFlight), s.messages[i]? = some message → Waits message →
    (message.messageId, i) ∈ s.activeMessageRenewals
  nothingElse : ∀ entry ∈ s.activeMessageRenewals, ∃ message, s.messages[entry.2]? = some message ∧
    Waits message ∧ message.messageId = entry.1
  distinct : (s.activeMessageRenewals.map Prod.snd).Nodup
  told : ∀ (i : Nat) (message : InFlight), s.messages[i]? = some message → message.stopped = true →
    message.cancellation = true

/-- No message starts while one with the same id, or also with none, is in flight. -/
def Unrepeated (s : ActiveRenewals) : RenewalEvent → Prop
  | .receive _ messageId (.ok _) => ∀ message ∈ s.messages, message.running = true → message.messageId ≠ messageId
  | _ => True

/-- What every run under that condition keeps. -/
structure Sound (s : ActiveRenewals) : Prop where
  stoppable : Stoppable s
  keys : (s.activeMessageRenewals.map Prod.fst).Nodup
  apart : ∀ {i j : Nat} {message other : InFlight}, s.messages[i]? = some message → s.messages[j]? = some other →
    message.running = true → other.running = true → message.messageId = other.messageId → i = j

section Steps
variable {s next : ActiveRenewals} {i j receiver : Nat} {messageId : Option String} {message other : InFlight}

/-- Entries of messages that keep their ids are of distinct events, as the keys are distinct. -/
theorem distinct_of_keys (hkeys : (s.activeMessageRenewals.map Prod.fst).Nodup)
    (h : ∀ entry ∈ s.activeMessageRenewals, ∃ message, s.messages[entry.2]? = some message ∧
      Waits message ∧ message.messageId = entry.1) :
    (s.activeMessageRenewals.map Prod.snd).Nodup := by
  apply List.Nodup.map_on ?_ (List.Nodup.of_map _ hkeys)
  rintro ⟨key, i⟩ hm ⟨key', j⟩ hm' (rfl : i = j)
  obtain ⟨message, hmessage, _, rfl⟩ := h _ hm
  obtain ⟨message', hmessage', _, rfl⟩ := h _ hm'
  cases hmessage.symm.trans hmessage'
  rfl

theorem enter_sound (h : Sound s) (hid : ∀ message ∈ s.messages, message.running = true → message.messageId ≠ messageId) :
    Sound (s.enter receiver messageId) := by
  have hkeys := Dict.nodup_set h.keys messageId s.messages.length
  have hnothingElse : ∀ entry ∈ (s.enter receiver messageId).activeMessageRenewals,
      ∃ message, (s.enter receiver messageId).messages[entry.2]? = some message ∧
        Waits message ∧ message.messageId = entry.1 := by
    intro entry hm
    rcases Dict.mem_set hm with rfl | ⟨hold, _⟩
    · exact ⟨_, List.getElem?_concat_length, ⟨rfl, rfl⟩, rfl⟩
    · obtain ⟨message, hmessage, hwaits⟩ := h.stoppable.nothingElse entry hold
      exact ⟨message, Machine.slot_append_left hmessage, hwaits⟩
  refine ⟨⟨?_, hnothingElse, distinct_of_keys hkeys hnothingElse, ?_⟩, hkeys, ?_⟩
  · intro i message hi hwaits
    apply Dict.mem_set_iff.mpr
    rcases Machine.slot_of_append hi with ⟨rfl, rfl⟩ | ⟨_, hold⟩
    · exact .inl rfl
    · exact .inr ⟨h.stoppable.held i message hold hwaits, hid message (List.mem_of_getElem? hold) hwaits.1⟩
  · intro i message hi hstopped
    rcases Machine.slot_of_append hi with ⟨_, rfl⟩ | ⟨_, hold⟩
    · cases hstopped
    · exact h.stoppable.told i message hold hstopped
  · intro i j message other hi hj hmessage hother he
    rcases Machine.slot_of_append hi with ⟨rfl, rfl⟩ | ⟨_, hi⟩
    · rcases Machine.slot_of_append hj with ⟨rfl, _⟩ | ⟨_, hj⟩
      · rfl
      · exact absurd he.symm (hid other (List.mem_of_getElem? hj) hother)
    · rcases Machine.slot_of_append hj with ⟨_, rfl⟩ | ⟨_, hj⟩
      · exact absurd he (hid message (List.mem_of_getElem? hi) hmessage)
      · exact h.apart hi hj hmessage hother he

theorem renewalFailed_sound (h : Sound s) (hi : s.messages[i]? = some message) :
    Sound (s.setMessage i { message with cancellation := true }) := by
  -- Every message is as before but for its event.
  have hback : ∀ {j : Nat} {new : InFlight}, (s.messages.set i { message with cancellation := true })[j]? = some new →
      ∃ old, s.messages[j]? = some old ∧ old.messageId = new.messageId ∧ old.running = new.running ∧
        old.stopped = new.stopped ∧ (old.cancellation = true → new.cancellation = true) := by
    intro j new hj
    rcases Machine.slot_of_set hj with ⟨rfl, rfl⟩ | ⟨_, hj⟩
    · exact ⟨message, hi, rfl, rfl, rfl, fun _ => rfl⟩
    · exact ⟨new, hj, rfl, rfl, rfl, id⟩
  have hnothingElse : ∀ entry ∈ s.activeMessageRenewals, ∃ new,
      (s.messages.set i { message with cancellation := true })[entry.2]? = some new ∧
        Waits new ∧ new.messageId = entry.1 := by
    intro entry hm
    obtain ⟨old, hold, hwaits, hid⟩ := h.stoppable.nothingElse entry hm
    by_cases hj : entry.2 = i
    · rw [hj] at hold ⊢
      cases hold.symm.trans hi
      exact ⟨_, Machine.slot_set_self hi, hwaits, hid⟩
    · exact ⟨old, by rw [List.getElem?_set_ne (Ne.symm hj), hold], hwaits, hid⟩
  refine ⟨⟨?_, hnothingElse, h.stoppable.distinct, ?_⟩, h.keys, ?_⟩
  · intro j new hj hwaits
    obtain ⟨old, hold, hid, hrunning, hstopped, _⟩ := hback hj
    rw [← hid]
    exact h.stoppable.held j old hold ⟨hrunning ▸ hwaits.1, hstopped ▸ hwaits.2⟩
  · intro j new hj hstopped
    obtain ⟨old, hold, _, _, hs, hcancellation⟩ := hback hj
    exact hcancellation (h.stoppable.told j old hold (hs.trans hstopped))
  · intro j k new new' hj hk hnew hnew' he
    obtain ⟨old, hold, hid, hrunning, _⟩ := hback hj
    obtain ⟨old', hold', hid', hrunning', _⟩ := hback hk
    exact h.apart hold hold' (hrunning.trans hnew) (hrunning'.trans hnew') (hid.trans (he.trans hid'.symm))

theorem finish_sound (h : Sound s) (hi : s.messages[i]? = some message) (hrunning : message.running = true) :
    Sound (s.leave i message) := by
  have hothers : ∀ {j : Nat} {new : InFlight}, (s.leave i message).messages[j]? = some new → new.running = true →
      j ≠ i ∧ s.messages[j]? = some new := by
    intro j new hj hnew
    rcases Machine.slot_of_set hj with ⟨_, rfl⟩ | hj
    · cases hnew
    · exact hj
  have hkeys := Dict.nodup_pop h.keys message.messageId
  have hnothingElse : ∀ entry ∈ (s.leave i message).activeMessageRenewals,
      ∃ new, (s.leave i message).messages[entry.2]? = some new ∧ Waits new ∧ new.messageId = entry.1 := by
    intro entry hm
    obtain ⟨hold, hne⟩ := Dict.mem_pop.mp hm
    obtain ⟨other, hother, hwaits, hid⟩ := h.stoppable.nothingElse entry hold
    have hj : i ≠ entry.2 := by
      rintro rfl
      cases hi.symm.trans hother
      exact hne hid.symm
    exact ⟨other, (List.getElem?_set_ne hj).trans hother, hwaits, hid⟩
  refine ⟨⟨?_, hnothingElse, distinct_of_keys hkeys hnothingElse, ?_⟩, hkeys, ?_⟩
  · intro j new hj hwaits
    obtain ⟨hne, hold⟩ := hothers hj hwaits.1
    have hid : new.messageId ≠ message.messageId := fun he => hne (h.apart hold hi hwaits.1 hrunning he)
    exact Dict.mem_pop.mpr ⟨h.stoppable.held j new hold hwaits, hid⟩
  · intro j new hj hstopped
    rcases Machine.slot_of_set hj with ⟨_, rfl⟩ | ⟨_, hold⟩
    · rfl
    · exact h.stoppable.told j new hold hstopped
  · intro j k new new' hj hk hnew hnew' he
    exact h.apart (hothers hj hnew).2 (hothers hk hnew').2 hnew hnew' he

/-- What `stop` makes of a message. -/
theorem stopAll_slot (h : Stoppable s) {new : InFlight} (hi : s.stopAll.messages[i]? = some new) :
    ∃ old, s.messages[i]? = some old ∧ old.messageId = new.messageId ∧ old.running = new.running ∧
      (new.running = true → new.stopped = true) ∧ (new.stopped = true → new.cancellation = true) := by
  rw [stopAll, List.getElem?_mapIdx] at hi
  obtain ⟨old, hold, rfl⟩ := Option.map_eq_some_iff.mp hi
  refine ⟨old, hold, ?_⟩
  by_cases hm : i ∈ s.activeMessageRenewals.map Prod.snd
  · rw [if_pos hm]
    exact ⟨rfl, rfl, fun _ => rfl, fun _ => rfl⟩
  · rw [if_neg hm]
    refine ⟨rfl, rfl, ?_, h.told i old hold⟩
    intro hrunning
    cases hstopped : old.stopped with
    | true => rfl
    | false => exact absurd (List.mem_map_of_mem (h.held i old hold ⟨hrunning, hstopped⟩)) hm

theorem stop_sound (h : Sound s) : Sound s.stopAll := by
  refine ⟨⟨?_, List.forall_mem_nil _, List.nodup_nil, ?_⟩, List.nodup_nil, ?_⟩
  · intro i new hi hwaits
    obtain ⟨_, _, _, _, hstopped, _⟩ := stopAll_slot h.stoppable hi
    cases (hstopped hwaits.1).symm.trans hwaits.2
  · intro i new hi
    obtain ⟨_, _, _, _, _, htold⟩ := stopAll_slot h.stoppable hi
    exact htold
  · intro i j new new' hi hj hnew hnew' he
    obtain ⟨old, hold, hid, hrunning, _⟩ := stopAll_slot h.stoppable hi
    obtain ⟨old', hold', hid', hrunning', _⟩ := stopAll_slot h.stoppable hj
    exact h.apart hold hold' (hrunning.trans hnew) (hrunning'.trans hnew') (hid.trans (he.trans hid'.symm))

theorem step_sound {e : RenewalEvent} (h : Sound s) (hallowed : Unrepeated s e) (hstep : s.step e = some next) :
    Sound next := by
  cases e with
  | receive receiver messageId opened =>
    change (if s.busy receiver then none else _) = some next at hstep
    split at hstep
    · cases hstep
    · cases opened with
      | error e =>
        cases hstep
        exact h
      | ok _ =>
        cases hstep
        exact enter_sound h hallowed
  | renewalFailed i =>
    obtain ⟨message, hi, rfl⟩ := Option.map_eq_some_iff.mp hstep
    exact renewalFailed_sound h hi
  | finish i =>
    obtain ⟨message, hi, hleave⟩ := Option.bind_eq_some_iff.mp hstep
    split at hleave
    · rename_i hrunning
      cases hleave
      exact finish_sound h hi hrunning
    · cases hleave
  | stop =>
    cases hstep
    exact stop_sound h

end Steps

theorem sound_start : Sound {} := by
  refine ⟨⟨?_, List.forall_mem_nil _, List.nodup_nil, ?_⟩, List.nodup_nil, ?_⟩
  · intro i message h
    cases h
  · intro i message h
    cases h
  · intro i j message other h
    cases h

/-- `stop` sets the event of every message in flight, and no handler takes another's entry along. -/
structure StopReaches (s : ActiveRenewals) : Prop where
  map : Stoppable s
  stops : ∀ next, s.step .stop = some next → ∀ message ∈ next.messages, message.running = true →
    message.cancellation = true
  keeps : ∀ i next, s.step (.finish i) = some next → ∀ entry ∈ s.activeMessageRenewals, entry.2 ≠ i →
    entry ∈ next.activeMessageRenewals

theorem Sound.stopReaches {s : ActiveRenewals} (h : Sound s) : StopReaches s := by
  refine ⟨h.stoppable, ?_, ?_⟩
  · intro next hstop message hm hrunning
    cases hstop
    obtain ⟨i, hi⟩ := List.getElem?_of_mem hm
    obtain ⟨_, _, _, _, hstopped, htold⟩ := stopAll_slot h.stoppable hi
    exact htold (hstopped hrunning)
  · intro i next hfinish entry hm hne
    obtain ⟨message, hi, hleave⟩ := Option.bind_eq_some_iff.mp hfinish
    split at hleave
    · rename_i hrunning
      cases hleave
      obtain ⟨other, hother, hwaits, hid⟩ := h.stoppable.nothingElse entry hm
      refine Dict.mem_pop.mpr ⟨hm, ?_⟩
      rw [← hid]
      exact fun he => hne (h.apart hother hi hwaits.1 hrunning he)
    · cases hleave

/-- A message that starts beside one of its id costs that one its entry, or has its own taken by it. -/
theorem repeated_breaks {s next : ActiveRenewals} {e : RenewalEvent} (hstep : s.step e = some next)
    (hrepeated : ¬ Unrepeated s e) :
    ¬ Stoppable next ∨ ∃ i after, next.step (.finish i) = some after ∧ ¬ Stoppable after := by
  cases e with
  | renewalFailed i => exact absurd trivial hrepeated
  | finish i => exact absurd trivial hrepeated
  | stop => exact absurd trivial hrepeated
  | receive receiver messageId opened =>
    cases opened with
    | error e => exact absurd trivial hrepeated
    | ok _ =>
      change (if s.busy receiver then none else some (s.enter receiver messageId)) = some next at hstep
      split at hstep
      · cases hstep
      cases hstep
      simp only [Unrepeated, not_forall, not_not] at hrepeated
      obtain ⟨message, hm, hrunning, hid⟩ := hrepeated
      obtain ⟨i, hi⟩ := List.getElem?_of_mem hm
      obtain ⟨hlt, _⟩ := List.getElem?_eq_some_iff.mp hi
      have hthere : (s.enter receiver messageId).messages[i]? = some message := Machine.slot_append_left hi
      cases hstopped : message.stopped with
      | false =>
        refine .inl fun h => ?_
        rcases Dict.mem_set (h.held i message hthere ⟨hrunning, hstopped⟩) with he | ⟨_, hne⟩
        · exact absurd (Prod.mk.inj he).2 (Nat.ne_of_lt hlt)
        · exact hne hid
      | true =>
        refine .inr ⟨i, (s.enter receiver messageId).leave i message, ?_, fun h => ?_⟩
        · change Option.bind _ _ = _
          rw [hthere]
          exact if_pos hrunning
        · have hnew : ((s.enter receiver messageId).leave i message).messages[s.messages.length]? =
              some ⟨receiver, messageId, false, true, false⟩ :=
            (List.getElem?_set_ne (Nat.ne_of_lt hlt)).trans List.getElem?_concat_length
          exact (Dict.mem_pop.mp (h.held _ _ hnew ⟨rfl, rfl⟩)).2 hid.symm

/-- While no message starts beside one of its id, `stop` reaches every message in flight; one that does
start so ends that, at once or when a handler finishes. -/
theorem stop_reaches_while_ids_differ {events : List RenewalEvent} {s : ActiveRenewals}
    (h : Machine.Run step Unrepeated {} events s) :
    StopReaches s ∧ ∀ e next, s.step e = some next → ¬ Unrepeated s e →
      ¬ Stoppable next ∨ ∃ i after, next.step (.finish i) = some after ∧ ¬ Stoppable after := by
  refine ⟨?_, fun e next => repeated_breaks⟩
  exact (h.invariant sound_start (fun hs hallowed hstep => step_sound hs hallowed hstep)).stopReaches

def twoIds : List RenewalEvent :=
  [.receive 0 (some "a") (.ok ()), .receive 1 none (.ok ()), .finish 0]

theorem stop_reaches_the_second_message :
    ∃ s, Machine.Run step Unrepeated {} twoIds s ∧ StopReaches s ∧ s.activeMessageRenewals = [(none, 1)] := by
  have hrun : Machine.Run step Unrepeated {} twoIds
      ⟨[⟨0, some "a", true, false, false⟩, ⟨1, none, false, true, false⟩], [(none, 1)]⟩ := by
    refine .cons ?_ rfl (.cons ?_ rfl (.cons trivial rfl .nil))
    · intro message hm
      cases hm
    · intro message hm _
      cases List.mem_singleton.mp hm
      nofun
  exact ⟨_, hrun, (stop_reaches_while_ids_differ hrun).1, rfl⟩

/-- Two receivers, and two messages without an id. The map holds the event of the second one only:
`stop` leaves the first one running, and the first to finish takes the entry of the second. -/
theorem messages_without_id_share_an_entry :
    ∃ s, Machine.Run step (fun _ _ => True) {} [.receive 0 none (.ok ()), .receive 1 none (.ok ())] s ∧
      ¬ Stoppable s ∧ s.activeMessageRenewals = [(none, 1)] ∧
      (s.step .stop).map ActiveRenewals.messages =
        some [⟨0, none, false, true, false⟩, ⟨1, none, true, true, true⟩] ∧
      (s.step (.finish 0)).map ActiveRenewals.activeMessageRenewals = some [] := by
  refine ⟨⟨[⟨0, none, false, true, false⟩, ⟨1, none, false, true, false⟩], [(none, 1)]⟩, ?_, ?_, rfl, rfl, rfl⟩
  · exact .cons trivial rfl (.cons trivial rfl .nil)
  · intro h
    have hheld := h.held 0 _ rfl ⟨rfl, rfl⟩
    cases List.mem_singleton.mp hheld

end ActiveRenewals

end BlocksGenesis.Message
