import BlocksGenesis.Machine.Run
import BlocksGenesis.Machine.Slots
import BlocksGenesis.Message.Delivery
import BlocksGenesis.Python.Dict

/-! The subscriptions of a Redis client: two maps and the listeners, as its calls leave them. -/

namespace BlocksGenesis.Cache
open Python BlocksGenesis.Message

variable {Handler : Type}

/-- A task of `_handle_subscription`: one that has not ended is live, and may call its handler. -/
structure Listener (Handler : Type) where
  channel : String
  handler : Handler
  ended : Option Ending := none

/-- The client. The tasks it has made are told by number; the channels whose handler was called are
only written down. -/
structure RedisClient (Handler : Type) where
  subscriptions : Dict String Handler := []
  pubsubTasks : Dict String Nat := []
  disposed : Bool := false
  listeners : List (Listener Handler) := []
  called : List String := []

namespace RedisClient

/-- `client` is what `_get_async_client` does, `pubsub` how making the pubsub and its `subscribe` end. An
exception takes the entry away again. -/
def subscribeAsync (s : RedisClient Handler) (channel : String) (handler : Option Handler)
    (client : Except Exc Unit) (pubsub : Ending) : RedisClient Handler × Ending :=
  if channel = "" then (s, .raised (.valueError "Channel cannot be empty"))
  else match handler, client with
    | none, _ => (s, .raised (.valueError "Handler cannot be None"))
    | some _, .error e => (s, .raised e)
    | some handler, .ok _ =>
      let stored := { s with subscriptions := s.subscriptions.set channel handler }
      match pubsub with
      | .returned =>
        ({ stored with
            pubsubTasks := s.pubsubTasks.set channel s.listeners.length
            listeners := s.listeners ++ [{ channel, handler }] }, .returned)
      | .raised e => ({ stored with subscriptions := stored.subscriptions.pop channel }, .raised e)
      | .interrupted => (stored, .interrupted)

/-- `task.cancel()` and `await task`. A task that has ended is not cancelled any more. -/
def cancelListener (listeners : List (Listener Handler)) (i : Nat) (cancelled : Ending) :
    List (Listener Handler) × Ending :=
  match listeners[i]? with
  | none => (listeners, .returned)
  | some listener =>
    match listener.ended with
    | some ending => (listeners, ending)
    | none => (listeners.set i { listener with ended := some cancelled }, cancelled)

/-- `cancelled` is how the task ends when it is cancelled; a `CancelledError` of it is passed over. -/
def unsubscribeAsync (s : RedisClient Handler) (channel : String) (cancelled : Ending) :
    RedisClient Handler × Ending :=
  if channel = "" then (s, .raised (.valueError "Channel cannot be empty"))
  else match s.pubsubTasks.lookup channel with
    | none => ({ s with subscriptions := s.subscriptions.pop channel }, .returned)
    | some i =>
      let (listeners, ending) := cancelListener s.listeners i cancelled
      let popped := { s with pubsubTasks := s.pubsubTasks.pop channel, listeners }
      match ending with
      | .raised e => (popped, .raised e)
      | .returned | .interrupted => ({ popped with subscriptions := s.subscriptions.pop channel }, .returned)

/-- `closed` is what closing the sync client does. -/
def dispose (s : RedisClient Handler) (closed : Except Exc Unit) : RedisClient Handler × Ending :=
  if s.disposed then (s, .returned)
  else match closed with
    | .error e => ({ s with subscriptions := [] }, .raised e)
    | .ok _ => ({ s with subscriptions := [], disposed := true }, .returned)

/-- The loop of `dispose_async` over the tasks. One that raises ends it. -/
def cancelAll (cancelled : Nat → Ending) :
    Dict String Nat → List (Listener Handler) → List (Listener Handler) × Option Exc
  | [], listeners => (listeners, none)
  | (_, i) :: rest, listeners =>
    match cancelListener listeners i (cancelled i) with
    | (listeners, .raised e) => (listeners, some e)
    | (listeners, .returned) | (listeners, .interrupted) => cancelAll cancelled rest listeners

/-- `closed` is what closing the two clients does. -/
def disposeAsync (s : RedisClient Handler) (cancelled : Nat → Ending) (closed : Except Exc Unit) :
    RedisClient Handler × Ending :=
  if s.disposed then (s, .returned)
  else match cancelAll cancelled s.pubsubTasks s.listeners with
    | (listeners, some e) => ({ s with listeners }, .raised e)
    | (listeners, none) =>
      let cleared := { s with pubsubTasks := [], subscriptions := [], listeners }
      match closed with
      | .error e => (cleared, .raised e)
      | .ok _ => ({ cleared with disposed := true }, .returned)

end RedisClient

/-- A call and how what it awaits ends; or a listener, which calls its handler or ends by itself. -/
inductive ClientEvent (Handler : Type) where
  | subscribe (channel : String) (handler : Option Handler) (client : Except Exc Unit) (pubsub : Ending)
  | unsubscribe (channel : String) (cancelled : Ending)
  | dispose (closed : Except Exc Unit)
  | disposeAsync (cancelled : Nat → Ending) (closed : Except Exc Unit)
  | call (i : Nat)
  | ends (i : Nat) (ending : Ending)

namespace RedisClient

/-- The live listener with a number. -/
def liveAt (listeners : List (Listener Handler)) (i : Nat) : Option (Listener Handler) :=
  (listeners[i]?).filter (fun listener => listener.ended.isNone)

def live (s : RedisClient Handler) (i : Nat) : Option (Listener Handler) := liveAt s.listeners i

def step (s : RedisClient Handler) : ClientEvent Handler → Option (RedisClient Handler)
  | .subscribe channel handler client pubsub => some (s.subscribeAsync channel handler client pubsub).1
  | .unsubscribe channel cancelled => some (s.unsubscribeAsync channel cancelled).1
  | .dispose closed => some (s.dispose closed).1
  | .disposeAsync cancelled closed => some (s.disposeAsync cancelled closed).1
  | .call i => (s.live i).map (fun listener => { s with called := s.called ++ [listener.channel] })
  | .ends i ending => (s.live i).map (fun listener =>
      { s with listeners := s.listeners.set i { listener with ended := some ending } })

/-! ## What the calls promise -/

/-- No handler of the channel can be called. -/
def Silent (s : RedisClient Handler) (channel : String) : Prop :=
  ∀ (i : Nat) (listener : Listener Handler), s.live i = some listener → listener.channel ≠ channel

/-- A channel has at most one live listener, the recorded one, and both maps have the same keys. -/
structure InStep (s : RedisClient Handler) : Prop where
  recorded : ∀ (i : Nat) (listener : Listener Handler), s.live i = some listener →
    s.pubsubTasks.lookup listener.channel = some i
  keys : ∀ channel, (s.pubsubTasks.lookup channel).isSome = (s.subscriptions.lookup channel).isSome

/-- What the client has of a channel. -/
def subscription (s : RedisClient Handler) (channel : String) : Option Handler × Option Nat :=
  (s.subscriptions.lookup channel, s.pubsubTasks.lookup channel)

/-- A subscribe that does not return leaves the subscription and the listeners as they were. What
returns from the others leaves the channel, or every channel, silent. -/
def Promised (s : RedisClient Handler) : ClientEvent Handler → Prop
  | .subscribe channel handler client pubsub =>
    (s.subscribeAsync channel handler client pubsub).2 ≠ .returned →
      (s.subscribeAsync channel handler client pubsub).1.subscription channel = s.subscription channel ∧
        (s.subscribeAsync channel handler client pubsub).1.listeners = s.listeners
  | .unsubscribe channel cancelled =>
    (s.unsubscribeAsync channel cancelled).2 = .returned → (s.unsubscribeAsync channel cancelled).1.Silent channel
  | .dispose closed => (s.dispose closed).2 = .returned → ∀ channel, (s.dispose closed).1.Silent channel
  | .disposeAsync cancelled closed =>
    (s.disposeAsync cancelled closed).2 = .returned → ∀ channel, (s.disposeAsync cancelled closed).1.Silent channel
  | .call _ | .ends _ _ => True

/-- A handler is stored for a channel without a live listener; if the pubsub then fails, for one
without a subscription, and if it is interrupted, where that very handler is there already. -/
def Storable (s : RedisClient Handler) (channel : String) (handler : Handler) : Ending → Prop
  | .returned => s.Silent channel
  | .raised _ => s.subscriptions.lookup channel = none
  | .interrupted => s.subscriptions.lookup channel = some handler

/-- A subscribe gets as far as to store its handler only where that is no harm. No unsubscribe meets a
listener that ends by an error. The plain dispose comes while no task is recorded, and no dispose comes
again while a listener is live. -/
def Ordered (s : RedisClient Handler) : ClientEvent Handler → Prop
  | .subscribe channel handler client pubsub =>
    ∀ stored, channel ≠ "" → handler = some stored → client = .ok () → s.Storable channel stored pubsub
  | .unsubscribe channel cancelled => ∀ i, channel ≠ "" → s.pubsubTasks.lookup channel = some i →
    ∀ e, (cancelListener s.listeners i cancelled).2 ≠ .raised e
  | .dispose _ => if s.disposed then ∀ channel, s.Silent channel else s.pubsubTasks = []
  | .disposeAsync _ _ => s.disposed = true → ∀ channel, s.Silent channel
  | .call _ | .ends _ _ => True

section Listeners
variable {listeners : List (Listener Handler)} {listener : Listener Handler} {i j : Nat} {ending : Ending}

theorem liveAt_some (h : liveAt listeners i = some listener) :
    listeners[i]? = some listener ∧ listener.ended = none := by
  obtain ⟨hthere, hlive⟩ := Option.filter_eq_some_iff.mp h
  exact ⟨hthere, Option.isNone_iff_eq_none.mp hlive⟩

/-- A listener that ended is not live, and the others are what they were. -/
theorem liveAt_ended : liveAt (listeners.set i { listener with ended := some ending }) j =
    if j = i then none else liveAt listeners j := by
  unfold liveAt
  by_cases hj : j = i
  · rw [if_pos hj, hj]
    cases hset : (listeners.set i { listener with ended := some ending })[i]? with
    | none => rfl
    | some new =>
      rcases Machine.slot_of_set hset with ⟨_, rfl⟩ | ⟨hne, _⟩
      · rfl
      · exact absurd rfl hne
  · rw [if_neg hj, List.getElem?_set_ne (Ne.symm hj)]

theorem liveAt_cancelListener : liveAt (cancelListener listeners i ending).1 j =
    if j = i then none else liveAt listeners j := by
  unfold cancelListener
  split
  · rename_i hnone
    split
    · rename_i hj
      rw [hj, liveAt, hnone]
      rfl
    · rfl
  · rename_i listener hthere
    split
    · rename_i old hended
      split
      · rename_i hj
        rw [hj, liveAt, hthere, Option.filter_some, hended]
        rfl
      · rfl
    · exact liveAt_ended

theorem liveAt_append (new : Listener Handler) (hnew : new.ended = none) : liveAt (listeners ++ [new]) j =
    if j = listeners.length then some new else liveAt listeners j := by
  unfold liveAt
  split
  · rename_i hj
    rw [hj, List.getElem?_concat_length, Option.filter_some, hnew]
    rfl
  · rename_i hj
    rw [Machine.slot_append_ne hj]

/-- The loop of `dispose_async` makes nothing live, and nothing that it got through stays live. -/
theorem liveAt_cancelAll {cancelled : Nat → Ending} {entries : Dict String Nat}
    (h : liveAt (cancelAll cancelled entries listeners).1 j = some listener) :
    liveAt listeners j = some listener ∧
      ((cancelAll cancelled entries listeners).2 = none → ∀ entry ∈ entries, entry.2 ≠ j) := by
  induction entries generalizing listeners with
  | nil => exact ⟨h, fun _ => List.forall_mem_nil _⟩
  | cons entry rest ih =>
    obtain ⟨channel, i⟩ := entry
    have hcancel := @liveAt_cancelListener Handler listeners i j (cancelled i)
    have hback : ∀ {after : List (Listener Handler)}, (cancelListener listeners i (cancelled i)).1 = after →
        liveAt after j = some listener → liveAt listeners j = some listener ∧ i ≠ j := by
      rintro after rfl hlive
      rw [hcancel] at hlive
      split at hlive
      · cases hlive
      · rename_i hj
        exact ⟨hlive, Ne.symm hj⟩
    have hrest : ∀ {after : List (Listener Handler)}, (cancelListener listeners i (cancelled i)).1 = after →
        liveAt (cancelAll cancelled rest after).1 j = some listener →
        liveAt listeners j = some listener ∧
          ((cancelAll cancelled rest after).2 = none → ∀ entry ∈ (channel, i) :: rest, entry.2 ≠ j) := by
      intro after hafter hlive
      obtain ⟨hafterLive, hothers⟩ := ih hlive
      obtain ⟨hlisteners, hne⟩ := hback hafter hafterLive
      exact ⟨hlisteners, fun hnone => List.forall_mem_cons.mpr ⟨hne, hothers hnone⟩⟩
    rw [cancelAll] at h ⊢
    split at h
    · rename_i after e heq
      exact ⟨(hback (congrArg Prod.fst heq) h).1, nofun⟩
    · rename_i after heq
      exact hrest (congrArg Prod.fst heq) h
    · rename_i after heq
      exact hrest (congrArg Prod.fst heq) h

end Listeners

section Calls
variable {s : RedisClient Handler}

/-- A subscribe that stores its handler and whose pubsub answers so. -/
theorem subscribeAsync_stored {channel : String} (hchannel : channel ≠ "") (handler : Handler) (pubsub : Ending) :
    s.subscribeAsync channel (some handler) (.ok ()) pubsub =
      match pubsub with
      | .returned => ({ s with
            subscriptions := s.subscriptions.set channel handler
            pubsubTasks := s.pubsubTasks.set channel s.listeners.length
            listeners := s.listeners ++ [⟨channel, handler, none⟩] }, .returned)
      | .raised e => ({ s with subscriptions := (s.subscriptions.set channel handler).pop channel }, .raised e)
      | .interrupted => ({ s with subscriptions := s.subscriptions.set channel handler }, .interrupted) := by
  rw [subscribeAsync, if_neg hchannel]

theorem subscribed_inStep {channel : String} {handler : Handler} (h : InStep s) :
    InStep { s with
      subscriptions := s.subscriptions.set channel handler
      pubsubTasks := s.pubsubTasks.set channel s.listeners.length
      listeners := s.listeners ++ [⟨channel, handler, none⟩] } ↔ s.Silent channel := by
  have hlive : ∀ j, liveAt (s.listeners ++ [⟨channel, handler, none⟩]) j =
      if j = s.listeners.length then some ⟨channel, handler, none⟩ else s.live j := fun j => liveAt_append _ rfl
  constructor
  · rintro hnext i listener hi rfl
    -- The listener that was live before is recorded no more.
    have hlt : i ≠ s.listeners.length := by
      rintro rfl
      have hthere := (liveAt_some hi).1
      rw [List.getElem?_length] at hthere
      cases hthere
    have hrecorded := hnext.recorded i listener ((hlive i).trans ((if_neg hlt).trans hi))
    dsimp only at hrecorded
    rw [Dict.lookup_set_self] at hrecorded
    exact hlt (Option.some.inj hrecorded).symm
  · intro hsilent
    refine ⟨?_, ?_⟩
    · intro i listener hi
      have hi := (hlive i).symm.trans hi
      dsimp only
      split at hi
      · rename_i hlength
        cases hi
        rw [hlength]
        exact Dict.lookup_set_self
      · rw [Dict.lookup_set_of_ne (hsilent i listener hi)]
        exact h.recorded i listener hi
    · intro other
      dsimp only
      by_cases hother : other = channel
      · rw [hother, Dict.lookup_set_self, Dict.lookup_set_self]
        rfl
      · rw [Dict.lookup_set_of_ne hother, Dict.lookup_set_of_ne hother]
        exact h.keys other

/-- Only the subscriptions are written: what the keys then say. -/
theorem stored_inStep (channel : String) {subscriptions : Dict String Handler} (h : InStep s)
    (hothers : ∀ other, other ≠ channel → subscriptions.lookup other = s.subscriptions.lookup other)
    (hhere : subscriptions.lookup channel = s.subscriptions.lookup channel) : InStep { s with subscriptions } where
  recorded := h.recorded
  keys other := by
    have hsame : subscriptions.lookup other = s.subscriptions.lookup other := by
      by_cases hother : other = channel
      · rw [hother, hhere]
      · exact hothers other hother
    dsimp only
    rw [hsame, h.keys]

theorem subscribe_promised {channel : String} {handler : Option Handler} {client : Except Exc Unit}
    {pubsub : Ending} (h : InStep s) :
    s.Ordered (.subscribe channel handler client pubsub) ↔
      InStep (s.subscribeAsync channel handler client pubsub).1 ∧
        s.Promised (.subscribe channel handler client pubsub) := by
  have hsame : (∀ stored, ¬ (channel ≠ "" ∧ handler = some stored ∧ client = .ok ())) →
      (s.subscribeAsync channel handler client pubsub).1 = s → (s.Ordered (.subscribe channel handler client pubsub) ↔
        InStep (s.subscribeAsync channel handler client pubsub).1 ∧
          s.Promised (.subscribe channel handler client pubsub)) := by
    intro hstored hs
    refine ⟨fun _ => ?_, fun _ stored hchannel hhandler hclient => absurd ⟨hchannel, hhandler, hclient⟩ (hstored stored)⟩
    rw [Promised, hs]
    exact ⟨h, fun _ => ⟨rfl, rfl⟩⟩
  by_cases hchannel : channel = ""
  · exact hsame (fun _ hs => hs.1 hchannel) (by unfold subscribeAsync; rw [if_pos hchannel])
  cases handler with
  | none => exact hsame (fun _ hs => by cases hs.2.1) (by unfold subscribeAsync; rw [if_neg hchannel])
  | some handler =>
    cases client with
    | error e => exact hsame (fun _ hs => by cases hs.2.2) (by unfold subscribeAsync; rw [if_neg hchannel])
    | ok _ =>
      have hordered : s.Ordered (.subscribe channel (some handler) (.ok ()) pubsub) ↔
          s.Storable channel handler pubsub := by
        refine ⟨fun ho => ho handler hchannel rfl rfl, ?_⟩
        rintro ho stored _ ⟨⟩ _
        exact ho
      have hothers : ∀ other, other ≠ channel →
          (s.subscriptions.set channel handler).lookup other = s.subscriptions.lookup other :=
        fun other hother => Dict.lookup_set_of_ne hother
      rw [hordered, Promised, subscribeAsync_stored hchannel]
      cases pubsub with
      | returned => exact (subscribed_inStep h).symm.trans ⟨fun hs => ⟨hs, fun hne => absurd rfl hne⟩, And.left⟩
      | raised e =>
        dsimp only [subscription]
        rw [Dict.lookup_pop_self]
        constructor
        · intro hnone
          refine ⟨stored_inStep channel h ?_ ?_, fun _ => ⟨by rw [hnone], rfl⟩⟩
          · intro other hother
            rw [Dict.lookup_pop_of_ne hother, hothers other hother]
          · rw [Dict.lookup_pop_self, hnone]
        · rintro ⟨_, hkept⟩
          exact (congrArg Prod.fst (hkept nofun).1).symm
      | interrupted =>
        dsimp only [subscription]
        rw [Dict.lookup_set_self]
        constructor
        · intro hsome
          exact ⟨stored_inStep channel h hothers (by rw [Dict.lookup_set_self, hsome]), fun _ => ⟨by rw [hsome], rfl⟩⟩
        · rintro ⟨_, hkept⟩
          exact (congrArg Prod.fst (hkept nofun).1).symm

/-- What is still live when the recorded listener of a channel is cancelled listens to another. -/
theorem live_after_cancel {channel : String} {i j : Nat} {cancelled : Ending} {listener : Listener Handler}
    (h : InStep s) (htask : s.pubsubTasks.lookup channel = some i)
    (hj : liveAt (cancelListener s.listeners i cancelled).1 j = some listener) :
    s.live j = some listener ∧ listener.channel ≠ channel := by
  rw [liveAt_cancelListener] at hj
  split at hj
  · cases hj
  · rename_i hne
    refine ⟨hj, ?_⟩
    rintro rfl
    exact hne (Option.some.inj ((h.recorded j listener hj).symm.trans htask))

/-- Both maps lose the channel whose listener is cancelled. -/
theorem unsubscribed_inStep {channel : String} {i : Nat} {cancelled : Ending} (h : InStep s)
    (htask : s.pubsubTasks.lookup channel = some i) :
    InStep { s with
      subscriptions := s.subscriptions.pop channel
      pubsubTasks := s.pubsubTasks.pop channel
      listeners := (cancelListener s.listeners i cancelled).1 } := by
  refine ⟨?_, ?_⟩
  · intro j listener hj
    obtain ⟨hold, hother⟩ := live_after_cancel h htask hj
    exact (Dict.lookup_pop_of_ne hother).trans (h.recorded j listener hold)
  · intro other
    dsimp only
    by_cases hother : other = channel
    · rw [hother, Dict.lookup_pop_self, Dict.lookup_pop_self]
      rfl
    · rw [Dict.lookup_pop_of_ne hother, Dict.lookup_pop_of_ne hother, h.keys]

/-- A channel without a task has no handler, and nothing listens to it. -/
theorem no_task {channel : String} (h : InStep s) (htask : s.pubsubTasks.lookup channel = none) :
    s.subscriptions.lookup channel = none ∧ s.Silent channel := by
  constructor
  · have hkeys := h.keys channel
    rw [htask] at hkeys
    exact Option.isNone_iff_eq_none.mp (by rw [← Option.not_isSome, ← hkeys]; rfl)
  · intro i listener hi hl
    have hrecorded := h.recorded i listener hi
    rw [hl, htask] at hrecorded
    cases hrecorded

theorem unsubscribe_promised {channel : String} {cancelled : Ending} (h : InStep s) :
    s.Ordered (.unsubscribe channel cancelled) ↔
      InStep (s.unsubscribeAsync channel cancelled).1 ∧ s.Promised (.unsubscribe channel cancelled) := by
  rw [Ordered, Promised]
  unfold unsubscribeAsync
  by_cases hchannel : channel = ""
  · rw [if_pos hchannel]
    exact ⟨fun _ => ⟨h, nofun⟩, fun _ _ hne => absurd hchannel hne⟩
  rw [if_neg hchannel]
  cases htask : s.pubsubTasks.lookup channel with
  | none =>
    obtain ⟨hnone, hsilent⟩ := no_task h htask
    have hpopped : InStep { s with subscriptions := s.subscriptions.pop channel } := by
      apply stored_inStep channel h (fun other hother => Dict.lookup_pop_of_ne hother)
      rw [Dict.lookup_pop_self, hnone]
    exact ⟨fun _ => ⟨hpopped, fun _ => hsilent⟩, fun _ i _ hi => by cases hi⟩
  | some i =>
    dsimp only
    cases hending : (cancelListener s.listeners i cancelled).2 with
    | raised e =>
      -- The task is gone from the one map, and the handler is still in the other.
      refine ⟨fun ho => absurd hending (ho i hchannel rfl e), fun hnext => ?_⟩
      have hkeys := hnext.1.keys channel
      dsimp only at hkeys
      rw [Dict.lookup_pop_self, ← h.keys, htask] at hkeys
      cases hkeys
    | returned | interrupted =>
      constructor
      · exact fun _ => ⟨unsubscribed_inStep h htask, fun _ j listener hj => (live_after_cancel h htask hj).2⟩
      · rintro _ j _ hj e he
        cases hj
        cases hending.symm.trans he

theorem dispose_promised {closed : Except Exc Unit} (h : InStep s) :
    s.Ordered (.dispose closed) ↔ InStep (s.dispose closed).1 ∧ s.Promised (.dispose closed) := by
  rw [Ordered, Promised]
  unfold dispose
  by_cases hdisposed : s.disposed = true
  · rw [if_pos hdisposed, if_pos hdisposed]
    exact ⟨fun hsilent => ⟨h, fun _ => hsilent⟩, fun hnext => hnext.2 rfl⟩
  rw [if_neg hdisposed, if_neg hdisposed]
  -- Nothing but the subscriptions goes, so a recorded task stays behind its key.
  have hcleared : ∀ disposed, InStep { s with subscriptions := [], disposed } ↔ s.pubsubTasks = [] := by
    intro disposed
    constructor
    · intro hnext
      cases hempty : s.pubsubTasks with
      | nil => rfl
      | cons entry rest =>
        have hkeys := hnext.keys entry.1
        dsimp only at hkeys
        rw [hempty, List.lookup_cons_self] at hkeys
        cases hkeys
    · intro hempty
      refine ⟨h.recorded, fun channel => ?_⟩
      dsimp only
      rw [hempty]
      rfl
  have hsilent : s.pubsubTasks = [] → ∀ channel, s.Silent channel := by
    intro hempty channel i listener hi
    have hrecorded := h.recorded i listener hi
    rw [hempty] at hrecorded
    cases hrecorded
  cases closed with
  | error e => exact (hcleared s.disposed).symm.trans ⟨fun hnext => ⟨hnext, nofun⟩, And.left⟩
  | ok _ => exact (hcleared true).symm.trans ⟨fun hnext => ⟨hnext, fun _ => hsilent ((hcleared true).mp hnext)⟩, And.left⟩

theorem disposeAsync_promised {cancelled : Nat → Ending} {closed : Except Exc Unit} (h : InStep s) :
    s.Ordered (.disposeAsync cancelled closed) ↔
      InStep (s.disposeAsync cancelled closed).1 ∧ s.Promised (.disposeAsync cancelled closed) := by
  rw [Ordered, Promised]
  unfold disposeAsync
  by_cases hdisposed : s.disposed = true
  · rw [if_pos hdisposed]
    exact ⟨fun hsilent => ⟨h, fun _ => hsilent hdisposed⟩, fun hnext _ => hnext.2 rfl⟩
  rw [if_neg hdisposed]
  refine ⟨fun _ => ?_, fun _ hd => absurd hd hdisposed⟩
  have hlive := fun {j : Nat} {listener : Listener Handler} =>
    @liveAt_cancelAll Handler s.listeners listener j cancelled s.pubsubTasks
  cases hcancel : cancelAll cancelled s.pubsubTasks s.listeners with
  | mk listeners escaped =>
    rw [hcancel] at hlive
    cases escaped with
    | some e => exact ⟨⟨fun j listener hj => h.recorded j listener (hlive hj).1, h.keys⟩, nofun⟩
    | none =>
      -- Whatever is still live was recorded, and the loop got through all that was.
      have hdead : ∀ j, liveAt listeners j = none := by
        intro j
        cases hj : liveAt listeners j with
        | none => rfl
        | some listener =>
          obtain ⟨hold, hothers⟩ := hlive hj
          exact absurd rfl (hothers rfl _ (Dict.mem_of_lookup (h.recorded j listener hold)))
      have hsilent : ∀ (next : RedisClient Handler), next.listeners = listeners → ∀ channel, next.Silent channel := by
        rintro next rfl channel j listener hj
        cases (hdead j).symm.trans hj
      have hcleared : ∀ disposed, InStep { s with pubsubTasks := [], subscriptions := [], listeners, disposed } := by
        intro disposed
        refine ⟨fun j listener hj => ?_, fun channel => rfl⟩
        cases (hdead j).symm.trans hj
      cases closed with
      | error e => exact ⟨hcleared s.disposed, nofun⟩
      | ok _ => exact ⟨hcleared true, fun _ => hsilent _ rfl⟩

/-- A step keeps the maps in step with the listeners, and what it is promised to do, exactly where it
comes in order. -/
theorem step_ordered_iff {e : ClientEvent Handler} {next : RedisClient Handler} (h : InStep s)
    (hstep : s.step e = some next) : s.Ordered e ↔ InStep next ∧ s.Promised e := by
  cases e with
  | subscribe channel handler client pubsub =>
    cases hstep
    exact subscribe_promised h
  | unsubscribe channel cancelled =>
    cases hstep
    exact unsubscribe_promised h
  | dispose closed =>
    cases hstep
    exact dispose_promised h
  | disposeAsync cancelled closed =>
    cases hstep
    exact disposeAsync_promised h
  | call i =>
    obtain ⟨listener, _, rfl⟩ := Option.map_eq_some_iff.mp hstep
    exact ⟨fun _ => ⟨⟨h.recorded, h.keys⟩, trivial⟩, fun _ => trivial⟩
  | ends i ending =>
    obtain ⟨listener, _, rfl⟩ := Option.map_eq_some_iff.mp hstep
    refine ⟨fun _ => ⟨⟨?_, h.keys⟩, trivial⟩, fun _ => trivial⟩
    intro j other hj
    rw [live, liveAt_ended] at hj
    split at hj
    · cases hj
    · exact h.recorded j other hj

theorem subscribeAsync_listeners (s : RedisClient Handler) (channel : String) (handler : Option Handler)
    (client : Except Exc Unit) (pubsub : Ending) :
    (s.subscribeAsync channel handler client pubsub).1.called = s.called ∧
      ((s.subscribeAsync channel handler client pubsub).1.listeners = s.listeners ∨
        ∃ stored, (s.subscribeAsync channel handler client pubsub).1.listeners =
          s.listeners ++ [⟨channel, stored, none⟩]) := by
  unfold subscribeAsync
  split
  · exact ⟨rfl, .inl rfl⟩
  · split
    · exact ⟨rfl, .inl rfl⟩
    · exact ⟨rfl, .inl rfl⟩
    · cases pubsub with
      | returned => exact ⟨rfl, .inr ⟨_, rfl⟩⟩
      | raised e => exact ⟨rfl, .inl rfl⟩
      | interrupted => exact ⟨rfl, .inl rfl⟩

/-- Some listeners end, and none is called. -/
structure OnlyEnds (s next : RedisClient Handler) : Prop where
  called : next.called = s.called
  alive : ∀ (i : Nat) (listener : Listener Handler), next.live i = some listener → s.live i = some listener

theorem OnlyEnds.of_listeners {next : RedisClient Handler} (hcalled : next.called = s.called)
    (hlisteners : next.listeners = s.listeners) : OnlyEnds s next := by
  refine ⟨hcalled, fun i listener hlive => ?_⟩
  rw [live, hlisteners] at hlive
  exact hlive

theorem unsubscribeAsync_onlyEnds (s : RedisClient Handler) (channel : String) (cancelled : Ending) :
    OnlyEnds s (s.unsubscribeAsync channel cancelled).1 := by
  have hcancel : ∀ {next : RedisClient Handler} {j : Nat}, next.called = s.called →
      next.listeners = (cancelListener s.listeners j cancelled).1 → OnlyEnds s next := by
    intro next j hcalled hlisteners
    refine ⟨hcalled, fun i listener hlive => ?_⟩
    rw [live, hlisteners, liveAt_cancelListener] at hlive
    split at hlive
    · cases hlive
    · exact hlive
  unfold unsubscribeAsync
  split
  · exact .of_listeners rfl rfl
  · split
    · exact .of_listeners rfl rfl
    · dsimp only
      split
      · exact hcancel rfl rfl
      · exact hcancel rfl rfl
      · exact hcancel rfl rfl

theorem dispose_onlyEnds (s : RedisClient Handler) (closed : Except Exc Unit) : OnlyEnds s (s.dispose closed).1 := by
  unfold dispose
  split
  · exact .of_listeners rfl rfl
  · cases closed with
    | error e => exact .of_listeners rfl rfl
    | ok _ => exact .of_listeners rfl rfl

theorem disposeAsync_onlyEnds (s : RedisClient Handler) (cancelled : Nat → Ending) (closed : Except Exc Unit) :
    OnlyEnds s (s.disposeAsync cancelled closed).1 := by
  have hcancel : ∀ {next : RedisClient Handler}, next.called = s.called →
      next.listeners = (cancelAll cancelled s.pubsubTasks s.listeners).1 → OnlyEnds s next := by
    intro next hcalled hlisteners
    refine ⟨hcalled, fun i listener hlive => ?_⟩
    rw [live, hlisteners] at hlive
    exact (liveAt_cancelAll hlive).1
  unfold disposeAsync
  split
  · exact .of_listeners rfl rfl
  · split
    · rename_i heq
      exact hcancel rfl (congrArg Prod.fst heq).symm
    · rename_i heq
      cases closed with
      | error e => exact hcancel rfl (congrArg Prod.fst heq).symm
      | ok _ => exact hcancel rfl (congrArg Prod.fst heq).symm

def NotSubscribed (channel : String) : ClientEvent Handler → Prop
  | .subscribe other _ _ _ => other ≠ channel
  | _ => True

/-- How often a handler of the channel was called. -/
def calls (s : RedisClient Handler) (channel : String) : Nat := s.called.count channel

/-- A silent channel stays so until somebody subscribes to it. -/
theorem step_silent {channel : String} {e : ClientEvent Handler} {next : RedisClient Handler}
    (h : s.Silent channel) (hother : NotSubscribed channel e) (hstep : s.step e = some next) :
    next.Silent channel ∧ next.calls channel = s.calls channel := by
  have hends : OnlyEnds s next → next.Silent channel ∧ next.calls channel = s.calls channel := by
    intro hends
    exact ⟨fun i listener hlive => h i listener (hends.alive i listener hlive), congrArg (List.count channel) hends.called⟩
  cases e with
  | subscribe other handler client pubsub =>
    cases hstep
    obtain ⟨hcalled, hsame | ⟨stored, happended⟩⟩ := subscribeAsync_listeners s other handler client pubsub
    · exact hends (.of_listeners hcalled hsame)
    · refine ⟨fun i listener hlive => ?_, congrArg (List.count channel) hcalled⟩
      rw [live, happended, liveAt_append _ rfl] at hlive
      split at hlive
      · cases hlive
        exact hother
      · exact h i listener hlive
  | unsubscribe other cancelled =>
    cases hstep
    exact hends (unsubscribeAsync_onlyEnds s other cancelled)
  | dispose closed =>
    cases hstep
    exact hends (dispose_onlyEnds s closed)
  | disposeAsync cancelled closed =>
    cases hstep
    exact hends (disposeAsync_onlyEnds s cancelled closed)
  | call i =>
    obtain ⟨listener, hlive, rfl⟩ := Option.map_eq_some_iff.mp hstep
    refine ⟨h, ?_⟩
    rw [calls, calls, List.count_append, List.count_singleton, if_neg (by simpa using h i listener hlive)]
    rfl
  | ends i ending =>
    obtain ⟨listener, _, rfl⟩ := Option.map_eq_some_iff.mp hstep
    refine hends ⟨rfl, fun j other hlive => ?_⟩
    rw [live, liveAt_ended] at hlive
    split at hlive
    · cases hlive
    · exact hlive

end Calls

/-- While every call comes in order, the maps and the listeners are in step; a call does what it
promises, and leaves them so, exactly if it comes in order too; and of a channel that is silent no
handler is called again before the next subscribe to it. -/
theorem in_step_while_calls_come_in_order {events : List (ClientEvent Handler)} {s : RedisClient Handler}
    (h : Machine.Run step Ordered {} events s) :
    InStep s ∧
      (∀ e next, s.step e = some next → (s.Ordered e ↔ InStep next ∧ s.Promised e)) ∧
      ∀ channel, s.Silent channel → ∀ events later,
        Machine.Run step (fun _ e => NotSubscribed channel e) s events later → later.calls channel = s.calls channel := by
  have hinStep : InStep s := by
    refine h.invariant ⟨fun i listener hlive => ?_, fun channel => rfl⟩ ?_
    · cases hlive
    · intro s e next hs hordered hstep
      exact ((step_ordered_iff hs hstep).mp hordered).1
  refine ⟨hinStep, fun e next => step_ordered_iff hinStep, ?_⟩
  intro channel hsilent events later hrun
  refine (@Machine.Run.invariant _ _ _ _ _ _ _ (fun t => t.Silent channel ∧ t.calls channel = s.calls channel) hrun
    ⟨hsilent, rfl⟩ ?_).2
  intro t e next ht hother hstep
  obtain ⟨hnext, hcalls⟩ := step_silent ht.1 hother hstep
  exact ⟨hnext, hcalls.trans ht.2⟩

/-- A subscribe, a call of its handler, and an unsubscribe. -/
theorem subscribed_and_unsubscribed :
    ∃ s : RedisClient Nat, InStep s ∧ s.called = ["tenants"] ∧ s.pubsubTasks = [] := by
  have hrun : Machine.Run step Ordered {} [.subscribe "tenants" (some 0) (.ok ()) .returned, .call 0,
      .unsubscribe "tenants" .returned] (⟨[], [], false, [⟨"tenants", 0, some .returned⟩], ["tenants"]⟩ : RedisClient Nat) := by
    refine .cons ?_ rfl (.cons trivial rfl (.cons ?_ rfl .nil))
    · intro stored _ _ _ i listener hlive
      cases hlive
    · intro i _ hi e
      cases hi
      nofun
  exact ⟨_, (in_step_while_calls_come_in_order hrun).1, rfl, rfl⟩

/-- A second subscribe to a channel, or the plain dispose: the first handler is called after the
unsubscribe, or the dispose, has returned. A second subscribe that fails takes the first one's entry. -/
theorem handlers_called_after_the_end :
    (∃ s : RedisClient Nat, Machine.Run step (fun _ _ => True) {}
      [.subscribe "tenants" (some 0) (.ok ()) .returned, .subscribe "tenants" (some 1) (.ok ()) .returned,
        .unsubscribe "tenants" .returned, .call 0] s ∧ s.pubsubTasks = [] ∧ s.called = ["tenants"]) ∧
    (∃ s : RedisClient Nat, Machine.Run step (fun _ _ => True) {}
      [.subscribe "tenants" (some 0) (.ok ()) .returned, .dispose (.ok ()), .call 0] s ∧
        s.disposed = true ∧ s.called = ["tenants"]) ∧
    ∃ s : RedisClient Nat, Machine.Run step (fun _ _ => True) {}
      [.subscribe "tenants" (some 0) (.ok ()) .returned,
        .subscribe "tenants" (some 1) (.ok ()) (.raised (.other "ConnectionError"))] s ∧
      s.subscriptions = [] ∧ s.pubsubTasks = [("tenants", 0)] := by
  refine ⟨⟨_, .cons trivial rfl (.cons trivial rfl (.cons trivial rfl (.cons trivial rfl .nil))), rfl, rfl⟩,
    ⟨_, .cons trivial rfl (.cons trivial rfl (.cons trivial rfl .nil)), rfl, rfl⟩,
    ⟨_, .cons trivial rfl (.cons trivial rfl .nil), rfl, rfl⟩⟩

end RedisClient

end BlocksGenesis.Cache
