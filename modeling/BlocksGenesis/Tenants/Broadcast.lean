import BlocksGenesis.Machine.Slots
import BlocksGenesis.Tenants.CacheFrame

/-! The tenant caches of several processes, and the channel that tells them of updates. -/

namespace BlocksGenesis.Tenants.Broadcast
open Python Machine BlocksGenesis.Auth BlocksGenesis.Tenants

/-- A task of `_subscribe_to_updates`. Where Redis has its subscription, it has it from a place of the channel on. -/
inductive Attempt where
  | starting
  | subscribing (reached : Option Nat)
  | subscribed
  | failed
deriving DecidableEq, Repr

/-- One process. `next` is the place of the message it is sent next, while it is sent any; what it was sent and has
not handled yet is scheduled. For an id, `agreed` has the place of the last message about it that was handled, as long
as no call has changed the entry since, and `missed` tells whether a message was lost. No process has these two. -/
structure Replica where
  service : Tenants.State
  initialized : Bool := false
  isSubscribed : Bool := false
  disposed : Bool := false
  attempts : List Attempt := []
  unsubscribing : Nat := 0
  next : Option Nat := none
  scheduled : List (Nat × String) := []
  agreed : Dict String Nat := []
  missed : Bool := false

structure State where
  channel : List String := []
  replicas : List Replica

/-- Anybody may publish. A message may be lost on its way, and a process serves requests all along. -/
inductive Event where
  | publish (text : String)
  | initializeTenantService (replica : Nat)
  | attempt (replica task : Nat)
  | reached (replica task : Nat)
  | answered (replica task : Nat) (ok : Bool)
  | deliver (replica : Nat)
  | lose (replica : Nat)
  | handle (replica : Nat)
  | serve (replica : Nat) (e : Tenants.Event)
  | dispose (replica : Nat)
  | unsubscribed (replica : Nat) (stopped : Bool)

/-! ## The life of a subscription -/

/-- `initialize_tenant_service`. What it calls awaits nothing inside its lock. -/
def Replica.initializeTenantService (r : Replica) : Replica :=
  if r.initialized then r else { r with initialized := true, attempts := r.attempts ++ [.starting] }

/-- A task runs until it awaits Redis. -/
def Replica.attempt (r : Replica) (task : Nat) : Option Replica :=
  match r.attempts[task]? with
  | some .starting =>
    some { r with attempts := r.attempts.set task (if r.isSubscribed then .subscribed else .subscribing none) }
  | _ => none

def Replica.reached (r : Replica) (task place : Nat) : Option Replica :=
  match r.attempts[task]? with
  | some (.subscribing none) => some { r with attempts := r.attempts.set task (.subscribing (some place)) }
  | _ => none

/-- An error of the subscription is logged, and nothing tries again. -/
def Replica.answered (r : Replica) (task : Nat) (ok : Bool) : Option Replica :=
  match r.attempts[task]?, ok with
  | some (.subscribing (some place)), true =>
    some { r with attempts := r.attempts.set task .subscribed, isSubscribed := true, next := some place }
  | some (.subscribing _), false => some { r with attempts := r.attempts.set task .failed }
  | _, _ => none

/-- `dispose_async`, to where it awaits the cache. -/
def Replica.dispose (r : Replica) : Replica :=
  if r.disposed then r
  else if r.isSubscribed then { r with unsubscribing := r.unsubscribing + 1 }
  else { r with disposed := true }

/-- An error of `unsubscribe_async` is logged, whether or not the messages have stopped. -/
def Replica.unsubscribed (r : Replica) (stopped : Bool) : Option Replica :=
  if r.unsubscribing = 0 then none
  else some { r with
    unsubscribing := r.unsubscribing - 1
    disposed := true
    next := if stopped then none else r.next }

/-! ## The messages -/

/-- The entry an update leaves of the tenant it is about. -/
def content (rt : Runtime) (update : TenantCacheUpdateMessage) : Option Copy :=
  if updateAction rt update == "remove" then none
  else update.tenant.bind (fun tenant => if tenant.isDisabled then none else some ⟨tenant, none⟩)

section Model
variable (rt : Runtime) (parse : String → Option TenantCacheUpdateMessage)

/-- The id a message is about, and the entry it leaves of it. -/
def tells (text : String) : Option (String × Option Copy) :=
  ((parse text).bind (normalizeCacheUpdate rt)).bind (fun update =>
    (updateTarget rt update).map (fun id => (id, content rt update)))

/-- `_handle_update_wrapper`, which makes a task of each message. -/
def Replica.deliver (r : Replica) (message : Nat × String) : Replica :=
  { r with scheduled := r.scheduled ++ [message], next := some (message.1 + 1) }

/-- `_handle_update`, which awaits nothing. The tasks start in the order they were made in. -/
def Replica.handle (r : Replica) : Option Replica :=
  match r.scheduled with
  | [] => none
  | (place, text) :: rest => some { r with
      service := { handleUpdate rt r.service (parse text) with clock := r.service.clock + 1 }
      scheduled := rest
      agreed := match tells rt parse text with
        | some (id, _) => r.agreed.set id place
        | none => r.agreed }

def isMessage : Tenants.Event → Bool
  | .handleUpdate _ => true
  | _ => false

/-- A step of a call, which may store what it has loaded. -/
def Replica.serve (r : Replica) (e : Tenants.Event) : Option Replica :=
  if isMessage e then none
  else (Tenants.step rt r.service e).map (fun service => { r with
    service
    agreed := r.agreed.filter (fun entry =>
      decide (service.cache.lookup (some entry.1) = r.service.cache.lookup (some entry.1))) })

def State.update (s : State) (i : Nat) (f : Replica → Option Replica) : Option State :=
  (s.replicas[i]?).bind (fun r => (f r).map (fun next => { s with replicas := s.replicas.set i next }))

/-- What is sent to a replica next, and its place. -/
def State.incoming (s : State) (r : Replica) : Option (Nat × String) :=
  r.next.bind (fun place => (s.channel[place]?).map (fun text => (place, text)))

def step (s : State) : Event → Option State
  | .publish text => some { s with channel := s.channel ++ [text] }
  | .initializeTenantService i => s.update i (fun r => some r.initializeTenantService)
  | .attempt i task => s.update i (fun r => r.attempt task)
  | .reached i task => s.update i (fun r => r.reached task s.channel.length)
  | .answered i task ok => s.update i (fun r => r.answered task ok)
  | .deliver i => s.update i (fun r => (s.incoming r).map r.deliver)
  | .lose i => s.update i (fun r =>
      (s.incoming r).map (fun message => { r with next := some (message.1 + 1), missed := true }))
  | .handle i => s.update i (fun r => r.handle rt parse)
  | .serve i e => s.update i (fun r => r.serve rt e)
  | .dispose i => s.update i (fun r => some r.dispose)
  | .unsubscribed i stopped => s.update i (fun r => r.unsubscribed stopped)

end Model

/-- The processes before anything has happened. -/
def started (databases : List (List TenantDocument)) : State where
  replicas := databases.map (fun database => { service := { database } })

/-! ## What a message leaves -/

section Messages
variable {rt : Runtime} {parse : String → Option TenantCacheUpdateMessage} {update : TenantCacheUpdateMessage}
  {cache : Cache} {id : String}

theorem applyUpdateMessage_target (h : updateTarget rt update = some id) :
    (applyUpdateMessage rt cache update).lookup (some id) = content rt update := by
  unfold updateTarget at h
  unfold applyUpdateMessage content
  split at h
  · rename_i hremove
    rw [if_pos hremove, if_pos hremove, h]
    exact Dict.lookup_pop_self
  · rename_i hremove
    obtain ⟨tenant, htenant, hid⟩ := Option.bind_eq_some_iff.mp h
    rw [if_neg hremove, if_neg hremove, htenant, Option.bind_some]
    dsimp only
    rw [hid]
    dsimp only
    split
    · exact Dict.lookup_pop_self
    · exact Dict.lookup_set_self

theorem applyUpdateMessage_other {other : String} (h : updateTarget rt update = some id) (hne : other ≠ id) :
    (applyUpdateMessage rt cache update).lookup (some other) = cache.lookup (some other) := by
  have hkey : (some other : Option String) ≠ some id := fun he => hne (Option.some.inj he)
  have hframe : (applyUpdateMessage rt cache update).pop (some id) = cache.pop (some id) := applyUpdateMessage_frame h
  rw [← Dict.lookup_pop_of_ne hkey, hframe, Dict.lookup_pop_of_ne hkey]

theorem applyUpdateMessage_none (h : updateTarget rt update = none) : applyUpdateMessage rt cache update = cache := by
  unfold updateTarget at h
  unfold applyUpdateMessage
  split at h
  · rename_i hremove
    rw [if_pos hremove, h]
  · rename_i hremove
    rw [if_neg hremove]
    cases htenant : update.tenant with
    | none => rfl
    | some tenant =>
      rw [htenant, Option.bind_some] at h
      dsimp only
      rw [h]

/-- A message that is handled leaves the entry it is about as it says, and the others as they were. -/
theorem handleUpdate_tells (s : Tenants.State) (text : String) :
    match tells rt parse text with
    | some (id, said) => (handleUpdate rt s (parse text)).cache.lookup (some id) = said ∧
        ∀ other, other ≠ id → (handleUpdate rt s (parse text)).cache.lookup (some other) = s.cache.lookup (some other)
    | none => (handleUpdate rt s (parse text)).cache = s.cache := by
  unfold tells handleUpdate
  cases hmessage : (parse text).bind (normalizeCacheUpdate rt) with
  | none => rfl
  | some update =>
    rw [Option.bind_some]
    cases htarget : updateTarget rt update with
    | none => exact applyUpdateMessage_none htarget
    | some id => exact ⟨applyUpdateMessage_target htarget, fun other hne => applyUpdateMessage_other htarget hne⟩

end Messages

/-! ## What a step does to a process -/

section Steps
variable {rt : Runtime} {parse : String → Option TenantCacheUpdateMessage}

/-- The steps of a process, with what they need. -/
inductive Moved (rt : Runtime) (parse : String → Option TenantCacheUpdateMessage) (channel : List String)
    (r : Replica) : Replica → Prop where
  | rested : Moved rt parse channel r r
  | initialized : r.initialized = false →
      Moved rt parse channel r { r with initialized := true, attempts := r.attempts ++ [.starting] }
  | attempted {task : Nat} : r.attempts[task]? = some .starting →
      Moved rt parse channel r
        { r with attempts := r.attempts.set task (if r.isSubscribed then .subscribed else .subscribing none) }
  | reached {task : Nat} : r.attempts[task]? = some (.subscribing none) →
      Moved rt parse channel r { r with attempts := r.attempts.set task (.subscribing (some channel.length)) }
  | subscribed {task place : Nat} : r.attempts[task]? = some (.subscribing (some place)) →
      Moved rt parse channel r
        { r with attempts := r.attempts.set task .subscribed, isSubscribed := true, next := some place }
  | failed {task : Nat} {reached : Option Nat} : r.attempts[task]? = some (.subscribing reached) →
      Moved rt parse channel r { r with attempts := r.attempts.set task .failed }
  | delivered {place : Nat} {text : String} : r.next = some place → channel[place]? = some text →
      Moved rt parse channel r (r.deliver (place, text))
  | lost {place : Nat} {text : String} : r.next = some place → channel[place]? = some text →
      Moved rt parse channel r { r with next := some (place + 1), missed := true }
  | handled {next : Replica} : r.handle rt parse = some next → Moved rt parse channel r next
  | served {next : Replica} {e : Tenants.Event} : r.serve rt e = some next → Moved rt parse channel r next
  | disposing : r.disposed = false → r.isSubscribed = true →
      Moved rt parse channel r { r with unsubscribing := r.unsubscribing + 1 }
  | disposed : r.disposed = false → r.isSubscribed = false → Moved rt parse channel r { r with disposed := true }
  | unsubscribed (stopped : Bool) : 0 < r.unsubscribing →
      Moved rt parse channel r { r with
        unsubscribing := r.unsubscribing - 1
        disposed := true
        next := if stopped then none else r.next }

theorem update_some {s s' : State} {i : Nat} {f : Replica → Option Replica} (h : s.update i f = some s') :
    ∃ r next, s.replicas[i]? = some r ∧ f r = some next ∧ s' = { s with replicas := s.replicas.set i next } := by
  obtain ⟨r, hr, hf⟩ := Option.bind_eq_some_iff.mp h
  obtain ⟨next, hnext, hs⟩ := Option.map_eq_some_iff.mp hf
  exact ⟨r, next, hr, hnext, hs.symm⟩

theorem incoming_some {s : State} {r next : Replica} {f : Nat × String → Replica}
    (h : (s.incoming r).map f = some next) :
    ∃ place text, r.next = some place ∧ s.channel[place]? = some text ∧ next = f (place, text) := by
  obtain ⟨message, hm, he⟩ := Option.map_eq_some_iff.mp h
  obtain ⟨place, hplace, htext⟩ := Option.bind_eq_some_iff.mp hm
  obtain ⟨text, hchannel, hmessage⟩ := Option.map_eq_some_iff.mp htext
  subst hmessage
  exact ⟨place, text, hplace, hchannel, he.symm⟩

theorem answered_moved {channel : List String} {r next : Replica} {task : Nat} {ok : Bool}
    (h : r.answered task ok = some next) : Moved rt parse channel r next := by
  unfold Replica.answered at h
  split at h
  · rename_i hslot
    cases h
    exact .subscribed hslot
  · rename_i hslot
    cases h
    exact .failed hslot
  · cases h

/-- Something is published, or one process makes a step. -/
theorem step_cases {s s' : State} {e : Event} (h : step rt parse s e = some s') :
    (∃ text, s' = { s with channel := s.channel ++ [text] }) ∨
    ∃ i r next, s.replicas[i]? = some r ∧ Moved rt parse s.channel r next ∧
      s' = { s with replicas := s.replicas.set i next } := by
  cases e with
  | publish text =>
    cases h
    exact .inl ⟨text, rfl⟩
  | initializeTenantService i =>
    obtain ⟨r, next, hr, hf, hs⟩ := update_some h
    refine .inr ⟨i, r, next, hr, ?_, hs⟩
    cases hf
    unfold Replica.initializeTenantService
    split
    · exact .rested
    · rename_i hnew
      exact .initialized (by simpa using hnew)
  | attempt i task =>
    obtain ⟨r, next, hr, hf, hs⟩ := update_some h
    refine .inr ⟨i, r, next, hr, ?_, hs⟩
    unfold Replica.attempt at hf
    split at hf
    · cases hf
      exact .attempted ‹_›
    · cases hf
  | reached i task =>
    obtain ⟨r, next, hr, hf, hs⟩ := update_some h
    refine .inr ⟨i, r, next, hr, ?_, hs⟩
    unfold Replica.reached at hf
    split at hf
    · cases hf
      exact .reached ‹_›
    · cases hf
  | answered i task ok =>
    obtain ⟨r, next, hr, hf, hs⟩ := update_some h
    exact .inr ⟨i, r, next, hr, answered_moved hf, hs⟩
  | deliver i =>
    obtain ⟨r, next, hr, hf, hs⟩ := update_some h
    obtain ⟨place, text, hplace, htext, rfl⟩ := incoming_some hf
    exact .inr ⟨i, r, _, hr, .delivered hplace htext, hs⟩
  | lose i =>
    obtain ⟨r, next, hr, hf, hs⟩ := update_some h
    obtain ⟨place, text, hplace, htext, rfl⟩ := incoming_some hf
    exact .inr ⟨i, r, _, hr, .lost hplace htext, hs⟩
  | handle i =>
    obtain ⟨r, next, hr, hf, hs⟩ := update_some h
    exact .inr ⟨i, r, next, hr, .handled hf, hs⟩
  | serve i e =>
    obtain ⟨r, next, hr, hf, hs⟩ := update_some h
    exact .inr ⟨i, r, next, hr, .served hf, hs⟩
  | dispose i =>
    obtain ⟨r, next, hr, hf, hs⟩ := update_some h
    refine .inr ⟨i, r, next, hr, ?_, hs⟩
    cases hf
    unfold Replica.dispose
    split
    · exact .rested
    · rename_i hnew
      have hnew : r.disposed = false := by simpa using hnew
      split
      · exact .disposing hnew ‹_›
      · rename_i hnot
        exact .disposed hnew (by simpa using hnot)
  | unsubscribed i stopped =>
    obtain ⟨r, next, hr, hf, hs⟩ := update_some h
    refine .inr ⟨i, r, next, hr, ?_, hs⟩
    unfold Replica.unsubscribed at hf
    split at hf
    · cases hf
    · cases hf
      exact .unsubscribed stopped (Nat.pos_of_ne_zero ‹_›)

/-- What every step of a process keeps, and what is published does not change, all processes keep. -/
theorem Replicas.invariant {Inv : List String → Replica → Prop} {s s' : State} {events : List Event}
    (h : Run (step rt parse) (fun _ _ => True) s events s') (hs : ∀ r ∈ s.replicas, Inv s.channel r)
    (hpublish : ∀ {channel r} text, Inv channel r → Inv (channel ++ [text]) r)
    (hmoved : ∀ {channel r next}, Inv channel r → Moved rt parse channel r next → Inv channel next) :
    ∀ r ∈ s'.replicas, Inv s'.channel r := by
  apply @Run.invariant State Event _ _ _ _ _ (fun s => ∀ r ∈ s.replicas, Inv s.channel r) h hs
  intro s e s' hs _ htaken
  rcases step_cases htaken with ⟨text, rfl⟩ | ⟨i, r, next, hr, hm, rfl⟩
  · exact fun r hr => hpublish text (hs r hr)
  · intro other hother
    rcases List.mem_or_eq_of_mem_set hother with hold | rfl
    · exact hs other hold
    · exact hmoved (hs r (List.mem_of_getElem? hr)) hm

/-- The same for the process in one place, from any state on. -/
theorem Replica.invariant {Inv : Replica → Prop} {s s' : State} {events : List Event} {i : Nat} {r : Replica}
    (h : Run (step rt parse) (fun _ _ => True) s events s') (hi : s.replicas[i]? = some r) (hr : Inv r)
    (hmoved : ∀ {channel r next}, Inv r → Moved rt parse channel r next → Inv next) :
    ∃ r', s'.replicas[i]? = some r' ∧ Inv r' := by
  apply @Run.invariant State Event _ _ _ _ _ (fun s => ∃ r, s.replicas[i]? = some r ∧ Inv r) h ⟨r, hi, hr⟩
  intro s e s' hs _ htaken
  obtain ⟨r, hi, hr⟩ := hs
  rcases step_cases htaken with ⟨text, rfl⟩ | ⟨j, old, next, hold, hm, rfl⟩
  · exact ⟨r, hi, hr⟩
  · by_cases hj : j = i
    · subst hj
      rw [hi] at hold
      cases hold
      exact ⟨next, slot_set_self hi, hmoved hr hm⟩
    · exact ⟨r, (List.getElem?_set_ne hj).trans hi, hr⟩

/-! ## The life of a subscription -/

/-- A process subscribes once, and is sent nothing before that. -/
structure Once (r : Replica) : Prop where
  attempts : r.attempts = [] ∧ r.initialized = false ∨ ∃ attempt, r.attempts = [attempt] ∧ r.initialized = true
  subscribed : r.isSubscribed = true ↔ r.attempts = [.subscribed]
  untold : r.isSubscribed = false → r.next = none ∧ r.scheduled = [] ∧ r.agreed = [] ∧ r.unsubscribing = 0

theorem Once.slot {r : Replica} (h : Once r) {task : Nat} {attempt : Attempt} (ht : r.attempts[task]? = some attempt) :
    r.attempts = [attempt] ∧ task = 0 := by
  rcases h.attempts with ⟨hnone, _⟩ | ⟨found, hone, _⟩
  · rw [hnone] at ht
    cases ht
  · rw [hone] at ht ⊢
    cases task with
    | zero =>
      cases ht
      exact ⟨rfl, rfl⟩
    | succ n => cases ht

theorem Once.not_subscribed {r : Replica} (h : Once r) {task : Nat} {attempt : Attempt}
    (ht : r.attempts[task]? = some attempt) (hother : attempt ≠ .subscribed) : r.isSubscribed = false := by
  obtain ⟨hone, _⟩ := h.slot ht
  cases hs : r.isSubscribed with
  | false => rfl
  | true =>
    rw [h.subscribed.mp hs] at hone
    cases hone
    exact absurd rfl hother

theorem Once.initialized {r : Replica} (h : Once r) {task : Nat} {attempt : Attempt}
    (ht : r.attempts[task]? = some attempt) : r.initialized = true := by
  rcases h.attempts with ⟨hnone, _⟩ | ⟨_, _, hyes⟩
  · rw [hnone] at ht
    cases ht
  · exact hyes

/-- A task of a process that is not subscribed goes on. -/
theorem Once.goes_on {r : Replica} (h : Once r) {task : Nat} {attempt next : Attempt}
    (ht : r.attempts[task]? = some attempt) (hold : attempt ≠ .subscribed) (hnew : next ≠ .subscribed) :
    Once { r with attempts := r.attempts.set task next } := by
  obtain ⟨hone, rfl⟩ := h.slot ht
  refine ⟨.inr ⟨next, ?_, h.initialized ht⟩, ?_, h.untold⟩
  · change r.attempts.set 0 next = [next]
    rw [hone]
    rfl
  · change r.isSubscribed = true ↔ r.attempts.set 0 next = [.subscribed]
    rw [h.not_subscribed ht hold, hone]
    simp [hnew]

theorem handle_some {r next : Replica} (h : r.handle rt parse = some next) :
    ∃ place text rest, r.scheduled = (place, text) :: rest ∧ next = { r with
      service := { handleUpdate rt r.service (parse text) with clock := r.service.clock + 1 }
      scheduled := rest
      agreed := match tells rt parse text with
        | some (id, _) => r.agreed.set id place
        | none => r.agreed } := by
  unfold Replica.handle at h
  split at h
  · cases h
  · rename_i place text rest hscheduled
    cases h
    exact ⟨place, text, rest, hscheduled, rfl⟩

theorem serve_some {r next : Replica} {e : Tenants.Event} (h : r.serve rt e = some next) :
    ∃ service, isMessage e = false ∧ Tenants.step rt r.service e = some service ∧ next = { r with
      service
      agreed := r.agreed.filter (fun entry =>
        decide (service.cache.lookup (some entry.1) = r.service.cache.lookup (some entry.1))) } := by
  unfold Replica.serve at h
  split at h
  · cases h
  · rename_i hcall
    obtain ⟨service, hstep, hnext⟩ := Option.map_eq_some_iff.mp h
    exact ⟨service, by simpa using hcall, hstep, hnext.symm⟩

theorem once_moved {channel : List String} {r next : Replica} (h : Once r) (hm : Moved rt parse channel r next) :
    Once next := by
  cases hm with
  | rested => exact h
  | initialized hnew =>
    have hnone : r.attempts = [] := by
      rcases h.attempts with ⟨hnone, _⟩ | ⟨_, _, hyes⟩
      · exact hnone
      · rw [hnew] at hyes
        cases hyes
    have hnot : r.isSubscribed = false := by
      cases hs : r.isSubscribed with
      | false => rfl
      | true =>
        have hone := h.subscribed.mp hs
        rw [hnone] at hone
        cases hone
    refine ⟨.inr ⟨.starting, ?_, rfl⟩, ?_, h.untold⟩
    · change r.attempts ++ [.starting] = [.starting]
      rw [hnone]
      rfl
    · change r.isSubscribed = true ↔ r.attempts ++ [.starting] = [.subscribed]
      rw [hnot, hnone]
      simp
  | attempted ht =>
    have hnot := h.not_subscribed ht nofun
    have hnext : (if r.isSubscribed then Attempt.subscribed else .subscribing none) ≠ .subscribed := by simp [hnot]
    exact h.goes_on ht nofun hnext
  | reached ht => exact h.goes_on ht nofun nofun
  | subscribed ht =>
    obtain ⟨hone, rfl⟩ := h.slot ht
    have hset : r.attempts.set 0 .subscribed = [.subscribed] := by
      rw [hone]
      rfl
    exact ⟨.inr ⟨.subscribed, hset, h.initialized ht⟩, ⟨fun _ => hset, fun _ => rfl⟩, fun hnot => nomatch hnot⟩
  | failed ht => exact h.goes_on ht nofun nofun
  | delivered hnext =>
    refine ⟨h.attempts, h.subscribed, fun hnot => ?_⟩
    rw [(h.untold hnot).1] at hnext
    cases hnext
  | lost hnext =>
    refine ⟨h.attempts, h.subscribed, fun hnot => ?_⟩
    rw [(h.untold hnot).1] at hnext
    cases hnext
  | handled hf =>
    obtain ⟨place, text, rest, hscheduled, rfl⟩ := handle_some hf
    refine ⟨h.attempts, h.subscribed, fun hnot => ?_⟩
    rw [(h.untold hnot).2.1] at hscheduled
    cases hscheduled
  | served hf =>
    obtain ⟨service, _, _, rfl⟩ := serve_some hf
    refine ⟨h.attempts, h.subscribed, fun hnot => ?_⟩
    obtain ⟨hnext, hscheduled, hagreed, hunsubscribing⟩ := h.untold hnot
    refine ⟨hnext, hscheduled, ?_, hunsubscribing⟩
    change r.agreed.filter _ = []
    rw [hagreed]
    rfl
  | disposing _ hsubscribed =>
    refine ⟨h.attempts, h.subscribed, fun hnot => ?_⟩
    rw [hsubscribed] at hnot
    cases hnot
  | disposed => exact ⟨h.attempts, h.subscribed, h.untold⟩
  | unsubscribed stopped hpos =>
    refine ⟨h.attempts, h.subscribed, fun hnot => ?_⟩
    have hzero := (h.untold hnot).2.2.2
    omega

theorem started_replicas {databases : List (List TenantDocument)} {r : Replica}
    (h : r ∈ (started databases).replicas) : ∃ database, r = { service := { database } } := by
  obtain ⟨database, _, he⟩ := List.mem_map.mp h
  exact ⟨database, he.symm⟩

theorem once_started {databases : List (List TenantDocument)} {r : Replica} (h : r ∈ (started databases).replicas) :
    Once r := by
  obtain ⟨database, rfl⟩ := started_replicas h
  exact ⟨.inl ⟨rfl, rfl⟩, by simp, fun _ => ⟨rfl, rfl, rfl, rfl⟩⟩

/-! ## What a process has of the channel -/

/-- What is still to be handled, or to be sent. -/
def Replica.ahead (r : Replica) (place : Nat) : Prop :=
  place ∈ r.scheduled.map Prod.fst ∨ ∀ next, r.next = some next → next ≤ place

structure Follows (rt : Runtime) (parse : String → Option TenantCacheUpdateMessage) (channel : List String)
    (r : Replica) : Prop where
  once : Once r
  reached : ∀ place, .subscribing (some place) ∈ r.attempts → place ≤ channel.length
  scheduled : ∀ message ∈ r.scheduled, channel[message.1]? = some message.2
  ordered : (r.scheduled.map Prod.fst).Pairwise (· < ·)
  next : ∀ next, r.next = some next → next ≤ channel.length ∧ ∀ message ∈ r.scheduled, message.1 < next
  agreed : ∀ id place, r.agreed.lookup id = some place →
    ∃ text said, channel[place]? = some text ∧ tells rt parse text = some (id, said) ∧
      r.service.cache.lookup (some id) = said
  gapless : r.missed = false → ∀ message ∈ r.scheduled, ∀ place, message.1 < place → r.ahead place
  latest : r.missed = false → ∀ id place, r.agreed.lookup id = some place →
    ∀ later text said, place < later → channel[later]? = some text → tells rt parse text = some (id, said) →
      r.ahead later

theorem follows_publish {channel : List String} {r : Replica} (text : String) (h : Follows rt parse channel r) :
    Follows rt parse (channel ++ [text]) r := by
  refine ⟨h.once, ?_, ?_, h.ordered, ?_, ?_, h.gapless, ?_⟩
  · intro place hm
    have hle := h.reached place hm
    simp
    omega
  · exact fun message hm => slot_append_left (h.scheduled message hm)
  · intro next hnext
    obtain ⟨hle, hbefore⟩ := h.next next hnext
    refine ⟨?_, hbefore⟩
    simp
    omega
  · intro id place hagreed
    obtain ⟨told, said, hplace, htells, hentry⟩ := h.agreed id place hagreed
    exact ⟨told, said, slot_append_left hplace, htells, hentry⟩
  · intro hmissed id place hagreed later told said hlt hlater htells
    rcases slot_of_append hlater with ⟨rfl, _⟩ | ⟨_, hold⟩
    · exact .inr (fun next hnext => (h.next next hnext).1)
    · exact h.latest hmissed id place hagreed later told said hlt hold htells

theorem ahead_deliver {r : Replica} {place k : Nat} {text : String} (hnext : r.next = some place) (h : r.ahead k) :
    (r.deliver (place, text)).ahead k := by
  rcases h with hscheduled | hnot
  · left
    simp [Replica.deliver] at hscheduled ⊢
    exact .inl hscheduled
  · have hle := hnot place hnext
    by_cases he : k = place
    · left
      simp [Replica.deliver, he]
    · right
      intro next hn
      cases hn
      omega

theorem follows_deliver {channel : List String} {r : Replica} {place : Nat} {text : String}
    (h : Follows rt parse channel r) (hnext : r.next = some place) (htext : channel[place]? = some text) :
    Follows rt parse channel (r.deliver (place, text)) := by
  obtain ⟨hlt, _⟩ := List.getElem?_eq_some_iff.mp htext
  have hbefore := (h.next place hnext).2
  have hmoved : Moved rt parse channel r (r.deliver (place, text)) := .delivered hnext htext
  refine ⟨once_moved h.once hmoved, h.reached, ?_, ?_, ?_, h.agreed, ?_, ?_⟩
  · intro message hm
    rcases List.mem_append.mp hm with hold | hnew
    · exact h.scheduled message hold
    · cases List.mem_singleton.mp hnew
      exact htext
  · change ((r.scheduled ++ [(place, text)]).map Prod.fst).Pairwise (· < ·)
    rw [List.map_append, List.pairwise_append]
    refine ⟨h.ordered, List.pairwise_singleton _ _, ?_⟩
    intro early hearly late hlate
    obtain ⟨message, hm, rfl⟩ := List.mem_map.mp hearly
    cases List.mem_singleton.mp hlate
    exact hbefore message hm
  · intro next hn
    cases hn
    refine ⟨hlt, fun message hm => ?_⟩
    rcases List.mem_append.mp hm with hold | hnew
    · exact Nat.lt_succ_of_lt (hbefore message hold)
    · cases List.mem_singleton.mp hnew
      exact Nat.lt_succ_self place
  · intro hmissed message hm k hk
    rcases List.mem_append.mp hm with hold | hnew
    · exact ahead_deliver hnext (h.gapless hmissed message hold k hk)
    · cases List.mem_singleton.mp hnew
      right
      intro next hn
      cases hn
      exact hk
  · intro hmissed id k hagreed later told said hk hlater htells
    exact ahead_deliver hnext (h.latest hmissed id k hagreed later told said hk hlater htells)

theorem handle_ahead {r : Replica} {service : Tenants.State} {agreed : Dict String Nat} {place k : Nat} {text : String}
    {rest : List (Nat × String)} (hscheduled : r.scheduled = (place, text) :: rest) (hne : k ≠ place) (h : r.ahead k) :
    Replica.ahead { r with service, scheduled := rest, agreed } k := by
  rcases h with hm | hnot
  · rw [hscheduled, List.map_cons] at hm
    rcases List.mem_cons.mp hm with he | hrest
    · exact absurd he hne
    · exact .inl hrest
  · exact .inr hnot

theorem follows_handle {channel : List String} {r next : Replica} (h : Follows rt parse channel r)
    (hf : r.handle rt parse = some next) : Follows rt parse channel next := by
  have hmoved : Moved rt parse channel r next := .handled hf
  have honce := once_moved h.once hmoved
  obtain ⟨place, text, rest, hscheduled, rfl⟩ := handle_some hf
  have hrest : ∀ message ∈ rest, message ∈ r.scheduled := by
    intro message hm
    rw [hscheduled]
    exact List.mem_cons_of_mem _ hm
  have hfirst : (place, text) ∈ r.scheduled := by
    rw [hscheduled]
    exact List.mem_cons_self
  have hordered := h.ordered
  rw [hscheduled, List.map_cons, List.pairwise_cons] at hordered
  -- an id is agreed on with this message, or was before and this message is about another
  have hcases : ∀ id k, (match tells rt parse text with
      | some (about, _) => r.agreed.set about place
      | none => r.agreed).lookup id = some k →
      k = place ∧ (∃ said, tells rt parse text = some (id, said) ∧
        (handleUpdate rt r.service (parse text)).cache.lookup (some id) = said) ∨
      r.agreed.lookup id = some k ∧ (∀ said, tells rt parse text ≠ some (id, said)) ∧
        (handleUpdate rt r.service (parse text)).cache.lookup (some id) = r.service.cache.lookup (some id) := by
    intro id k hk
    have htold := @handleUpdate_tells rt parse r.service text
    cases htells : tells rt parse text with
    | none =>
      rw [htells] at hk htold
      exact .inr ⟨hk, nofun, by rw [htold]⟩
    | some told =>
      obtain ⟨about, said⟩ := told
      rw [htells] at hk htold
      by_cases he : id = about
      · subst he
        rw [Dict.lookup_set_self] at hk
        cases hk
        exact .inl ⟨rfl, said, rfl, htold.1⟩
      · rw [Dict.lookup_set_of_ne he] at hk
        refine .inr ⟨hk, fun other hother => ?_, htold.2 id he⟩
        cases hother
        exact he rfl
  refine ⟨honce, h.reached, fun message hm => h.scheduled message (hrest message hm), hordered.2, ?_, ?_, ?_, ?_⟩
  · intro next hnext
    obtain ⟨hle, hbefore⟩ := h.next next hnext
    exact ⟨hle, fun message hm => hbefore message (hrest message hm)⟩
  · intro id k hk
    rcases hcases id k hk with ⟨rfl, said, htells, hentry⟩ | ⟨hold, _, hentry⟩
    · exact ⟨text, said, h.scheduled _ hfirst, htells, hentry⟩
    · obtain ⟨told, said, hplace, htells, hsaid⟩ := h.agreed id k hold
      exact ⟨told, said, hplace, htells, hentry.trans hsaid⟩
  · intro hmissed message hm k hk
    have hlt := hordered.1 _ (List.mem_map_of_mem hm)
    exact handle_ahead hscheduled (by omega) (h.gapless hmissed message (hrest message hm) k hk)
  · intro hmissed id k hk later told said hlt hlater htells
    rcases hcases id k hk with ⟨rfl, _⟩ | ⟨hold, hother, _⟩
    · exact handle_ahead hscheduled (by omega) (h.gapless hmissed _ hfirst later hlt)
    · refine handle_ahead hscheduled ?_ (h.latest hmissed id k hold later told said hlt hlater htells)
      rintro rfl
      rw [h.scheduled _ hfirst] at hlater
      cases hlater
      exact hother said htells

/-- What is agreed on after a call was so before, and its entry is the same. -/
theorem agreed_serve {agreed : Dict String Nat} {cache after : Cache} {id : String} {place : Nat}
    (h : (agreed.filter (fun entry =>
      decide (after.lookup (some entry.1) = cache.lookup (some entry.1)))).lookup id = some place) :
    agreed.lookup id = some place ∧ after.lookup (some id) = cache.lookup (some id) := by
  rw [lookup_filter_keys (fun id => decide (after.lookup (some id) = cache.lookup (some id)))] at h
  split at h
  · rename_i hsame
    exact ⟨h, of_decide_eq_true hsame⟩
  · cases h

theorem follows_serve {channel : List String} {r next : Replica} {e : Tenants.Event} (h : Follows rt parse channel r)
    (hf : r.serve rt e = some next) : Follows rt parse channel next := by
  have hmoved : Moved rt parse channel r next := .served hf
  have honce := once_moved h.once hmoved
  obtain ⟨service, _, _, rfl⟩ := serve_some hf
  refine ⟨honce, h.reached, h.scheduled, h.ordered, h.next, ?_, h.gapless, ?_⟩
  · intro id place hagreed
    obtain ⟨hold, hsame⟩ := agreed_serve hagreed
    obtain ⟨text, said, hplace, htells, hentry⟩ := h.agreed id place hold
    exact ⟨text, said, hplace, htells, hsame.trans hentry⟩
  · intro hmissed id place hagreed
    exact h.latest hmissed id place (agreed_serve hagreed).1

/-- A task that goes on changes nothing else, where it keeps to the places there are. -/
theorem follows_attempts {channel : List String} {r : Replica} {attempts : List Attempt}
    {initialized : Bool} (h : Follows rt parse channel r) (honce : Once { r with attempts, initialized })
    (hreached : ∀ place, .subscribing (some place) ∈ attempts →
      .subscribing (some place) ∈ r.attempts ∨ place = channel.length) :
    Follows rt parse channel { r with attempts, initialized } := by
  refine ⟨honce, ?_, h.scheduled, h.ordered, h.next, h.agreed, h.gapless, h.latest⟩
  intro place hm
  rcases hreached place hm with hold | rfl
  · exact h.reached place hold
  · exact Nat.le_refl _

theorem mem_set_attempt {attempts : List Attempt} {task place : Nat} {next : Attempt}
    (hm : .subscribing (some place) ∈ attempts.set task next) :
    .subscribing (some place) ∈ attempts ∨ next = .subscribing (some place) := by
  rcases List.mem_or_eq_of_mem_set hm with hold | hnew
  · exact .inl hold
  · exact .inr hnew.symm

theorem follows_moved {channel : List String} {r next : Replica} (h : Follows rt parse channel r)
    (hm : Moved rt parse channel r next) : Follows rt parse channel next := by
  have honce := once_moved h.once hm
  cases hm with
  | rested => exact h
  | initialized =>
    refine follows_attempts h honce (fun place hplace => ?_)
    rcases List.mem_append.mp hplace with hold | hnew
    · exact .inl hold
    · cases List.mem_singleton.mp hnew
  | attempted ht =>
    refine follows_attempts h honce (fun place hplace => ?_)
    rcases mem_set_attempt hplace with hold | hnew
    · exact .inl hold
    · split at hnew <;> cases hnew
  | reached ht =>
    refine follows_attempts h honce (fun place hplace => ?_)
    rcases mem_set_attempt hplace with hold | hnew
    · exact .inl hold
    · cases hnew
      exact .inr rfl
  | failed ht =>
    refine follows_attempts h honce (fun place hplace => ?_)
    rcases mem_set_attempt hplace with hold | hnew
    · exact .inl hold
    · cases hnew
  | subscribed ht =>
    obtain ⟨_, hscheduled, hagreed, _⟩ := h.once.untold (h.once.not_subscribed ht nofun)
    have hle := h.reached _ (List.mem_of_getElem? ht)
    refine ⟨honce, ?_, h.scheduled, h.ordered, ?_, h.agreed, ?_, ?_⟩
    · intro place hplace
      rcases mem_set_attempt hplace with hold | hnew
      · exact h.reached place hold
      · cases hnew
    · intro next hn
      cases hn
      refine ⟨hle, fun message hm => ?_⟩
      rw [hscheduled] at hm
      cases hm
    · intro _ message hm
      change message ∈ r.scheduled at hm
      rw [hscheduled] at hm
      cases hm
    · intro _ id k hk
      change r.agreed.lookup id = some k at hk
      rw [hagreed] at hk
      cases hk
  | delivered hnext htext => exact follows_deliver h hnext htext
  | lost hnext htext =>
    obtain ⟨hlt, _⟩ := List.getElem?_eq_some_iff.mp htext
    have hbefore := (h.next _ hnext).2
    refine ⟨honce, h.reached, h.scheduled, h.ordered, ?_, h.agreed, nofun, nofun⟩
    intro next hn
    cases hn
    exact ⟨hlt, fun message hm => Nat.lt_succ_of_lt (hbefore message hm)⟩
  | handled hf => exact follows_handle h hf
  | served hf => exact follows_serve h hf
  | disposing => exact ⟨honce, h.reached, h.scheduled, h.ordered, h.next, h.agreed, h.gapless, h.latest⟩
  | disposed => exact ⟨honce, h.reached, h.scheduled, h.ordered, h.next, h.agreed, h.gapless, h.latest⟩
  | unsubscribed stopped =>
    cases stopped with
    | false => exact ⟨honce, h.reached, h.scheduled, h.ordered, h.next, h.agreed, h.gapless, h.latest⟩
    | true =>
      exact ⟨honce, h.reached, h.scheduled, h.ordered, nofun, h.agreed, fun _ _ _ _ _ => .inr nofun,
        fun _ _ _ _ _ _ _ _ _ _ => .inr nofun⟩

theorem follows_started {databases : List (List TenantDocument)} {r : Replica} (h : r ∈ (started databases).replicas) :
    Follows rt parse (started databases).channel r := by
  have honce := once_started h
  obtain ⟨database, rfl⟩ := started_replicas h
  exact ⟨honce, nofun, nofun, List.Pairwise.nil, nofun, nofun, nofun, nofun⟩

/-- What a publisher sends tells what the update it was given leaves. -/
theorem tells_updateTenantVersion {dump : TenantCacheUpdateMessage → String} {update : TenantCacheUpdateMessage}
    {text : String} (hl : Lowers rt.lower)
    (hjson : ∀ sent, normalizeCacheUpdate rt update = some sent → parse (dump sent) = some sent)
    (h : updateTenantVersion rt dump update = some text) :
    tells rt parse text = (namedEntry rt update).map (fun id => (id, content rt update)) := by
  obtain ⟨normalized, hnormalized, rfl⟩ := Option.map_eq_some_iff.mp h
  have haction := updateAction_normalized hl hnormalized
  have hcontent : content rt normalized = content rt update := by
    unfold content
    rw [haction]
    obtain ⟨_, _, rfl⟩ := normalizeCacheUpdate_some hnormalized
    rfl
  unfold tells
  rw [hjson normalized hnormalized, Option.bind_some, normalizeCacheUpdate_normalized hl hnormalized,
    Option.bind_some, updateTarget_normalized hl hnormalized, hcontent]

/-! ## Every run -/

/-- A process that lost nothing, was sent all there is and has handled it. -/
def Replica.caughtUp (r : Replica) (channel : List String) : Prop :=
  r.missed = false ∧ r.next = some channel.length ∧ r.scheduled = []

theorem Follows.last {channel : List String} {r : Replica} (h : Follows rt parse channel r) (hup : r.caughtUp channel)
    {id text : String} {place later : Nat} {said : Option Copy} (hagreed : r.agreed.lookup id = some place)
    (hlater : channel[later]? = some text) (htells : tells rt parse text = some (id, said)) : later ≤ place := by
  obtain ⟨hmissed, hnext, hscheduled⟩ := hup
  apply Nat.le_of_not_lt
  intro hlt
  obtain ⟨hbound, _⟩ := List.getElem?_eq_some_iff.mp hlater
  rcases h.latest hmissed id place hagreed later text said hlt hlater htells with hm | hnot
  · rw [hscheduled] at hm
    cases hm
  · have hle := hnot _ hnext
    omega

/-- In every state a run reaches, whatever is lost and whatever the calls load: a process whose calls have left an
entry alone since it handled the last message about it has the entry that message tells, and two processes that have
handled all there is have the same one. What a publisher sends tells the entry its update names, and what it leaves
there. -/
theorem replicas_agree {databases : List (List TenantDocument)} {events : List Event} {s : State}
    (hl : Lowers rt.lower) (h : Run (step rt parse) (fun _ _ => True) (started databases) events s) :
    (∀ r ∈ s.replicas, ∀ id place, r.agreed.lookup id = some place →
      ∃ text said, s.channel[place]? = some text ∧ tells rt parse text = some (id, said) ∧
        r.service.cache.lookup (some id) = said) ∧
    (∀ a ∈ s.replicas, ∀ b ∈ s.replicas, a.caughtUp s.channel → b.caughtUp s.channel → ∀ id p q,
      a.agreed.lookup id = some p → b.agreed.lookup id = some q →
        p = q ∧ a.service.cache.lookup (some id) = b.service.cache.lookup (some id)) ∧
    ∀ dump update text, (∀ sent, normalizeCacheUpdate rt update = some sent → parse (dump sent) = some sent) →
      updateTenantVersion rt dump update = some text →
        tells rt parse text = (namedEntry rt update).map (fun id => (id, content rt update)) := by
  have hfollows : ∀ r ∈ s.replicas, Follows rt parse s.channel r :=
    Replicas.invariant h (fun r hr => follows_started hr) (fun text hr => follows_publish text hr) follows_moved
  refine ⟨fun r hr => (hfollows r hr).agreed, ?_, fun dump update text hjson => tells_updateTenantVersion hl hjson⟩
  intro a ha b hb hupa hupb id p q hp hq
  obtain ⟨ta, sa, hta, htellsa, hea⟩ := (hfollows a ha).agreed id p hp
  obtain ⟨tb, sb, htb, htellsb, heb⟩ := (hfollows b hb).agreed id q hq
  have hqp : q ≤ p := (hfollows a ha).last hupa hp htb htellsb
  have hpq : p ≤ q := (hfollows b hb).last hupb hq hta htellsa
  have hplaces : p = q := Nat.le_antisymm hpq hqp
  subst hplaces
  rw [hta] at htb
  cases htb
  rw [htellsa] at htellsb
  cases htellsb
  exact ⟨rfl, hea.trans heb.symm⟩

def upsert : TenantCacheUpdateMessage := { tenant := some acme, tenantId := some "acme" }

def upsertJson : String := "\x7b\"Tenant\":\x7b\"TenantId\":\"acme\"\x7d,\"TenantId\":\"acme\"\x7d"

def parseUpsert (text : String) : Option TenantCacheUpdateMessage := if text = upsertJson then some upsert else none

/-- Two processes without any document handle the same message, one after the other. -/
theorem replicas_agree_acme :
    ∃ s, Run (step asciiRuntime parseUpsert) (fun _ _ => True) (started [[], []])
        [.initializeTenantService 0, .attempt 0 0, .reached 0 0, .initializeTenantService 1, .attempt 1 0, .reached 1 0,
          .answered 1 0 true, .answered 0 0 true, .publish upsertJson, .deliver 0, .handle 0, .deliver 1, .handle 1] s ∧
      s.replicas.map (fun r => r.service.cache.lookup (some "acme")) = [some ⟨acme, none⟩, some ⟨acme, none⟩] ∧
      ∃ a ∈ s.replicas, ∃ b ∈ s.replicas,
        a.service.cache.lookup (some "acme") = b.service.cache.lookup (some "acme") := by
  have hran : ∃ s, Run (step asciiRuntime parseUpsert) (fun _ _ => True) (started [[], []])
      [.initializeTenantService 0, .attempt 0 0, .reached 0 0, .initializeTenantService 1, .attempt 1 0, .reached 1 0,
        .answered 1 0 true, .answered 0 0 true, .publish upsertJson, .deliver 0, .handle 0, .deliver 1, .handle 1] s ∧
      s.replicas.map (fun r => r.service.cache.lookup (some "acme")) = [some ⟨acme, none⟩, some ⟨acme, none⟩] ∧
      ∃ a b, s.replicas = [a, b] ∧ a.caughtUp s.channel ∧ b.caughtUp s.channel ∧
        a.agreed.lookup "acme" = some 0 ∧ b.agreed.lookup "acme" = some 0 :=
    ⟨_, Run.of_exec (fun _ _ _ => trivial) rfl, rfl, _, _, rfl, ⟨rfl, rfl, rfl⟩, ⟨rfl, rfl, rfl⟩, rfl, rfl⟩
  obtain ⟨s, hrun, hcaches, a, b, hreplicas, hupa, hupb, hp, hq⟩ := hran
  have ha : a ∈ s.replicas := by
    rw [hreplicas]
    exact List.mem_cons_self
  have hb : b ∈ s.replicas := by
    rw [hreplicas]
    exact List.mem_cons_of_mem _ List.mem_cons_self
  exact ⟨s, hrun, hcaches, a, ha, b, hb,
    ((replicas_agree asciiRuntime_lowers hrun).2.1 a ha b hb hupa hupb "acme" 0 0 hp hq).2⟩

/-- What a process never leaves again: a failed or a finished subscription, and a release that has ended. -/
structure Lasts (r r' : Replica) : Prop where
  once : Once r'
  failed : r.attempts = [.failed] → r'.attempts = [.failed]
  subscribed : r.attempts = [.subscribed] → r'.attempts = [.subscribed]
  released : r.disposed = true → r.unsubscribing = 0 → r'.disposed = true ∧ r'.unsubscribing = 0
  sent : r.disposed = true → r.unsubscribing = 0 → ∀ n, r.next = some n → ∃ m, r'.next = some m ∧ n ≤ m

/-- A task that is at its end is not set again. -/
theorem lasts_set {first r : Replica} {task : Nat} {attempt next : Attempt} (h : Lasts first r)
    (ht : r.attempts[task]? = some attempt) (hopen : attempt ≠ .failed ∧ attempt ≠ .subscribed) :
    (first.attempts = [.failed] → r.attempts.set task next = [.failed]) ∧
    (first.attempts = [.subscribed] → r.attempts.set task next = [.subscribed]) := by
  obtain ⟨hone, _⟩ := h.once.slot ht
  constructor
  · intro hfirst
    rw [h.failed hfirst] at hone
    cases hone
    exact absurd rfl hopen.1
  · intro hfirst
    rw [h.subscribed hfirst] at hone
    cases hone
    exact absurd rfl hopen.2

theorem lasts_moved {channel : List String} {first r next : Replica} (h : Lasts first r)
    (hm : Moved rt parse channel r next) : Lasts first next := by
  have honce := once_moved h.once hm
  cases hm with
  | rested => exact h
  | initialized hnew =>
    have hnone : r.attempts = [] := by
      rcases h.once.attempts with ⟨hnone, _⟩ | ⟨_, _, hyes⟩
      · exact hnone
      · rw [hnew] at hyes
        cases hyes
    refine ⟨honce, fun hfirst => ?_, fun hfirst => ?_, h.released, h.sent⟩
    · have hlast := h.failed hfirst
      rw [hnone] at hlast
      cases hlast
    · have hlast := h.subscribed hfirst
      rw [hnone] at hlast
      cases hlast
  | attempted ht =>
    obtain ⟨hfailed, hsubscribed⟩ := lasts_set h ht ⟨nofun, nofun⟩
    exact ⟨honce, hfailed, hsubscribed, h.released, h.sent⟩
  | reached ht =>
    obtain ⟨hfailed, hsubscribed⟩ := lasts_set h ht ⟨nofun, nofun⟩
    exact ⟨honce, hfailed, hsubscribed, h.released, h.sent⟩
  | failed ht =>
    obtain ⟨hfailed, hsubscribed⟩ := lasts_set h ht ⟨nofun, nofun⟩
    exact ⟨honce, hfailed, hsubscribed, h.released, h.sent⟩
  | subscribed ht =>
    obtain ⟨hfailed, hsubscribed⟩ := lasts_set h ht ⟨nofun, nofun⟩
    refine ⟨honce, hfailed, hsubscribed, h.released, fun hdisposed hzero n hn => ?_⟩
    obtain ⟨m, hm, _⟩ := h.sent hdisposed hzero n hn
    rw [(h.once.untold (h.once.not_subscribed ht nofun)).1] at hm
    cases hm
  | delivered hnext =>
    refine ⟨honce, h.failed, h.subscribed, h.released, fun hdisposed hzero n hn => ?_⟩
    obtain ⟨m, hm, hle⟩ := h.sent hdisposed hzero n hn
    rw [hnext] at hm
    cases hm
    exact ⟨_, rfl, Nat.le_succ_of_le hle⟩
  | lost hnext =>
    refine ⟨honce, h.failed, h.subscribed, h.released, fun hdisposed hzero n hn => ?_⟩
    obtain ⟨m, hm, hle⟩ := h.sent hdisposed hzero n hn
    rw [hnext] at hm
    cases hm
    exact ⟨_, rfl, Nat.le_succ_of_le hle⟩
  | handled hf =>
    obtain ⟨_, _, _, _, rfl⟩ := handle_some hf
    exact ⟨honce, h.failed, h.subscribed, h.released, h.sent⟩
  | served hf =>
    obtain ⟨_, _, _, rfl⟩ := serve_some hf
    exact ⟨honce, h.failed, h.subscribed, h.released, h.sent⟩
  | disposing hnew =>
    refine ⟨honce, h.failed, h.subscribed, fun hdisposed hzero => ?_, h.sent⟩
    rw [(h.released hdisposed hzero).1] at hnew
    cases hnew
  | disposed hnew => exact ⟨honce, h.failed, h.subscribed, fun hd hz => ⟨rfl, (h.released hd hz).2⟩, h.sent⟩
  | unsubscribed stopped hpos =>
    refine ⟨honce, h.failed, h.subscribed, fun hd hz => ?_, fun hd hz => ?_⟩
    · have hzero := (h.released hd hz).2
      omega
    · have hzero := (h.released hd hz).2
      omega

/-- In every run each process subscribes at most once: a subscription that failed is never tried again, and the
process is told of nothing from then on; and where a process is disposed of before it is subscribed, nothing ever
unsubscribes it, and the messages go on. -/
theorem subscribed_once {databases : List (List TenantDocument)} {events later : List Event} {s s' : State} {i : Nat}
    {r : Replica} (h : Run (step rt parse) (fun _ _ => True) (started databases) events s)
    (hi : s.replicas[i]? = some r) (hlater : Run (step rt parse) (fun _ _ => True) s later s') :
    r.attempts.length ≤ 1 ∧ (r.isSubscribed = true ↔ r.attempts = [.subscribed]) ∧
    ∃ r', s'.replicas[i]? = some r' ∧
      (r.attempts = [.failed] →
        r'.isSubscribed = false ∧ r'.next = none ∧ r'.scheduled = [] ∧ r'.agreed = [] ∧ r'.attempts = [.failed]) ∧
      (r.attempts = [.subscribed] → r'.attempts = [.subscribed]) ∧
      (r.disposed = true → r.unsubscribing = 0 →
        r'.unsubscribing = 0 ∧ ∀ n, r.next = some n → ∃ m, r'.next = some m ∧ n ≤ m) := by
  have honce : Once r := by
    have hall := @Replicas.invariant rt parse (fun _ r => Once r) _ _ _ h (fun r hr => once_started hr)
      (fun _ hr => hr) once_moved
    exact hall r (List.mem_of_getElem? hi)
  have hlength : r.attempts.length ≤ 1 := by
    rcases honce.attempts with ⟨hnone, _⟩ | ⟨_, hone, _⟩
    · simp [hnone]
    · simp [hone]
  have hstart : Lasts r r := ⟨honce, id, id, fun hd hz => ⟨hd, hz⟩, fun _ _ n hn => ⟨n, hn, Nat.le_refl n⟩⟩
  obtain ⟨r', hi', hlasts⟩ := Replica.invariant hlater hi hstart lasts_moved
  refine ⟨hlength, honce.subscribed, r', hi', fun hfailed => ?_, hlasts.subscribed, fun hd hz =>
    ⟨(hlasts.released hd hz).2, hlasts.sent hd hz⟩⟩
  have hlasting := hlasts.failed hfailed
  have hnot : r'.isSubscribed = false := by
    cases hs : r'.isSubscribed with
    | false => rfl
    | true =>
      rw [hlasts.once.subscribed.mp hs] at hlasting
      cases hlasting
  obtain ⟨hnext, hscheduled, hagreed, _⟩ := hlasts.once.untold hnot
  exact ⟨hnot, hnext, hscheduled, hagreed, hlasting⟩

/-- A process is disposed of while it subscribes; disposing of it again does not end the messages either. -/
theorem subscribed_once_disposed :
    ∃ s s' r r', Run (step asciiRuntime parseUpsert) (fun _ _ => True) (started [[]])
        [.initializeTenantService 0, .attempt 0 0, .dispose 0, .reached 0 0, .answered 0 0 true] s ∧
      Run (step asciiRuntime parseUpsert) (fun _ _ => True) s [.dispose 0, .publish upsertJson, .deliver 0] s' ∧
      s.replicas[0]? = some r ∧ r.disposed = true ∧ s'.replicas[0]? = some r' ∧ r'.unsubscribing = 0 ∧
      ∃ m, r'.next = some m := by
  have hran : ∃ s s' r, Run (step asciiRuntime parseUpsert) (fun _ _ => True) (started [[]])
        [.initializeTenantService 0, .attempt 0 0, .dispose 0, .reached 0 0, .answered 0 0 true] s ∧
      Run (step asciiRuntime parseUpsert) (fun _ _ => True) s [.dispose 0, .publish upsertJson, .deliver 0] s' ∧
      s.replicas[0]? = some r ∧ r.disposed = true ∧ r.unsubscribing = 0 ∧ r.next = some 0 :=
    ⟨_, _, _, Run.of_exec (fun _ _ _ => trivial) rfl, Run.of_exec (fun _ _ _ => trivial) rfl, rfl, rfl, rfl, rfl⟩
  obtain ⟨s, s', r, hrun, hlater, hi, hdisposed, hzero, hnext⟩ := hran
  obtain ⟨_, _, r', hi', _, _, hreleased⟩ := subscribed_once hrun hi hlater
  obtain ⟨hnever, hsent⟩ := hreleased hdisposed hzero
  obtain ⟨m, hm, _⟩ := hsent 0 hnext
  exact ⟨s, s', r, r', hrun, hlater, hi, hdisposed, hi', hnever, m, hm⟩

end Steps

end BlocksGenesis.Tenants.Broadcast
