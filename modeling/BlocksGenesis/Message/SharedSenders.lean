import BlocksGenesis.Machine.Run
import BlocksGenesis.Machine.Slots
import BlocksGenesis.Message.AzureMessageClient

/-! No two calls are inside one sender, and no sender that was told to close is sent on. -/

namespace BlocksGenesis.Message.AzureMessageClient
open Python Asyncio Function

/-! ## What holds of each call -/

def Call.stance (call : Call) : Option (String × Stance) :=
  match call.progress with
  | .waiting => some (call.name, .waits)
  | .sending _ | .closing _ | .resending _ => some (call.name, .holds)
  | _ => none

def State.stance (s : State) : Nat → Option (String × Stance) := fun i => (s.calls[i]?).bind Call.stance

/-- The counts go with how far the call is; it has returned if an attempt has, and raised if none did. -/
inductive Counted : Call → Prop where
  | preparing {name} : Counted ⟨name, .preparing, 0, 0, false⟩
  | waiting {name} : Counted ⟨name, .waiting, 0, 0, false⟩
  | sending {name sender} : Counted ⟨name, .sending sender, 1, 0, false⟩
  | closing {name sender} : Counted ⟨name, .closing sender, 1, 1, false⟩
  | resending {name sender} : Counted ⟨name, .resending sender, 2, 1, false⟩
  | succeeded {name attempts rebuilds} : attempts ≤ 2 → rebuilds ≤ 1 →
      Counted ⟨name, .returned (.ok true), attempts, rebuilds, true⟩
  | raised {name attempts rebuilds e} : attempts ≤ 2 → rebuilds ≤ 1 →
      Counted ⟨name, .returned (.error e), attempts, rebuilds, false⟩

/-- A call sends on the sender its destination has in the map, and closes one of its destination. -/
def AtSender (queues : List String) (s : State) (call : Call) : Prop :=
  match call.progress with
  | .sending sender | .resending sender => s.senders.lookup call.name = some sender
  | .closing sender => s.objects[sender]? = some (buildSender queues call.name)
  | _ => True

/-- The senders of the map are of their destinations' kind, and none of them was told to close. -/
structure Stocked (queues : List String) (s : State) : Prop where
  named : ∀ entry ∈ s.senders, s.objects[entry.2]? = some (buildSender queues entry.1) ∧ entry.2 ∉ s.closed
  built : ∀ sender ∈ s.closed, sender < s.objects.length

/-- Every run keeps this. -/
structure Kept (queues : List String) (s : State) : Prop where
  stocked : Stocked queues s
  standing : Standing s.locks s.stance
  calls : ∀ (i : Nat) (call : Call), s.calls[i]? = some call → Counted call ∧ AtSender queues s call

section Steps
variable {queues : List String} {s next : State} {i sender : Nat} {name : String} {call new : Call}
  {built : Except Exc Unit}

theorem stance_setCall (hi : s.calls[i]? = some call) : (s.setCall i new).stance = update s.stance i new.stance :=
  Machine.shown_set Call.stance hi

theorem stance_at (hi : s.calls[i]? = some call) : s.stance i = call.stance := by
  rw [State.stance, hi]
  rfl

/-! ## The map of senders -/

theorem Stocked.build (h : Stocked queues s) (name : String) : Stocked queues (s.build queues name) where
  named entry hm := by
    rcases Dict.mem_set hm with rfl | ⟨hold, _⟩
    · refine ⟨List.getElem?_concat_length, fun hclosed => ?_⟩
      exact Nat.lt_irrefl _ (h.built _ hclosed)
    · obtain ⟨hnamed, hopen⟩ := h.named entry hold
      exact ⟨Machine.slot_append_left hnamed, hopen⟩
  built sender hm := by
    have hlt := h.built sender hm
    rw [State.build, List.length_append]
    exact Nat.lt_add_right _ hlt

/-- What getting a sender does: one is there for the destination, and nothing changes for the others. -/
structure Got (s next : State) (name : String) (sender : Nat) : Prop where
  here : next.senders.lookup name = some sender
  others : ∀ other, other ≠ name → next.senders.lookup other = s.senders.lookup other
  objects : ∀ (x : Nat) (object : Sender), s.objects[x]? = some object → next.objects[x]? = some object
  locks : next.locks = s.locks
  calls : next.calls = s.calls

theorem getSender_got (h : getSender queues s name built = .ok (next, sender)) (hs : Stocked queues s) :
    Got s next name sender ∧ Stocked queues next := by
  unfold getSender at h
  split at h
  · rename_i found hfound
    cases h
    exact ⟨⟨hfound, fun _ _ => rfl, fun _ _ hx => hx, rfl, rfl⟩, hs⟩
  · split at h
    · cases h
    · cases h
      refine ⟨⟨Dict.lookup_set_self, fun _ hne => Dict.lookup_set_of_ne hne, fun _ _ hx => ?_, rfl, rfl⟩, hs.build name⟩
      exact Machine.slot_append_left hx

/-- A call stays at its sender while another destination's sender is changed. -/
theorem AtSender.kept (h : AtSender queues s call)
    (hsenders : call.stance = some (call.name, .holds) → next.senders.lookup call.name = s.senders.lookup call.name)
    (hobjects : ∀ (x : Nat) (object : Sender), s.objects[x]? = some object → next.objects[x]? = some object) :
    AtSender queues next call := by
  obtain ⟨name, progress, attempts, rebuilds, delivered⟩ := call
  cases progress with
  | sending sender => exact (hsenders rfl).trans h
  | resending sender => exact (hsenders rfl).trans h
  | closing sender => exact hobjects sender _ h
  | preparing | waiting | returned => trivial

/-! ## One call moves -/

/-- All is kept but for one call, which holds the lock of its destination. -/
structure Holding (queues : List String) (s : State) (i : Nat) (call : Call) : Prop where
  stocked : Stocked queues s
  standing : Standing s.locks (update s.stance i (some (call.name, .holds)))
  others : ∀ (j : Nat) (other : Call), j ≠ i → s.calls[j]? = some other → Counted other ∧ AtSender queues s other
  there : ∃ old, s.calls[i]? = some old

/-- Whoever else holds a lock holds another one. -/
theorem Holding.apart {j : Nat} {other : Call} (h : Holding queues s i call) (hj : j ≠ i)
    (hother : s.calls[j]? = some other) (hholds : other.stance = some (other.name, .holds)) :
    other.name ≠ call.name := by
  intro he
  have hthere : update s.stance i (some (call.name, .holds)) j = some (call.name, .holds) := by
    rw [update_of_ne hj, stance_at hother, hholds, he]
  exact hj (h.standing.exclusive hthere (update_self ..))

theorem Holding.setCall (h : Holding queues s i call) (hname : new.name = call.name)
    (hstance : new.stance = some (new.name, .holds)) (hnew : Counted new ∧ AtSender queues s new) :
    Kept queues (s.setCall i new) where
  stocked := ⟨h.stocked.named, h.stocked.built⟩
  standing := by
    obtain ⟨old, hi⟩ := h.there
    rw [stance_setCall hi, hstance, hname]
    exact h.standing
  calls j other hj := by
    rcases Machine.slot_of_set hj with ⟨_, rfl⟩ | ⟨hne, hold⟩
    · exact hnew
    · exact h.others j other hne hold

theorem Holding.leave (h : Holding queues s i call) (hname : new.name = call.name) (hstance : new.stance = none)
    (hnew : Counted new) (hat : ∀ s, AtSender queues s new) : Kept queues (s.leave i new) where
  stocked := ⟨h.stocked.named, h.stocked.built⟩
  standing := by
    obtain ⟨old, hi⟩ := h.there
    have hself : update s.stance i (some (call.name, .holds)) i = some (call.name, .holds) := update_self ..
    have hleft := h.standing.release hself
    rw [update_idem, ← hstance, ← stance_setCall hi, ← hname] at hleft
    exact hleft
  calls j other hj := by
    rcases Machine.slot_of_set hj with ⟨_, rfl⟩ | ⟨hne, hold⟩
    · exact ⟨hnew, hat _⟩
    · exact h.others j other hne hold

theorem Holding.raises {e : Exc} (h : Holding queues s i call) (hcount : call.attempts ≤ 2 ∧ call.rebuilds ≤ 1)
    (hopen : call.delivered = false) : Kept queues (s.leave i (call.raises e)) := by
  refine h.leave rfl rfl ?_ (fun _ => trivial)
  obtain ⟨name, progress, attempts, rebuilds, delivered⟩ := call
  cases hopen
  exact .raised hcount.1 hcount.2

theorem Holding.succeeds (h : Holding queues s i call) (hcount : call.attempts ≤ 2 ∧ call.rebuilds ≤ 1)
    (hopen : call.delivered = false) : Kept queues (s.leave i (call.attempted .returned).succeeds) := by
  refine h.leave rfl rfl ?_ (fun _ => trivial)
  obtain ⟨name, progress, attempts, rebuilds, delivered⟩ := call
  cases hopen
  exact .succeeded hcount.1 hcount.2

/-- A sender is there or is built, and nobody else comes into it. -/
theorem Holding.got (h : Holding queues s i call)
    (hgot : Got s next call.name sender) (hstocked : Stocked queues next) : Holding queues next i call where
  stocked := hstocked
  standing := by
    have hstance : next.stance = s.stance := by
      unfold State.stance
      rw [hgot.calls]
    rw [hgot.locks, hstance]
    exact h.standing
  others j other hj hother := by
    rw [hgot.calls] at hother
    obtain ⟨hcounted, hat⟩ := h.others j other hj hother
    refine ⟨hcounted, hat.kept (fun hholds => ?_) hgot.objects⟩
    exact hgot.others _ (h.apart hj hother hholds)
  there := by
    rw [hgot.calls]
    exact h.there

/-- A first or second attempt. -/
theorem Holding.attempt {inside : Nat → Progress} (h : Holding queues s i call) (hopen : call.delivered = false)
    (hinside : inside = .sending ∧ call.attempts = 0 ∧ call.rebuilds = 0 ∨
      inside = .resending ∧ call.attempts = 1 ∧ call.rebuilds = 1) :
    Kept queues (attempt queues s i call inside built) := by
  unfold AzureMessageClient.attempt
  split
  · refine h.raises ?_ hopen
    omega
  · rename_i next sender hget
    obtain ⟨hgot, hstocked⟩ := getSender_got hget h.stocked
    have hthere := hgot.here
    obtain ⟨name, progress, attempts, rebuilds, delivered⟩ := call
    dsimp only at hinside hopen
    subst hopen
    rcases hinside with ⟨rfl, rfl, rfl⟩ | ⟨rfl, rfl, rfl⟩
    · exact (h.got hgot hstocked).setCall rfl rfl ⟨.sending, hthere⟩
    · exact (h.got hgot hstocked).setCall rfl rfl ⟨.resending, hthere⟩

/-- The failed sender leaves the map, and nothing that is in the map is closed. -/
theorem Stocked.close (h : Stocked queues s) (hstale : s.senders.lookup name = some sender) :
    Stocked queues { s with senders := s.senders.pop name, closed := sender :: s.closed } where
  named entry hm := by
    obtain ⟨hold, hne⟩ := Dict.mem_pop.mp hm
    obtain ⟨hnamed, hopen⟩ := h.named entry hold
    refine ⟨hnamed, fun hclosed => ?_⟩
    rcases List.mem_cons.mp hclosed with he | hclosed
    · have hsame := (h.named _ (Dict.mem_of_lookup hstale)).1
      rw [he, hsame] at hnamed
      exact hne (congrArg Sender.name (Option.some.inj hnamed)).symm
    · exact hopen hclosed
  built x hm := by
    rcases List.mem_cons.mp hm with rfl | hm
    · obtain ⟨hlt, _⟩ := List.getElem?_eq_some_iff.mp (h.named _ (Dict.mem_of_lookup hstale)).1
      exact hlt
    · exact h.built x hm

/-- The stale sender is popped by the one call that may, and is closed before the fresh one is sent on. -/
theorem Holding.replaceSender (h : Holding queues s i call) (hopen : call.delivered = false)
    (hcount : call.attempts = 1 ∧ call.rebuilds = 0) : Kept queues (replaceSender queues s i call built) := by
  unfold AzureMessageClient.replaceSender
  split
  · rename_i stale hstale
    have hobject := (h.stocked.named _ (Dict.mem_of_lookup hstale)).1
    have hclosing : Holding queues { s with senders := s.senders.pop call.name, closed := stale :: s.closed } i call := by
      refine ⟨h.stocked.close hstale, h.standing, fun j other hj hother => ?_, h.there⟩
      obtain ⟨hcounted, hat⟩ := h.others j other hj hother
      refine ⟨hcounted, hat.kept (fun hholds => ?_) (fun _ _ hx => hx)⟩
      exact Dict.lookup_pop_of_ne (h.apart hj hother hholds)
    obtain ⟨name, progress, attempts, rebuilds, delivered⟩ := call
    dsimp only at hopen hcount
    obtain ⟨rfl, rfl⟩ := hcount
    subst hopen
    exact hclosing.setCall rfl rfl ⟨.closing, hobject⟩
  · have hrebuilt : Holding queues s i { call with rebuilds := call.rebuilds + 1 } :=
      ⟨h.stocked, h.standing, h.others, h.there⟩
    refine hrebuilt.attempt hopen (.inr ⟨rfl, hcount.1, ?_⟩)
    rw [hcount.2]

/-! ## Every step -/

/-- A call that is inside a sender holds the lock of its destination. -/
theorem Kept.holding (h : Kept queues s) (hi : s.calls[i]? = some call)
    (hholds : call.stance = some (call.name, .holds)) : Holding queues s i call where
  stocked := h.stocked
  standing := by
    rw [← hholds, ← stance_at hi, update_eq_self]
    exact h.standing
  others j other _ hother := h.calls j other hother
  there := ⟨call, hi⟩

/-- One that is at no lock, or leaves the queue of one, may go anywhere where it is at none. -/
theorem Kept.setCall (h : Kept queues s) (locks : String → Lock)
    (hstanding : Standing locks (s.setCall i new).stance) (hnew : Counted new) (hat : ∀ s, AtSender queues s new) :
    Kept queues ({ s with locks }.setCall i new) where
  stocked := ⟨h.stocked.named, h.stocked.built⟩
  standing := hstanding
  calls j other hj := by
    rcases Machine.slot_of_set hj with ⟨_, rfl⟩ | ⟨_, hold⟩
    · exact ⟨hnew, hat _⟩
    · exact h.calls j other hold

/-- A call that is at no lock yet may end by an error. -/
theorem Kept.raisedFirst {e : Exc} (h : Kept queues s) (hi : s.calls[i]? = some call) (hnone : call.stance = none)
    (hfresh : call.attempts ≤ 2 ∧ call.rebuilds ≤ 1) (hopen : call.delivered = false) :
    Kept queues (s.setCall i (call.raises e)) := by
  obtain ⟨name, progress, attempts, rebuilds, delivered⟩ := call
  cases hopen
  refine h.setCall s.locks ?_ (.raised hfresh.1 hfresh.2) (fun _ => trivial)
  have hsame : s.stance i = none := (stance_at hi).trans hnone
  rw [stance_setCall hi]
  change Standing s.locks (update s.stance i none)
  rw [← hsame, update_eq_self]
  exact h.standing

theorem prepared_kept {message : Except Exc Unit} (h : Kept queues s)
    (htaken : prepared queues s i message built = some next) : Kept queues next := by
  unfold prepared at htaken
  split at htaken
  · rename_i call hi
    have hcounted := (h.calls i call hi).1
    split at htaken
    · rename_i hprogress
      cases hcounted with
      | @preparing name =>
        have hnone : s.stance i = none := stance_at hi
        split at htaken
        · cases htaken
          exact h.raisedFirst hi rfl ⟨Nat.zero_le _, Nat.zero_le _⟩ rfl
        · dsimp only at htaken
          have hasked := h.standing.acquire hnone name
          split at htaken
          · rename_i hholder
            cases htaken
            simp only [State.setLock, update_self] at hholder
            rw [if_pos hholder] at hasked
            refine Holding.attempt ⟨⟨h.stocked.named, h.stocked.built⟩, hasked,
              fun j other _ hother => h.calls j other hother, ⟨_, hi⟩⟩ rfl (.inl ⟨rfl, rfl, rfl⟩)
          · rename_i hholder
            cases htaken
            simp only [State.setLock, update_self] at hholder
            rw [if_neg hholder] at hasked
            refine h.setCall _ ?_ .waiting (fun _ => trivial)
            rw [stance_setCall hi]
            exact hasked
      | waiting | sending | closing | resending | succeeded | raised => cases hprogress
    · cases htaken
  · cases htaken

theorem enterLock_kept (h : Kept queues s) (htaken : enterLock queues s i built = some next) : Kept queues next := by
  unfold enterLock at htaken
  split at htaken
  · rename_i call hi
    have hcounted := (h.calls i call hi).1
    split at htaken
    · rename_i hprogress
      cases hcounted with
      | waiting =>
        obtain ⟨lock, hwake, rfl⟩ := Option.map_eq_some_iff.mp htaken
        exact Holding.attempt ⟨⟨h.stocked.named, h.stocked.built⟩, h.standing.wake hwake,
          fun j other _ hother => h.calls j other hother, ⟨_, hi⟩⟩ rfl (.inl ⟨rfl, rfl, rfl⟩)
      | preparing | sending | closing | resending | succeeded | raised => cases hprogress
    · cases htaken
  · cases htaken

theorem sendEnds_kept {outcome : Outcome} (h : Kept queues s)
    (htaken : sendEnds queues s i outcome built = some next) : Kept queues next := by
  unfold sendEnds at htaken
  split at htaken
  · rename_i call hi
    have hcounted := (h.calls i call hi).1
    cases hcounted with
    | sending =>
      have hholding := h.holding hi rfl
      cases outcome with
      | returned =>
        cases htaken
        exact hholding.succeeds ⟨Nat.le_succ 1, Nat.zero_le _⟩ rfl
      | raised e =>
        cases htaken
        exact hholding.replaceSender rfl ⟨rfl, rfl⟩
      | cancelled =>
        cases htaken
        exact hholding.raises ⟨Nat.le_succ 1, Nat.zero_le _⟩ rfl
    | resending =>
      have hholding := h.holding hi rfl
      cases outcome with
      | returned =>
        cases htaken
        exact hholding.succeeds ⟨Nat.le_refl _, Nat.le_refl _⟩ rfl
      | raised e =>
        cases htaken
        exact hholding.raises ⟨Nat.le_refl _, Nat.le_refl _⟩ rfl
      | cancelled =>
        cases htaken
        exact hholding.raises ⟨Nat.le_refl _, Nat.le_refl _⟩ rfl
    | preparing | waiting | closing | succeeded | raised => cases htaken
  · cases htaken

theorem closeEnds_kept {outcome : Outcome} (h : Kept queues s)
    (htaken : closeEnds queues s i outcome built = some next) : Kept queues next := by
  unfold closeEnds at htaken
  split at htaken
  · rename_i call hi
    have hcounted := (h.calls i call hi).1
    cases hcounted with
    | closing =>
      have hholding := h.holding hi rfl
      cases outcome with
      | cancelled =>
        cases htaken
        exact hholding.raises ⟨Nat.le_succ 1, Nat.le_refl _⟩ rfl
      | returned | raised =>
        cases htaken
        exact hholding.attempt rfl (.inr ⟨rfl, rfl, rfl⟩)
    | preparing | waiting | sending | resending | succeeded | raised => cases htaken
  · cases htaken

theorem cancel_kept (h : Kept queues s) (htaken : cancel s i = some next) : Kept queues next := by
  unfold cancel at htaken
  split at htaken
  · rename_i call hi
    have hcounted := (h.calls i call hi).1
    cases hcounted with
    | preparing =>
      cases htaken
      exact h.raisedFirst hi rfl ⟨Nat.zero_le _, Nat.zero_le _⟩ rfl
    | waiting =>
      cases htaken
      refine h.setCall _ ?_ (.raised (Nat.zero_le _) (Nat.zero_le _)) (fun _ => trivial)
      rw [stance_setCall hi]
      exact h.standing.cancel (stance_at hi)
    | sending | closing | resending | succeeded | raised => cases htaken
  · cases htaken

theorem step_kept {e : Event} (h : Kept queues s) (htaken : step queues s e = some next) : Kept queues next := by
  cases e with
  | sendToAzureBus name =>
    cases htaken
    refine ⟨⟨h.stocked.named, h.stocked.built⟩, ?_, fun j other hj => ?_⟩
    · have hnone : s.stance s.calls.length = none := by
        unfold State.stance
        rw [List.getElem?_eq_none (Nat.le_refl _)]
        rfl
      have hpushed : (fun j => ((s.calls ++ [({ name } : Call)])[j]?).bind Call.stance) = s.stance := by
        rw [Machine.shown_append]
        change update s.stance s.calls.length none = s.stance
        rw [← hnone, update_eq_self]
      change Standing s.locks (fun j => ((s.calls ++ [({ name } : Call)])[j]?).bind Call.stance)
      rw [hpushed]
      exact h.standing
    · rcases Machine.slot_of_append hj with ⟨_, rfl⟩ | ⟨_, hold⟩
      · exact ⟨.preparing, trivial⟩
      · exact h.calls j other hold
  | prepared i message built => exact prepared_kept h htaken
  | enterLock i built => exact enterLock_kept h htaken
  | sendEnds i outcome built => exact sendEnds_kept h htaken
  | closeEnds i outcome built => exact closeEnds_kept h htaken
  | cancel i => exact cancel_kept h htaken

/-! ## Every run -/

theorem initializeSenders_kept (queues topics : List String) : Kept queues (initializeSenders queues topics) := by
  have hbuilt : ∀ (names : List String) (s : State), Stocked queues s → s.calls = [] → s.locks = (fun _ => {}) →
      Kept queues (names.foldl (fun s name => s.build queues name) s) := by
    intro names
    induction names with
    | nil =>
      intro s hstocked hcalls hlocks
      have hstance : s.stance = fun _ => none := by
        funext j
        rw [State.stance, hcalls]
        rfl
      refine ⟨hstocked, ?_, fun i call hi => ?_⟩
      · change Standing s.locks s.stance
        rw [hlocks, hstance]
        exact standing_idle
      · change s.calls[i]? = some call at hi
        rw [hcalls] at hi
        cases hi
    | cons name names ih =>
      intro s hstocked hcalls hlocks
      exact ih (s.build queues name) (hstocked.build name) hcalls hlocks
  exact hbuilt _ {} ⟨nofun, nofun⟩ rfl rfl

/-- The call is inside the sender, be it to send or to close it. -/
def Inside (s : State) (i sender : Nat) : Prop :=
  ∃ call, s.calls[i]? = some call ∧
    (call.progress = .sending sender ∨ call.progress = .closing sender ∨ call.progress = .resending sender)

def SendsOn (s : State) (i sender : Nat) : Prop :=
  ∃ call, s.calls[i]? = some call ∧ (call.progress = .sending sender ∨ call.progress = .resending sender)

/-- Whoever is inside a sender holds the lock of the destination the sender was built for. -/
theorem Kept.inside (h : Kept queues s) (hinside : Inside s i sender) :
    ∃ name, s.stance i = some (name, .holds) ∧ s.objects[sender]? = some (buildSender queues name) := by
  obtain ⟨⟨name, progress, attempts, rebuilds, delivered⟩, hi, hprogress⟩ := hinside
  have hat := (h.calls i _ hi).2
  have hmapped : s.senders.lookup name = some sender → s.objects[sender]? = some (buildSender queues name) :=
    fun hlookup => (h.stocked.named _ (Dict.mem_of_lookup hlookup)).1
  refine ⟨name, ?_⟩
  rw [stance_at hi]
  dsimp only at hprogress
  rcases hprogress with rfl | rfl | rfl
  · exact ⟨rfl, hmapped hat⟩
  · exact ⟨rfl, hat⟩
  · exact ⟨rfl, hmapped hat⟩

theorem Kept.sendsOn (h : Kept queues s) (hsends : SendsOn s i sender) : sender ∉ s.closed := by
  obtain ⟨⟨name, progress, attempts, rebuilds, delivered⟩, hi, hprogress⟩ := hsends
  have hat := (h.calls i _ hi).2
  dsimp only at hprogress
  rcases hprogress with rfl | rfl
  · exact (h.stocked.named _ (Dict.mem_of_lookup hat)).2
  · exact (h.stocked.named _ (Dict.mem_of_lookup hat)).2

/-- A waiter's lock is held by a call inside a sender, or the first waiter may enter it. -/
theorem Kept.entered (h : Kept queues s) (hi : s.calls[i]? = some call) (hwaiting : call.progress = .waiting) :
    ∃ j, (∃ sender, Inside s j sender) ∨ ∀ built, ∃ next, enterLock queues s j built = some next := by
  have hstands : s.stance i = some (call.name, .waits) := by
    rw [stance_at hi, Call.stance, hwaiting]
  have hcall : ∀ {j stands}, s.stance j = some (call.name, stands) →
      ∃ other, s.calls[j]? = some other ∧ other.stance = some (call.name, stands) := by
    intro j stands hj
    obtain ⟨other, hother, hstance⟩ := Option.bind_eq_some_iff.mp hj
    exact ⟨other, hother, hstance⟩
  obtain ⟨j, hholds | ⟨hwaits, lock, hwake⟩⟩ := h.standing.moves hstands
  · obtain ⟨⟨name, progress, attempts, rebuilds, delivered⟩, hj, hstance⟩ := hcall hholds
    refine ⟨j, .inl ?_⟩
    cases progress with
    | sending sender => exact ⟨sender, _, hj, .inl rfl⟩
    | closing sender => exact ⟨sender, _, hj, .inr (.inl rfl)⟩
    | resending sender => exact ⟨sender, _, hj, .inr (.inr rfl)⟩
    | preparing | waiting | returned => cases hstance
  · obtain ⟨⟨name, progress, attempts, rebuilds, delivered⟩, hj, hstance⟩ := hcall hwaits
    refine ⟨j, .inr (fun built => ?_)⟩
    cases progress with
    | waiting =>
      cases hstance
      unfold enterLock
      rw [hj]
      dsimp only
      rw [hwake]
      exact ⟨_, rfl⟩
    | preparing | sending | closing | resending | returned => cases hstance

end Steps

/-- However the calls interleave and fail: no two are inside one sender, none sends on a sender that was told to
close, each makes two attempts and one rebuild at most, a call returns `True` if an attempt of its returned
and raises if none did, one that has returned is at no lock, and one that waits is not left waiting. -/
theorem one_coroutine_per_sender {queues topics : List String} {events : List Event} {s : State}
    (h : Machine.Run (step queues) (fun _ _ => True) (initializeSenders queues topics) events s) :
    (∀ sender i j, Inside s i sender → Inside s j sender → i = j) ∧
    (∀ sender i, SendsOn s i sender → sender ∉ s.closed) ∧
    (∀ call ∈ s.calls, call.attempts ≤ 2 ∧ call.rebuilds ≤ 1) ∧
    (∀ (i : Nat) (call : Call) (result : Except Exc Bool),
      s.calls[i]? = some call → call.progress = .returned result →
      (result = .ok true ∧ call.delivered = true ∨ (∃ e, result = .error e) ∧ call.delivered = false) ∧
      ∀ name, (s.locks name).holder ≠ some i ∧ i ∉ (s.locks name).waiters) ∧
    (∀ (i : Nat) (call : Call), s.calls[i]? = some call → call.progress = .waiting →
      ∃ j, (∃ sender, Inside s j sender) ∨ ∀ built, ∃ next, enterLock queues s j built = some next) := by
  have hkept : Kept queues s :=
    h.invariant (initializeSenders_kept queues topics) (fun hs _ htaken => step_kept hs htaken)
  refine ⟨?_, fun sender i => hkept.sendsOn, ?_, ?_, fun i call hi hwaiting => hkept.entered hi hwaiting⟩
  · intro sender i j hi hj
    obtain ⟨name, hholds, hobject⟩ := hkept.inside hi
    obtain ⟨name', hholds', hobject'⟩ := hkept.inside hj
    rw [hobject] at hobject'
    have hname : name = name' := congrArg Sender.name (Option.some.inj hobject')
    subst hname
    exact hkept.standing.exclusive hholds hholds'
  · intro call hm
    obtain ⟨i, hi⟩ := List.mem_iff_getElem?.mp hm
    have hcounted := (hkept.calls i call hi).1
    cases hcounted with
    | preparing | waiting | sending | closing | resending => simp
    | succeeded hattempts hrebuilds => exact ⟨hattempts, hrebuilds⟩
    | raised hattempts hrebuilds => exact ⟨hattempts, hrebuilds⟩
  · intro i call result hi hreturned
    have hcounted := (hkept.calls i call hi).1
    have habsent : s.stance i = none := by
      rw [stance_at hi, Call.stance, hreturned]
    refine ⟨?_, hkept.standing.absent habsent⟩
    cases hcounted with
    | preparing | waiting | sending | closing | resending => cases hreturned
    | succeeded =>
      cases hreturned
      exact .inl ⟨rfl, rfl⟩
    | raised =>
      cases hreturned
      exact .inr ⟨⟨_, rfl⟩, rfl⟩

/-- Two calls for one queue: the first fails, closes its sender and sends on a fresh one while the second waits. -/
theorem one_coroutine_per_sender_orders :
    ∃ s, Machine.Run (step ["orders"]) (fun _ _ => True) (initializeSenders ["orders"] [])
        [.sendToAzureBus "orders", .sendToAzureBus "orders", .prepared 0 (.ok ()) (.ok ()),
          .prepared 1 (.ok ()) (.ok ()), .sendEnds 0 (.raised (.osError "link")) (.ok ()),
          .closeEnds 0 .returned (.ok ())] s ∧
      Inside s 0 1 ∧ s.closed = [0] ∧ (∀ i, Inside s i 1 → i = 0) := by
  have hrun : ∃ s, Machine.Run (step ["orders"]) (fun _ _ => True) (initializeSenders ["orders"] [])
      [.sendToAzureBus "orders", .sendToAzureBus "orders", .prepared 0 (.ok ()) (.ok ()),
        .prepared 1 (.ok ()) (.ok ()), .sendEnds 0 (.raised (.osError "link")) (.ok ()),
        .closeEnds 0 .returned (.ok ())] s ∧ Inside s 0 1 ∧ s.closed = [0] :=
    ⟨_, Machine.Run.of_exec (fun _ _ _ => trivial) rfl, ⟨_, rfl, .inr (.inr rfl)⟩, rfl⟩
  obtain ⟨s, hrun, hinside, hclosed⟩ := hrun
  exact ⟨s, hrun, hinside, hclosed, fun i hi => (one_coroutine_per_sender hrun).1 1 i 0 hi hinside⟩

end BlocksGenesis.Message.AzureMessageClient
