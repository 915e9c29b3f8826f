import BlocksGenesis.Asyncio.SharedLoad

/-! Which reads may still reach a caller, and what an update that drops a key must wait for. -/

namespace Asyncio.SharedLoad
open Python

variable {Key Value Cache Update : Type} [DecidableEq Key] {p : Policy Key Value Cache Update}
  {drops : Update → Key → Prop} {s s' : State Key Value Cache Update} {e : Event Key Value Update}

/-! ## Reads on their way -/

/-- The read whose value a load has, or may still get. -/
def Task.readAt (task : Task Key Value) : Option Nat :=
  match task.stage with
  | .reading readAt => if task.cancelling then none else some readAt
  | .read loaded => if task.cancelling then none else some loaded.readAt
  | .done loaded => some loaded.readAt
  | _ => none

/-- A read of the key that began at `readAt` may still be given to a caller or stored. -/
inductive OnItsWay (s : State Key Value Cache Update) (key : Key) : Nat → Prop where
  | load {t : Nat} {task readAt} : s.loads.lookup key = some t → s.tasks[t]? = some task →
      Task.readAt task = some readAt → OnItsWay s key readAt
  | awaited {i t : Nat} {call task readAt} : s.calls[i]? = some call → Call.key call = key →
      call.progress = .awaiting t → s.tasks[t]? = some task → Task.readAt task = some readAt →
      OnItsWay s key readAt
  | closing {i : Nat} {call t loaded} : s.calls[i]? = some call → Call.key call = key →
      call.progress = .closing t (some loaded) → OnItsWay s key (Loaded.readAt loaded)

omit [DecidableEq Key] in
theorem TaskStep.readAt {t : Nat} {next : Task Key Value} {readAt : Nat} (h : TaskStep s e t next)
    (hr : next.readAt = some readAt) :
    (∃ task, s.tasks[t]? = some task ∧ task.readAt = some readAt) ∨ readAt = s.clock := by
  cases h with
  | created | cancelled => cases hr
  | begun =>
    cases hr
    exact .inr rfl
  | answered hold | done hold =>
    cases hr
    exact .inl ⟨_, hold, rfl⟩
  | @cancelling _ _ task _ _ _ hold hf =>
    obtain ⟨key, stage, cancelling⟩ := task
    cases stage with
    | done => cases hf
    | created | reading | read | cancelled => cases hr

theorem Advanced.readAt (ha : Advanced p s e s') {t : Nat} {task : Task Key Value} {readAt : Nat}
    (ht : s'.tasks[t]? = some task) (hr : task.readAt = some readAt) :
    (∃ task, s.tasks[t]? = some task ∧ task.readAt = some readAt) ∨ readAt = s.clock := by
  rcases ha.tasks t task ht with hold | hstep
  · exact .inl ⟨task, hold, hr⟩
  · exact hstep.readAt hr

/-- A step puts no read on its way but one that begins with it. -/
theorem OnItsWay.back (ha : Advanced p s e s') {key : Key} {readAt : Nat} (h : OnItsWay s' key readAt) :
    OnItsWay s key readAt ∨ readAt = s.clock := by
  cases h with
  | load hl ht hr =>
    rcases ha.readAt ht hr with ⟨old, hold, hsame⟩ | hnow
    · rcases ha.loads _ _ hl with hkept | ⟨_, rfl, _⟩
      · exact .inl (.load hkept hold hsame)
      · exact no_new_task hold
    · exact .inr hnow
  | awaited hi hk hp ht hr =>
    rcases ha.readAt ht hr with ⟨old, hold, hsame⟩ | hnow
    · refine .inl ?_
      rcases ha.calls _ _ hi with hkept | hstep
      · exact .awaited hkept hk hp hold hsame
      · cases hstep with
        | refused | cached | started | resumed | interrupted | returned | raised | dropped | released =>
          cases hp
        | joined _ _ hl =>
          cases hp
          cases hk
          exact .load hl hold hsame
        | opened =>
          cases hp
          exact no_new_task hold
        | stopped hbefore =>
          cases hp
          cases hk
          exact .awaited hbefore rfl rfl hold hsame
    · exact .inr hnow
  | closing hi hk hp =>
    refine .inl ?_
    rcases ha.calls _ _ hi with hkept | hstep
    · exact .closing hkept hk hp
    · cases hstep with
      | refused | cached | started | joined | opened | interrupted | returned | raised | dropped
      | released | stopped => cases hp
      | resumed hbefore ht hstage =>
        cases hp
        cases hk
        exact .awaited hbefore rfl rfl ht (by rw [Task.readAt, hstage])

theorem OnItsWay.before_update {u : Update} (htaken : step p s (.update u) = some s') {key : Key} {readAt : Nat}
    (h : OnItsWay s' key readAt) : OnItsWay s key readAt := by
  cases htaken
  cases h with
  | load hl ht hr => exact .load hl ht hr
  | awaited hi hk hp ht hr => exact .awaited hi hk hp ht hr
  | closing hi hk hp => exact .closing hi hk hp

/-! ## Answers after an update -/

def Answer.readAt : Answer Value → Option Nat
  | .refused _ => none
  | .cached c => c.readAt
  | .loaded _ l => some l.readAt

/-- What the freshness of the answers asks of a policy. -/
structure Dropping (p : Policy Key Value Cache Update) (drops : Update → Key → Prop) : Prop where
  store : ∀ {cache now key loaded later other cached},
    p.hit (p.store cache now key loaded) later other = some cached →
    other = key ∧ cached.readAt = some loaded.readAt ∨ p.hit cache later other = some cached
  update : ∀ {cache u now key cached}, p.hit (p.update cache u) now key = some cached →
    ¬ drops u key ∧ p.hit cache now key = some cached

/-- When an update drops a key, no read of it is on its way. -/
def Quiet (drops : Update → Key → Prop) (s : State Key Value Cache Update) :
    Event Key Value Update → Prop
  | .update u => ∀ key, drops u key → ∀ readAt, ¬ OnItsWay s key readAt
  | _ => True

/-- What was read before the key was last dropped is neither in the cache nor on its way, and no call
that began after that was answered with it. -/
structure Fresh (p : Policy Key Value Cache Update) (drops : Update → Key → Prop)
    (s : State Key Value Cache Update) : Prop where
  past : ∀ u n, (u, n) ∈ s.updates → n < s.clock
  started : ∀ (i : Nat) call, s.calls[i]? = some call → call.startedAt < s.clock
  cached : ∀ u n key now cached, (u, n) ∈ s.updates → drops u key → p.hit s.cache now key = some cached →
    ∃ readAt, cached.readAt = some readAt ∧ n < readAt
  onItsWay : ∀ u n key readAt, (u, n) ∈ s.updates → drops u key → OnItsWay s key readAt → n < readAt
  answers : ∀ u n (i : Nat) call answer, (u, n) ∈ s.updates → s.calls[i]? = some call → drops u call.key →
    n < call.startedAt → call.progress = .returned answer →
    (∃ value, answer = .refused value ∧ p.refuse call.key = some value) ∨
    ∃ readAt, answer.readAt = some readAt ∧ n < readAt

theorem Fresh.cached_step (h : Fresh p drops s) (hp : Dropping p drops) (ha : Advanced p s e s')
    {u : Update} {n : Nat} {key : Key} {now : Int} {cached : Cached Value} (hu : (u, n) ∈ s.updates)
    (hdrops : drops u key) (hhit : p.hit s'.cache now key = some cached) :
    ∃ readAt, cached.readAt = some readAt ∧ n < readAt := by
  rcases ha.cache with hsame | ⟨i, t, stored, call, loaded, hi, hclosing, hstore⟩ | ⟨v, _, hupdate⟩
  · rw [hsame] at hhit
    exact h.cached u n key now cached hu hdrops hhit
  · rw [hstore] at hhit
    rcases hp.store hhit with ⟨hk, hread⟩ | hold
    · exact ⟨_, hread, h.onItsWay u n key _ hu hdrops (.closing hi hk.symm hclosing)⟩
    · exact h.cached u n key now cached hu hdrops hold
  · rw [hupdate] at hhit
    exact h.cached u n key now cached hu hdrops (hp.update hhit).2

theorem Fresh.answers_step (h : Fresh p drops s) {tasks : List (Task Key Value)}
    {u : Update} {n i : Nat} {call : Call Key Value} {answer : Answer Value} (hu : (u, n) ∈ s.updates)
    (hstep : CallStep p s e tasks i call) (hdrops : drops u call.key)
    (hp : call.progress = .returned answer) :
    (∃ value, answer = .refused value ∧ p.refuse call.key = some value) ∨
    ∃ readAt, answer.readAt = some readAt ∧ n < readAt := by
  cases hstep with
  | started | joined | opened | resumed | interrupted | raised | dropped | released | stopped => cases hp
  | refused hr =>
    cases hp
    exact .inl ⟨_, rfl, hr⟩
  | cached _ hhit =>
    cases hp
    exact .inr (h.cached u n _ _ _ hu hdrops hhit)
  | returned hi =>
    cases hp
    exact .inr ⟨_, rfl, h.onItsWay u n _ _ hu hdrops (.closing hi rfl rfl)⟩

theorem Advanced.startedAt (ha : Advanced p s e s') (h : ∀ (i : Nat) call, s.calls[i]? = some call →
    call.startedAt < s.clock) {i : Nat} {call : Call Key Value} (hi : s'.calls[i]? = some call) :
    call.startedAt ≤ s.clock := by
  rcases ha.calls i call hi with hold | hstep
  · exact Nat.le_of_lt (h i call hold)
  · cases hstep with
    | refused | cached | started => exact Nat.le_refl _
    | joined _ hbefore | opened hbefore | resumed hbefore | interrupted hbefore | returned hbefore
    | raised hbefore | dropped hbefore | released hbefore | stopped hbefore =>
      have hlt := h i _ hbefore
      exact Nat.le_of_lt hlt

theorem step_fresh (hp : Dropping p drops) (h : Fresh p drops s) (hallowed : Quiet drops s e)
    (htaken : step p s e = some s') : Fresh p drops s' := by
  obtain ⟨ha, hclock⟩ := step_advanced htaken
  refine ⟨?_, ?_, ?_, ?_, ?_⟩
  · intro u n hu
    rw [hclock]
    rcases ha.updates u n hu with hold | ⟨_, rfl⟩
    · exact Nat.lt_succ_of_lt (h.past u n hold)
    · exact Nat.lt_succ_self _
  · intro i call hi
    rw [hclock]
    exact Nat.lt_succ_of_le (ha.startedAt h.started hi)
  · intro u n key now cached hu hdrops hhit
    rcases ha.updates u n hu with hold | ⟨rfl, _⟩
    · exact h.cached_step hp ha hold hdrops hhit
    · cases htaken
      exact absurd hdrops (hp.update hhit).1
  · intro u n key readAt hu hdrops hway
    rcases ha.updates u n hu with hold | ⟨rfl, rfl⟩
    · rcases hway.back ha with hbefore | rfl
      · exact h.onItsWay u n key readAt hold hdrops hbefore
      · exact h.past u n hold
    · exact absurd (hway.before_update htaken) (hallowed key hdrops readAt)
  · intro u n i call answer hu hi hdrops hlt hreturned
    rcases ha.updates u n hu with hold | ⟨rfl, rfl⟩
    · rcases ha.calls i call hi with hkept | hstep
      · exact h.answers u n i call answer hold hkept hdrops hlt hreturned
      · exact h.answers_step hold hstep hdrops hreturned
    · exact absurd hlt (Nat.not_lt_of_le (ha.startedAt h.started hi))

theorem initial_fresh (cache : Cache) : Fresh p drops { cache } where
  past _ _ h := by cases h
  started _ _ h := by cases h
  cached _ _ _ _ _ h := by cases h
  onItsWay _ _ _ _ h := by cases h
  answers _ _ _ _ _ h := by cases h

theorem fresh (hp : Dropping p drops) {cache : Cache} {events : List (Event Key Value Update)}
    (h : Machine.Run (step p) (Quiet drops) { cache } events s) : Fresh p drops s :=
  h.invariant (initial_fresh cache) (step_fresh hp)

/-! ## Refusals -/

/-- Whoever asks for a key that is refused is answered at once, and with nothing else. -/
def Refusing (p : Policy Key Value Cache Update) (s : State Key Value Cache Update) : Prop :=
  ∀ (i : Nat) call value, s.calls[i]? = some call → p.refuse call.key = some value →
    call.progress = .returned (.refused value)

theorem step_refusing (h : Refusing p s) (htaken : step p s e = some s') : Refusing p s' := by
  intro i call value hi hr
  rcases (step_advanced htaken).1.calls i call hi with hold | hstep
  · exact h i call value hold hr
  · cases hstep with
    | refused hr' =>
      cases hr.symm.trans hr'
      rfl
    | cached hr' | started hr' => cases hr.symm.trans hr'
    | dropped hbefore hend => exact absurd (h i _ value hbefore hr) (hend _)
    | joined _ hbefore | opened hbefore | resumed hbefore | interrupted hbefore | returned hbefore
    | raised hbefore | released hbefore | stopped hbefore => cases h i _ value hbefore hr

theorem refusing {allowed : State Key Value Cache Update → Event Key Value Update → Prop} {cache : Cache}
    {events : List (Event Key Value Update)} (h : Machine.Run (step p) allowed { cache } events s) :
    Refusing p s := by
  have hinitial : Refusing p ({ cache } : State Key Value Cache Update) := by
    intro i call value h
    cases h
  exact h.invariant hinitial (fun hs _ htaken => step_refusing hs htaken)

end Asyncio.SharedLoad
