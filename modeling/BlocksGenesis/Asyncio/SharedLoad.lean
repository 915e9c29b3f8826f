import BlocksGenesis.Machine.Run
import BlocksGenesis.Machine.Slots
import BlocksGenesis.Python.Dict

/-! One load shared by all who ask for a key: a map from keys to running tasks, under a lock that is
taken to join or start a load and again to forget it. Every await is a place where a caller may be
suspended or cancelled. To cancel a caller that awaits a task is to cancel that task, and a
cancelled task raises in everyone who awaits it. -/

namespace Asyncio.SharedLoad
open Python

variable {Key Value Cache Update : Type}

/-- A value and the step at which the read that gave it began. -/
structure Loaded (Value : Type) where
  value : Value
  readAt : Nat

/-- A value in the cache. One that did not come from a read has no time. -/
structure Cached (Value : Type) where
  value : Value
  readAt : Option Nat

/-- The cache in front of the loads: keys that are refused at once, what is served from the cache at
a reading of the clock, what is stored when a load has ended, and what else changes the cache. -/
structure Policy (Key Value Cache Update : Type) where
  refuse : Key → Option Value
  hit : Cache → Int → Key → Option (Cached Value)
  store : Cache → Int → Key → Loaded Value → Cache
  update : Cache → Update → Cache

inductive Stage (Value : Type) where
  | created
  | reading (readAt : Nat)
  | read (loaded : Loaded Value)
  | done (loaded : Loaded Value)
  | cancelled

/-- A load. One that is being cancelled ends cancelled whatever it was about to do. -/
structure Task (Key Value : Type) where
  key : Key
  stage : Stage Value
  cancelling : Bool := false

def Task.finished (task : Task Key Value) : Bool :=
  match task.stage with
  | .done _ | .cancelled => true
  | _ => false

inductive Answer (Value : Type) where
  | refused (value : Value)
  | cached (cached : Cached Value)
  | loaded (task : Nat) (loaded : Loaded Value)

/-- Where a caller is: before the lock, awaiting a task, before the lock again with the result of the
task or with its `CancelledError`, or at its end. -/
inductive Progress (Value : Type) where
  | locking
  | awaiting (task : Nat)
  | closing (task : Nat) (result : Option (Loaded Value))
  | returned (answer : Answer Value)
  | raised

structure Call (Key Value : Type) where
  key : Key
  startedAt : Nat
  cancelled : Bool := false
  progress : Progress Value

/-- The clock counts the steps. -/
structure State (Key Value Cache Update : Type) where
  cache : Cache
  loads : Dict Key Nat := []
  tasks : List (Task Key Value) := []
  calls : List (Call Key Value) := []
  clock : Nat := 0
  updates : List (Update × Nat) := []

inductive Event (Key Value Update : Type) where
  | get (key : Key) (now : Int)
  | enterLock (call : Nat)
  | begin (task : Nat)
  | answer (task : Nat) (value : Value)
  | settle (task : Nat)
  | resume (call : Nat)
  | finish (call : Nat) (now : Int)
  | cancel (call : Nat)
  | update (update : Update)

namespace State

def setTask (s : State Key Value Cache Update) (t : Nat) (task : Task Key Value) :
    State Key Value Cache Update := { s with tasks := s.tasks.set t task }

def setCall (s : State Key Value Cache Update) (i : Nat) (call : Call Key Value) :
    State Key Value Cache Update := { s with calls := s.calls.set i call }

def push (s : State Key Value Cache Update) (key : Key) (progress : Progress Value) :
    State Key Value Cache Update :=
  { s with calls := s.calls ++ [{ key, startedAt := s.clock, progress }] }

end State

open State

def get (p : Policy Key Value Cache Update) (s : State Key Value Cache Update) (key : Key) (now : Int) :
    State Key Value Cache Update :=
  match p.refuse key with
  | some value => s.push key (.returned (.refused value))
  | none =>
    match p.hit s.cache now key with
    | some cached => s.push key (.returned (.cached cached))
    | none => s.push key .locking

section Steps
variable [DecidableEq Key]

/-- Join the load of the key, or start one. -/
def enterLock (s : State Key Value Cache Update) (i : Nat) : Option (State Key Value Cache Update) :=
  match s.calls[i]? with
  | some ⟨key, startedAt, cancelled, .locking⟩ =>
    match s.loads.lookup key with
    | some t => some (s.setCall i ⟨key, startedAt, cancelled, .awaiting t⟩)
    | none =>
      let started := s.setCall i ⟨key, startedAt, cancelled, .awaiting s.tasks.length⟩
      some { started with
        loads := s.loads.set key s.tasks.length
        tasks := s.tasks ++ [{ key, stage := .created }] }
  | _ => none

/-- The next step of a load: it begins to read, has its answer, or ends. -/
def begin (s : State Key Value Cache Update) (t : Nat) : Option (State Key Value Cache Update) :=
  match s.tasks[t]? with
  | some ⟨key, .created, false⟩ => some (s.setTask t ⟨key, .reading s.clock, false⟩)
  | _ => none

def answer (s : State Key Value Cache Update) (t : Nat) (value : Value) :
    Option (State Key Value Cache Update) :=
  match s.tasks[t]? with
  | some ⟨key, .reading readAt, false⟩ => some (s.setTask t ⟨key, .read ⟨value, readAt⟩, false⟩)
  | _ => none

def settle (s : State Key Value Cache Update) (t : Nat) : Option (State Key Value Cache Update) :=
  match s.tasks[t]? with
  | some task =>
    if task.finished then none
    else if task.cancelling then some (s.setTask t { task with stage := .cancelled })
    else match task.stage with
      | .read loaded => some (s.setTask t { task with stage := .done loaded })
      | _ => none
  | none => none

def resume (s : State Key Value Cache Update) (i : Nat) : Option (State Key Value Cache Update) :=
  match s.calls[i]? with
  | some ⟨key, startedAt, cancelled, .awaiting t⟩ =>
    match (s.tasks[t]?).map Task.stage with
    | some (.done loaded) => some (s.setCall i ⟨key, startedAt, cancelled, .closing t (some loaded)⟩)
    | some .cancelled => some (s.setCall i ⟨key, startedAt, cancelled, .closing t none⟩)
    | _ => none
  | _ => none

/-- Forget the load if it is still the one of the key, and store what it gave. -/
def finish (p : Policy Key Value Cache Update) (s : State Key Value Cache Update) (i : Nat) (now : Int) :
    Option (State Key Value Cache Update) :=
  match s.calls[i]? with
  | some ⟨key, startedAt, cancelled, .closing t result⟩ =>
    let loads := if s.loads.lookup key = some t then s.loads.pop key else s.loads
    match result with
    | some loaded =>
      let closed := s.setCall i ⟨key, startedAt, cancelled, .returned (.loaded t loaded)⟩
      some { closed with loads, cache := p.store s.cache now key loaded }
    | none =>
      let closed := s.setCall i ⟨key, startedAt, cancelled, .raised⟩
      some { closed with loads }
  | _ => none

/-- Cancel a caller where it is suspended. -/
def cancel (s : State Key Value Cache Update) (i : Nat) : Option (State Key Value Cache Update) :=
  match s.calls[i]? with
  | some ⟨key, startedAt, _, .locking⟩ | some ⟨key, startedAt, _, .closing _ _⟩ =>
    some (s.setCall i ⟨key, startedAt, true, .raised⟩)
  | some ⟨key, startedAt, _, .awaiting t⟩ =>
    match s.tasks[t]? with
    | some task =>
      if task.finished then some (s.setCall i ⟨key, startedAt, true, .closing t none⟩)
      else some ((s.setTask t { task with cancelling := true }).setCall i ⟨key, startedAt, true, .awaiting t⟩)
    | none => none
  | _ => none

def update (p : Policy Key Value Cache Update) (s : State Key Value Cache Update) (u : Update) :
    State Key Value Cache Update :=
  { s with cache := p.update s.cache u, updates := (u, s.clock) :: s.updates }

def act (p : Policy Key Value Cache Update) (s : State Key Value Cache Update) :
    Event Key Value Update → Option (State Key Value Cache Update)
  | .get key now => some (get p s key now)
  | .enterLock i => enterLock s i
  | .begin t => begin s t
  | .answer t value => answer s t value
  | .settle t => settle s t
  | .resume i => resume s i
  | .finish i now => finish p s i now
  | .cancel i => cancel s i
  | .update u => some (update p s u)

def step (p : Policy Key Value Cache Update) (s : State Key Value Cache Update) (e : Event Key Value Update) :
    Option (State Key Value Cache Update) :=
  (act p s e).map (fun next => { next with clock := s.clock + 1 })

/-! ## What one step may change -/

/-- What a task that a step changes is afterwards. -/
inductive TaskStep (s : State Key Value Cache Update) (e : Event Key Value Update) (t : Nat) :
    Task Key Value → Prop where
  | created {key} : t = s.tasks.length → TaskStep s e t ⟨key, .created, false⟩
  | begun {key} : s.tasks[t]? = some ⟨key, .created, false⟩ →
      TaskStep s e t ⟨key, .reading s.clock, false⟩
  | answered {key readAt value} : s.tasks[t]? = some ⟨key, .reading readAt, false⟩ →
      TaskStep s e t ⟨key, .read ⟨value, readAt⟩, false⟩
  | done {key loaded} : s.tasks[t]? = some ⟨key, .read loaded, false⟩ →
      TaskStep s e t ⟨key, .done loaded, false⟩
  | cancelled {task} : s.tasks[t]? = some task → task.finished = false → task.cancelling = true →
      TaskStep s e t ⟨task.key, .cancelled, true⟩
  | cancelling {i call task} : e = .cancel i → s.calls[i]? = some call → call.progress = .awaiting t →
      s.tasks[t]? = some task → task.finished = false → TaskStep s e t ⟨task.key, task.stage, true⟩

/-- What a call that a step changes is afterwards, when the step leaves `tasks`. -/
inductive CallStep (p : Policy Key Value Cache Update) (s : State Key Value Cache Update)
    (e : Event Key Value Update) (tasks : List (Task Key Value)) (i : Nat) : Call Key Value → Prop where
  | refused {key value} : p.refuse key = some value →
      CallStep p s e tasks i ⟨key, s.clock, false, .returned (.refused value)⟩
  | cached {key now cached} : p.refuse key = none → p.hit s.cache now key = some cached →
      CallStep p s e tasks i ⟨key, s.clock, false, .returned (.cached cached)⟩
  | started {key} : p.refuse key = none → CallStep p s e tasks i ⟨key, s.clock, false, .locking⟩
  | joined {key startedAt cancelled t} : e = .enterLock i →
      s.calls[i]? = some ⟨key, startedAt, cancelled, .locking⟩ → s.loads.lookup key = some t →
      CallStep p s e tasks i ⟨key, startedAt, cancelled, .awaiting t⟩
  | opened {key startedAt cancelled} : s.calls[i]? = some ⟨key, startedAt, cancelled, .locking⟩ →
      s.loads.lookup key = none → tasks[s.tasks.length]? = some ⟨key, .created, false⟩ →
      CallStep p s e tasks i ⟨key, startedAt, cancelled, .awaiting s.tasks.length⟩
  | resumed {key startedAt cancelled t task loaded} :
      s.calls[i]? = some ⟨key, startedAt, cancelled, .awaiting t⟩ → s.tasks[t]? = some task →
      task.stage = .done loaded → CallStep p s e tasks i ⟨key, startedAt, cancelled, .closing t (some loaded)⟩
  | interrupted {key startedAt cancelled t task} :
      s.calls[i]? = some ⟨key, startedAt, cancelled, .awaiting t⟩ → s.tasks[t]? = some task →
      task.stage = .cancelled → CallStep p s e tasks i ⟨key, startedAt, cancelled, .closing t none⟩
  | returned {key startedAt cancelled t loaded} :
      s.calls[i]? = some ⟨key, startedAt, cancelled, .closing t (some loaded)⟩ →
      CallStep p s e tasks i ⟨key, startedAt, cancelled, .returned (.loaded t loaded)⟩
  | raised {key startedAt cancelled t} :
      s.calls[i]? = some ⟨key, startedAt, cancelled, .closing t none⟩ →
      CallStep p s e tasks i ⟨key, startedAt, cancelled, .raised⟩
  | dropped {call} : s.calls[i]? = some call → (∀ answer, call.progress ≠ .returned answer) →
      CallStep p s e tasks i ⟨call.key, call.startedAt, true, .raised⟩
  | released {key startedAt cancelled t task} :
      s.calls[i]? = some ⟨key, startedAt, cancelled, .awaiting t⟩ → s.tasks[t]? = some task →
      task.finished = true → CallStep p s e tasks i ⟨key, startedAt, true, .closing t none⟩
  | stopped {key startedAt cancelled t} :
      s.calls[i]? = some ⟨key, startedAt, cancelled, .awaiting t⟩ →
      CallStep p s e tasks i ⟨key, startedAt, true, .awaiting t⟩

/-- How a state may differ from the one before. -/
structure Advanced (p : Policy Key Value Cache Update) (s : State Key Value Cache Update)
    (e : Event Key Value Update) (s' : State Key Value Cache Update) : Prop where
  calls : ∀ (i : Nat) call, s'.calls[i]? = some call → s.calls[i]? = some call ∨ CallStep p s e s'.tasks i call
  cancels : ∀ (i : Nat) call, e = .cancel i → s'.calls[i]? = some call → call.cancelled = true
  tasks : ∀ (t : Nat) task, s'.tasks[t]? = some task → s.tasks[t]? = some task ∨ TaskStep s e t task
  tasksKept : ∀ (t : Nat) task, s.tasks[t]? = some task →
    s'.tasks[t]? = some task ∨ ∃ next, s'.tasks[t]? = some next ∧ TaskStep s e t next
  loads : ∀ key (t : Nat), s'.loads.lookup key = some t → s.loads.lookup key = some t ∨
    s.loads.lookup key = none ∧ t = s.tasks.length ∧ s'.tasks[t]? = some ⟨key, .created, false⟩
  opened : ∀ task, s'.tasks[s.tasks.length]? = some task →
    s.loads.lookup task.key = none ∧ s'.loads.lookup task.key = some s.tasks.length
  loadsKept : ∀ key (t : Nat), s.loads.lookup key = some t → s'.loads.lookup key = some t ∨
    ∃ (i : Nat) (call : Call Key Value) (result : Option (Loaded Value)),
      s.calls[i]? = some call ∧ call.progress = .closing t result
  cache : s'.cache = s.cache ∨
    (∃ (i t : Nat) (now : Int) (call : Call Key Value) (loaded : Loaded Value),
      s.calls[i]? = some call ∧ call.progress = .closing t (some loaded) ∧
      s'.cache = p.store s.cache now call.key loaded) ∨
    ∃ u, e = .update u ∧ s'.cache = p.update s.cache u
  updates : ∀ u n, (u, n) ∈ s'.updates → (u, n) ∈ s.updates ∨ e = .update u ∧ n = s.clock

variable {p : Policy Key Value Cache Update} {s s' : State Key Value Cache Update}
  {e : Event Key Value Update}

omit [DecidableEq Key] in
theorem no_new_task {tasks : List (Task Key Value)} {task : Task Key Value} {P : Prop}
    (h : tasks[tasks.length]? = some task) : P := by
  rw [List.getElem?_eq_none (Nat.le_refl _)] at h
  cases h

theorem calls_set {tasks : List (Task Key Value)} {i : Nat} {call : Call Key Value}
    (hc : CallStep p s e tasks i call) : ∀ (j : Nat) other, (s.calls.set i call)[j]? = some other →
      s.calls[j]? = some other ∨ CallStep p s e tasks j other := by
  intro j other h
  rcases Machine.slot_of_set h with ⟨rfl, rfl⟩ | ⟨_, hold⟩
  · exact .inr hc
  · exact .inl hold

omit [DecidableEq Key] in
theorem cancels_set {i : Nat} {call : Call Key Value}
    (hcancels : ∀ j, e = .cancel j → j = i ∧ call.cancelled = true) :
    ∀ (j : Nat) other, e = .cancel j → (s.calls.set i call)[j]? = some other →
      other.cancelled = true := by
  intro j other he h
  obtain ⟨rfl, hcancelled⟩ := hcancels j he
  rcases Machine.slot_of_set h with ⟨_, rfl⟩ | ⟨hne, _⟩
  · exact hcancelled
  · exact absurd rfl hne

omit [DecidableEq Key] in
theorem tasks_set {t : Nat} {task : Task Key Value} (ht : TaskStep s e t task) :
    ∀ (u : Nat) other, (s.tasks.set t task)[u]? = some other →
      s.tasks[u]? = some other ∨ TaskStep s e u other := by
  intro u other h
  rcases Machine.slot_of_set h with ⟨rfl, rfl⟩ | ⟨_, hold⟩
  · exact .inr ht
  · exact .inl hold

omit [DecidableEq Key] in
theorem tasksKept_set {t : Nat} {task : Task Key Value} (ht : TaskStep s e t task) :
    ∀ (u : Nat) other, s.tasks[u]? = some other → (s.tasks.set t task)[u]? = some other ∨
      ∃ next, (s.tasks.set t task)[u]? = some next ∧ TaskStep s e u next := by
  intro u other h
  by_cases hu : t = u
  · subst hu
    exact .inr ⟨task, Machine.slot_set_self h, ht⟩
  · rw [List.getElem?_set_ne hu]
    exact .inl h

omit [DecidableEq Key] in
theorem opened_set {t : Nat} {task : Task Key Value} {P : Task Key Value → Prop} :
    ∀ other, (s.tasks.set t task)[s.tasks.length]? = some other → P other := by
  intro other h
  have hlt := (List.getElem?_eq_some_iff.mp h).1
  rw [List.length_set] at hlt
  exact absurd hlt (Nat.lt_irrefl _)

/-- A step of one call that touches nothing else. -/
theorem advanced_of_call {i : Nat} {call : Call Key Value} (hc : CallStep p s e s.tasks i call)
    (hcancels : ∀ j, e = .cancel j → j = i ∧ call.cancelled = true) :
    Advanced p s e (s.setCall i call) where
  calls := calls_set hc
  cancels := cancels_set hcancels
  tasks _ _ h := .inl h
  tasksKept _ _ h := .inl h
  loads _ _ h := .inl h
  opened _ h := no_new_task h
  loadsKept _ _ h := .inl h
  cache := .inl rfl
  updates _ _ h := .inl h

/-- A step of one load. -/
theorem advanced_of_task {t : Nat} {task : Task Key Value} (ht : TaskStep s e t task)
    (hcancels : ∀ i, e ≠ .cancel i) : Advanced p s e (s.setTask t task) where
  calls _ _ h := .inl h
  cancels i _ he := absurd he (hcancels i)
  tasks := tasks_set ht
  tasksKept := tasksKept_set ht
  loads _ _ h := .inl h
  opened := opened_set
  loadsKept _ _ h := .inl h
  cache := .inl rfl
  updates _ _ h := .inl h

/-- A step of a load and of the call that asks for it. -/
theorem advanced_of_both {t i : Nat} {task : Task Key Value} {call : Call Key Value} (ht : TaskStep s e t task)
    (hc : CallStep p s e (s.tasks.set t task) i call)
    (hcancels : ∀ j, e = .cancel j → j = i ∧ call.cancelled = true) :
    Advanced p s e ((s.setTask t task).setCall i call) where
  calls := calls_set hc
  cancels := cancels_set hcancels
  tasks := tasks_set ht
  tasksKept := tasksKept_set ht
  loads _ _ h := .inl h
  opened := opened_set
  loadsKept _ _ h := .inl h
  cache := .inl rfl
  updates _ _ h := .inl h

theorem advanced_of_push {key : Key} {progress : Progress Value}
    (hc : CallStep p s e s.tasks s.calls.length ⟨key, s.clock, false, progress⟩)
    (hcancels : ∀ i, e ≠ .cancel i) : Advanced p s e (s.push key progress) where
  calls i call h := by
    rcases Machine.slot_of_append h with ⟨rfl, rfl⟩ | ⟨_, hold⟩
    · exact .inr hc
    · exact .inl hold
  cancels i _ he := absurd he (hcancels i)
  tasks _ _ h := .inl h
  tasksKept _ _ h := .inl h
  loads _ _ h := .inl h
  opened _ h := no_new_task h
  loadsKept _ _ h := .inl h
  cache := .inl rfl
  updates _ _ h := .inl h

theorem get_advanced (key : Key) (now : Int) : Advanced p s (.get key now) (get p s key now) := by
  have hcancels : ∀ i, (Event.get key now : Event Key Value Update) ≠ .cancel i := fun _ h => nomatch h
  unfold get
  cases hr : p.refuse key with
  | some value => exact advanced_of_push (.refused hr) hcancels
  | none =>
    dsimp only
    cases hh : p.hit s.cache now key with
    | some cached => exact advanced_of_push (.cached hr hh) hcancels
    | none => exact advanced_of_push (.started hr) hcancels

/-- A call that finds no load starts one. -/
theorem advanced_of_open {i : Nat} {key : Key} {startedAt : Nat} {cancelled : Bool}
    (hi : s.calls[i]? = some ⟨key, startedAt, cancelled, .locking⟩) (hl : s.loads.lookup key = none) :
    Advanced p s (.enterLock i)
      { s.setCall i ⟨key, startedAt, cancelled, .awaiting s.tasks.length⟩ with
        loads := s.loads.set key s.tasks.length
        tasks := s.tasks ++ [⟨key, .created, false⟩] } where
  calls := calls_set (.opened hi hl List.getElem?_concat_length)
  cancels _ _ he := nomatch he
  tasks t task h := by
    rcases Machine.slot_of_append h with ⟨rfl, rfl⟩ | ⟨_, hold⟩
    · exact .inr (.created rfl)
    · exact .inl hold
  tasksKept _ _ h := .inl (Machine.slot_append_left h)
  loads other t h := by
    rcases Dict.lookup_of_set h with ⟨rfl, rfl⟩ | ⟨_, hold⟩
    · exact .inr ⟨hl, rfl, List.getElem?_concat_length⟩
    · exact .inl hold
  opened task h := by
    rw [List.getElem?_concat_length] at h
    cases h
    exact ⟨hl, Dict.lookup_set_self⟩
  loadsKept _ _ h := .inl (Dict.lookup_set_of_new hl h)
  cache := .inl rfl
  updates _ _ h := .inl h

theorem enterLock_advanced {i : Nat} (h : enterLock s i = some s') :
    Advanced p s (.enterLock i) s' := by
  unfold enterLock at h
  split at h
  · rename_i key startedAt cancelled hi
    split at h
    · rename_i t hl
      cases h
      exact advanced_of_call (.joined rfl hi hl) (fun _ h => nomatch h)
    · rename_i hl
      cases h
      exact advanced_of_open hi hl
  · cases h

theorem begin_advanced {t : Nat} (h : begin s t = some s') : Advanced p s (.begin t) s' := by
  unfold begin at h
  split at h
  · rename_i key ht
    cases h
    exact advanced_of_task (.begun ht) (fun _ h => nomatch h)
  · cases h

theorem answer_advanced {t : Nat} {value : Value} (h : answer s t value = some s') :
    Advanced p s (.answer t value) s' := by
  unfold answer at h
  split at h
  · rename_i key readAt ht
    cases h
    exact advanced_of_task (.answered ht) (fun _ h => nomatch h)
  · cases h

theorem settle_advanced {t : Nat} (h : settle s t = some s') : Advanced p s (.settle t) s' := by
  unfold settle at h
  split at h
  · rename_i task ht
    split at h
    · cases h
    · rename_i hfinished
      split at h
      · rename_i hcancelling
        cases h
        obtain ⟨key, stage, cancelling⟩ := task
        cases hcancelling
        exact advanced_of_task (.cancelled ht (by simpa using hfinished) rfl) (fun _ h => nomatch h)
      · rename_i hcancelling
        split at h
        · rename_i loaded hstage
          cases h
          obtain ⟨key, stage, cancelling⟩ := task
          cases hstage
          have hfalse : cancelling = false := by simpa using hcancelling
          subst hfalse
          exact advanced_of_task (.done ht) (fun _ h => nomatch h)
        · cases h
  · cases h

theorem resume_advanced {i : Nat} (h : resume s i = some s') : Advanced p s (.resume i) s' := by
  unfold resume at h
  split at h
  · rename_i key startedAt cancelled t hi
    split at h
    · rename_i loaded hstage
      obtain ⟨task, ht, hdone⟩ := Option.map_eq_some_iff.mp hstage
      cases h
      exact advanced_of_call (.resumed hi ht hdone) (fun _ h => nomatch h)
    · rename_i hstage
      obtain ⟨task, ht, hcancelled⟩ := Option.map_eq_some_iff.mp hstage
      cases h
      exact advanced_of_call (.interrupted hi ht hcancelled) (fun _ h => nomatch h)
    · cases h
  · cases h

theorem loads_closed {key other : Key} {t u : Nat}
    (h : (if s.loads.lookup key = some t then s.loads.pop key else s.loads).lookup other = some u) :
    s.loads.lookup other = some u := by
  split at h
  · exact (Dict.lookup_pop h).2
  · exact h

theorem loadsKept_closed (key : Key) (t : Nat) {other : Key} {u : Nat} (h : s.loads.lookup other = some u) :
    (if s.loads.lookup key = some t then s.loads.pop key else s.loads).lookup other = some u ∨ u = t := by
  split
  · rename_i hl
    by_cases hk : other = key
    · subst hk
      rw [hl] at h
      exact .inr (Option.some.inj h).symm
    · rw [Dict.lookup_pop_of_ne hk]
      exact .inl h
  · exact .inl h

/-- A call that leaves its load has it forgotten, if the key still maps to it. -/
theorem advanced_of_close {i t : Nat} {now : Int} {old call : Call Key Value} {result : Option (Loaded Value)}
    {cache : Cache} (hi : s.calls[i]? = some old) (hclosing : old.progress = .closing t result)
    (hc : CallStep p s (.finish i now) s.tasks i call)
    (hcache : cache = s.cache ∨ ∃ loaded, result = some loaded ∧ cache = p.store s.cache now old.key loaded) :
    Advanced p s (.finish i now)
      { s.setCall i call with
        loads := if s.loads.lookup old.key = some t then s.loads.pop old.key else s.loads
        cache } where
  calls := calls_set hc
  cancels _ _ he := nomatch he
  tasks _ _ h := .inl h
  tasksKept _ _ h := .inl h
  loads _ _ h := .inl (loads_closed h)
  opened _ h := no_new_task h
  loadsKept other u h := by
    rcases loadsKept_closed old.key t h with hsame | rfl
    · exact .inl hsame
    · exact .inr ⟨i, old, result, hi, hclosing⟩
  cache := by
    rcases hcache with hsame | ⟨loaded, hresult, hstored⟩
    · exact .inl hsame
    · rw [hresult] at hclosing
      exact .inr (.inl ⟨i, t, now, old, loaded, hi, hclosing, hstored⟩)
  updates _ _ h := .inl h

theorem finish_advanced {i : Nat} {now : Int} (h : finish p s i now = some s') :
    Advanced p s (.finish i now) s' := by
  unfold finish at h
  split at h
  · rename_i key startedAt cancelled t result hi
    dsimp only at h
    split at h
    · rename_i loaded
      cases h
      exact advanced_of_close hi rfl (.returned hi) (.inr ⟨loaded, rfl, rfl⟩)
    · cases h
      exact advanced_of_close hi rfl (.raised hi) (.inl rfl)
  · cases h

theorem cancel_advanced {i : Nat} (h : cancel s i = some s') : Advanced p s (.cancel i) s' := by
  have hself : ∀ (key : Key) (startedAt : Nat) (progress : Progress Value) (j : Nat),
      (Event.cancel i : Event Key Value Update) = .cancel j →
      j = i ∧ (Call.mk key startedAt true progress).cancelled = true := by
    intro key startedAt progress j he
    cases he
    exact ⟨rfl, rfl⟩
  unfold cancel at h
  split at h
  · rename_i hi
    cases h
    exact advanced_of_call (.dropped hi (fun _ h => nomatch h)) (hself _ _ _)
  · rename_i hi
    cases h
    exact advanced_of_call (.dropped hi (fun _ h => nomatch h)) (hself _ _ _)
  · rename_i key startedAt cancelled t hi
    split at h
    · rename_i task ht
      split at h
      · rename_i hfinished
        cases h
        exact advanced_of_call (.released hi ht hfinished) (hself _ _ _)
      · rename_i hfinished
        have hrunning : task.finished = false := by simpa using hfinished
        have hstep : TaskStep s (.cancel i : Event Key Value Update) t ⟨task.key, task.stage, true⟩ :=
          .cancelling rfl hi rfl ht hrunning
        cases h
        exact advanced_of_both hstep (.stopped hi) (hself _ _ _)
    · cases h
  · cases h

theorem update_advanced (u : Update) : Advanced p s (.update u) (update p s u) where
  calls _ _ h := .inl h
  cancels _ _ he := nomatch he
  tasks _ _ h := .inl h
  tasksKept _ _ h := .inl h
  loads _ _ h := .inl h
  opened _ h := no_new_task h
  loadsKept _ _ h := .inl h
  cache := .inr (.inr ⟨u, rfl, rfl⟩)
  updates v n h := by
    rcases List.mem_cons.mp h with he | hold
    · cases he
      exact .inr ⟨rfl, rfl⟩
    · exact .inl hold

theorem act_advanced (h : act p s e = some s') : Advanced p s e s' := by
  cases e with
  | get key now =>
    cases h
    exact get_advanced key now
  | enterLock i => exact enterLock_advanced h
  | begin t => exact begin_advanced h
  | answer t value => exact answer_advanced h
  | settle t => exact settle_advanced h
  | resume i => exact resume_advanced h
  | finish i now => exact finish_advanced h
  | cancel i => exact cancel_advanced h
  | update u =>
    cases h
    exact update_advanced u

theorem step_advanced (h : step p s e = some s') : Advanced p s e s' ∧ s'.clock = s.clock + 1 := by
  obtain ⟨next, hact, rfl⟩ := Option.map_eq_some_iff.mp h
  obtain ⟨hcalls, hcancels, htasks, htasksKept, hloads, hopened, hloadsKept, hcache, hupdates⟩ := act_advanced hact
  exact ⟨⟨hcalls, hcancels, htasks, htasksKept, hloads, hopened, hloadsKept, hcache, hupdates⟩, rfl⟩

omit [DecidableEq Key] in
theorem TaskStep.of_some {t : Nat} {task next : Task Key Value} (h : TaskStep s e t next)
    (ht : s.tasks[t]? = some task) : next.key = task.key ∧ task.finished = false := by
  cases h with
  | created hlen =>
    subst hlen
    exact no_new_task ht
  | begun hold | answered hold | done hold =>
    rw [hold] at ht
    cases ht
    exact ⟨rfl, rfl⟩
  | cancelled hold hf | cancelling _ _ _ hold hf =>
    rw [hold] at ht
    cases ht
    exact ⟨rfl, hf⟩

end Steps

end Asyncio.SharedLoad
