import Mathlib.Data.List.Perm.Subperm
import BlocksGenesis.Lmt.Span
import BlocksGenesis.Machine.Run
import BlocksGenesis.Machine.Slots

/-! The trace exporter: threads that export spans, the worker, and the calls of force_flush and
shutdown, all on one queue. -/

namespace BlocksGenesis.Lmt.TraceExporter
open Python Machine

abbrev Buffer := Batches AttributeValue TraceDocument

/-- What becomes of an `insert_many`: it is done, it fails with an error of the driver, which is
printed, or with anything else, which ends the thread. -/
inductive Answer where
  | inserted
  | refused
  | raised
deriving DecidableEq

/-- What the threads share. `accepted` and `inserted` record what was put on the queue and what
was written to which collection, in order. -/
structure Shared where
  queue : List Item
  stopped : Bool
  accepted : List Item
  inserted : List Item

/-- `queue.put_nowait`; a queue of no positive size takes everything. -/
def Shared.put (queueSize : Int) (shared : Shared) (item : Item) : Option Shared :=
  if 0 < queueSize ∧ queueSize ≤ shared.queue.length then none
  else some { shared with queue := shared.queue ++ [item], accepted := shared.accepted ++ [item] }

/-! ## Flushing -/

/-- `_flush_to_mongo` at its next collection, with what is left of the batches after it. -/
def insertNext (answer : Answer) (shared : Shared) (tenantId : AttributeValue) (docs : List TraceDocument) :
    Option Shared :=
  match answer with
  | .inserted => some { shared with inserted := shared.inserted ++ docs.map (fun doc => (tenantId, doc)) }
  | .refused => some shared
  | .raised => none

/-- Where a thread is in `_flush_remaining`. From when it has left the loop, `seen` is the number of
documents accepted when it last found the queue empty. -/
inductive Drain where
  | checking (buffer : Buffer)
  | getting (buffer : Buffer)
  | flushing (pending : Buffer) (seen : Nat)
  | done (seen : Nat)
  | failed

def Drain.held : Drain → List Item
  | .checking buffer | .getting buffer => buffer.items
  | .flushing pending _ => pending.items
  | .done _ | .failed => []

def Drain.running : Drain → Bool
  | .done _ | .failed => false
  | _ => true

def drainStep (answer : Answer) (shared : Shared) : Drain → Option (Shared × Drain)
  | .checking buffer =>
    if shared.queue.isEmpty then some (shared, .flushing buffer shared.accepted.length)
    else some (shared, .getting buffer)
  | .getting buffer =>
    match shared.queue with
    | [] => some (shared, .flushing buffer shared.accepted.length)
    | item :: queue => some ({ shared with queue }, .checking (buffer.push item.1 item.2))
  | .flushing [] seen => some (shared, .done seen)
  | .flushing ((tenantId, docs) :: pending) seen =>
    match insertNext answer shared tenantId docs with
    | some shared => some (shared, .flushing pending seen)
    | none => some (shared, .failed)
  | .done _ | .failed => none

/-! ## The worker -/

inductive Worker where
  | testing
  | waiting
  | filling (buffer : Buffer)
  | flushing (pending : Buffer)
  | draining (drain : Drain)
  | failed

/-- The batch of the worker's loop, as far as it is not written. -/
def Worker.batch : Worker → List Item
  | .filling buffer => buffer.items
  | .flushing pending => pending.items
  | _ => []

def Worker.held : Worker → List Item
  | .draining drain => drain.held
  | worker => worker.batch

def Worker.ended : Worker → Bool
  | .draining drain => !drain.running
  | .failed => true
  | _ => false

/-- A read that finds nothing within its time goes on with what the buffer holds. -/
def workerStep (exporter : Exporter) (answer : Answer) (shared : Shared) : Worker → Option (Shared × Worker)
  | .testing => some (shared, if shared.stopped then .draining (.checking []) else .waiting)
  | .waiting =>
    match shared.queue with
    | [] => some (shared, .flushing [])
    | item :: queue => some ({ shared with queue }, .filling (Batches.push [] item.1 item.2))
  | .filling buffer =>
    if (buffer.total : Int) < exporter.batchSize then
      match shared.queue with
      | [] => some (shared, .flushing buffer)
      | item :: queue => some ({ shared with queue }, .filling (buffer.push item.1 item.2))
    else some (shared, .flushing buffer)
  | .flushing [] => some (shared, .testing)
  | .flushing ((tenantId, docs) :: pending) =>
    match insertNext answer shared tenantId docs with
    | some shared => some (shared, .flushing pending)
    | none => some (shared, .failed)
  | .draining drain => (drainStep answer shared drain).map (fun after => (after.1, .draining after.2))
  | .failed => none

/-! ## The callers -/

/-- A call of `export` with the spans it has not read yet, and what it returned; a `force_flush`,
waiting for the queue to empty and then flushing; a `shutdown`, at its start, waiting for the
worker and then flushing. -/
inductive Caller where
  | exporting (spans : List Span)
  | exported (success : Bool)
  | awaiting
  | flushing (drain : Drain)
  | stopping
  | joining
  | closing (drain : Drain)

def Caller.held : Caller → List Item
  | .flushing drain | .closing drain => drain.held
  | _ => []

/-- A call that is in its `_flush_remaining`. -/
def Caller.draining : Caller → Bool
  | .flushing drain | .closing drain => drain.running
  | _ => false

def exportNext (exporter : Exporter) (shared : Shared) (spans : List Span) : Shared × Caller :=
  match spans with
  | [] => (shared, .exported true)
  | span :: spans =>
    match spanItem exporter span with
    | .error _ => (shared, .exported false)
    | .ok item =>
      match shared.put exporter.queueSize item with
      | some shared => (shared, .exporting spans)
      | none => (shared, .exported false)

/-- One step of a call. `late` is whether the time it may wait is over. -/
def callerStep (exporter : Exporter) (worker : Worker) (answer : Answer) (late : Bool) (shared : Shared) :
    Caller → Option (Shared × Caller)
  | .exporting spans => some (exportNext exporter shared spans)
  | .exported _ => none
  | .awaiting =>
    if shared.queue.isEmpty || late then some (shared, .flushing (.checking [])) else some (shared, .awaiting)
  | .flushing drain => (drainStep answer shared drain).map (fun after => (after.1, .flushing after.2))
  | .stopping => some ({ shared with stopped := true }, .joining)
  | .joining => if worker.ended || late then some (shared, .closing (.checking [])) else none
  | .closing drain => (drainStep answer shared drain).map (fun after => (after.1, .closing after.2))

structure State where
  shared : Shared
  worker : Worker
  callers : List Caller

def State.start : State := ⟨⟨[], false, [], []⟩, .testing, []⟩

inductive Event where
  | call (caller : Caller)
  | work (answer : Answer)
  | advance (caller : Nat) (answer : Answer) (late : Bool)

/-- How a call starts: `export`, `force_flush` or `shutdown`. -/
def Caller.fresh : Caller → Bool
  | .exporting _ | .awaiting | .stopping => true
  | _ => false

def step (exporter : Exporter) (s : State) : Event → Option State
  | .call caller => if caller.fresh then some { s with callers := s.callers ++ [caller] } else none
  | .work answer =>
    (workerStep exporter answer s.shared s.worker).map (fun after =>
      { s with shared := after.1, worker := after.2 })
  | .advance i answer late => do
    let caller ← s.callers[i]?
    let (shared, caller) ← callerStep exporter s.worker answer late s.shared caller
    return { s with shared, callers := s.callers.set i caller }

/-- What the threads have taken from the queue and not written yet. -/
def State.held (s : State) : List Item := s.worker.held ++ s.callers.flatMap Caller.held

/-- Every insert of the run is done. -/
def Succeeds (_ : State) : Event → Prop
  | .call _ => True
  | .work answer | .advance _ answer _ => answer = .inserted

/-! ## All that a step can do -/

/-- A thread that finds the queue empty leaves its loop. -/
inductive Drained (answer : Answer) (shared : Shared) : Drain → Shared → Drain → Prop where
  | leaves {drain buffer} : drain = .checking buffer ∨ drain = .getting buffer → shared.queue = [] →
      Drained answer shared drain shared (.flushing buffer shared.accepted.length)
  | goesOn {buffer} : Drained answer shared (.checking buffer) shared (.getting buffer)
  | took {buffer item queue} : shared.queue = item :: queue →
      Drained answer shared (.getting buffer) { shared with queue } (.checking (buffer.push item.1 item.2))
  | wrote {batch pending seen shared'} : insertNext answer shared batch.1 batch.2 = some shared' →
      Drained answer shared (.flushing (batch :: pending) seen) shared' (.flushing pending seen)
  | fails {batch pending seen} : insertNext answer shared batch.1 batch.2 = none →
      Drained answer shared (.flushing (batch :: pending) seen) shared .failed
  | ends {seen} : Drained answer shared (.flushing [] seen) shared (.done seen)

theorem drainStep_cases {answer : Answer} {shared shared' : Shared} {drain drain' : Drain}
    (h : drainStep answer shared drain = some (shared', drain')) : Drained answer shared drain shared' drain' := by
  cases drain with
  | checking buffer =>
    simp only [drainStep] at h
    split at h
    · rename_i hempty
      cases h
      exact .leaves (.inl rfl) (List.isEmpty_iff.mp hempty)
    · cases h
      exact .goesOn
  | getting buffer =>
    simp only [drainStep] at h
    split at h
    · rename_i hempty
      cases h
      exact .leaves (.inr rfl) hempty
    · rename_i item queue hqueue
      cases h
      exact .took hqueue
  | flushing pending seen =>
    cases pending with
    | nil =>
      cases h
      exact .ends
    | cons batch pending =>
      simp only [drainStep] at h
      split at h
      · rename_i hinserted
        cases h
        exact .wrote hinserted
      · rename_i hfailed
        cases h
        exact .fails hfailed
  | done seen => cases h
  | failed => cases h

inductive Called (exporter : Exporter) (answer : Answer) (shared : Shared) : Caller → Shared → Caller → Prop where
  | exports {spans} :
      Called exporter answer shared (.exporting spans) (exportNext exporter shared spans).1
        (exportNext exporter shared spans).2
  | awaits : Called exporter answer shared .awaiting shared .awaiting
  | flushes : Called exporter answer shared .awaiting shared (.flushing (.checking []))
  | stops : Called exporter answer shared .stopping { shared with stopped := true } .joining
  | closes : Called exporter answer shared .joining shared (.closing (.checking []))
  | flushing {drain shared' drain'} : drainStep answer shared drain = some (shared', drain') →
      Called exporter answer shared (.flushing drain) shared' (.flushing drain')
  | closing {drain shared' drain'} : drainStep answer shared drain = some (shared', drain') →
      Called exporter answer shared (.closing drain) shared' (.closing drain')

theorem callerStep_cases {exporter : Exporter} {worker : Worker} {answer : Answer} {late : Bool}
    {shared shared' : Shared} {caller caller' : Caller}
    (h : callerStep exporter worker answer late shared caller = some (shared', caller')) :
    Called exporter answer shared caller shared' caller' := by
  cases caller with
  | exporting spans =>
    have hnext : exportNext exporter shared spans = (shared', caller') := Option.some.inj h
    have hexports : Called exporter answer shared (.exporting spans) (exportNext exporter shared spans).1
      (exportNext exporter shared spans).2 := .exports
    rw [hnext] at hexports
    exact hexports
  | exported success => cases h
  | awaiting =>
    simp only [callerStep] at h
    split at h
    · cases h
      exact .flushes
    · cases h
      exact .awaits
  | flushing drain =>
    obtain ⟨after, hafter, he⟩ := Option.map_eq_some_iff.mp h
    cases he
    exact .flushing hafter
  | stopping =>
    cases h
    exact .stops
  | joining =>
    simp only [callerStep] at h
    split at h
    · cases h
      exact .closes
    · cases h
  | closing drain =>
    obtain ⟨after, hafter, he⟩ := Option.map_eq_some_iff.mp h
    cases he
    exact .closing hafter

inductive Stepped (exporter : Exporter) (s : State) : Event → State → Prop where
  | call {caller} : caller.fresh = true → Stepped exporter s (.call caller) { s with callers := s.callers ++ [caller] }
  | work {answer shared worker} : workerStep exporter answer s.shared s.worker = some (shared, worker) →
      Stepped exporter s (.work answer) { s with shared, worker }
  | advance {i answer late caller shared caller'} : s.callers[i]? = some caller →
      callerStep exporter s.worker answer late s.shared caller = some (shared, caller') →
      Stepped exporter s (.advance i answer late) { s with shared, callers := s.callers.set i caller' }

theorem step_cases {exporter : Exporter} {s s' : State} {event : Event} (h : step exporter s event = some s') :
    Stepped exporter s event s' := by
  cases event with
  | call caller =>
    simp only [step] at h
    split at h
    · rename_i hfresh
      cases h
      exact .call hfresh
    · cases h
  | work answer =>
    obtain ⟨⟨shared, worker⟩, hafter, he⟩ := Option.map_eq_some_iff.mp h
    cases he
    exact .work hafter
  | advance i answer late =>
    obtain ⟨caller, hcaller, h⟩ := Option.bind_eq_some_iff.mp h
    obtain ⟨⟨shared, caller'⟩, hafter, h⟩ := Option.bind_eq_some_iff.mp h
    cases h
    exact .advance hcaller hafter

/-! ## What a step moves -/

/-- What a step does with documents, given what the threads hold before it and after it. -/
inductive Moved (s : Shared) (held : List Item) : Shared → List Item → Prop where
  | quiet {held'} (stopped : Bool) (h : held.Perm held') : Moved s held { s with stopped } held'
  | put {held'} (item : Item) (placed : item.2.tenantId = item.1) (h : held.Perm held') :
      Moved s held { s with queue := s.queue ++ [item], accepted := s.accepted ++ [item] } held'
  | took {held'} (item : Item) (queue : List Item) (hqueue : s.queue = item :: queue)
      (h : (item :: held).Perm held') : Moved s held { s with queue } held'
  | wrote {held'} (items : List Item) (h : held.Perm (items ++ held')) :
      Moved s held { s with inserted := s.inserted ++ items } held'

variable {exporter : Exporter} {shared shared' : Shared} {held held' : List Item}

theorem Moved.same (h : held.Perm held') : Moved shared held shared held' := Moved.quiet shared.stopped h

theorem Moved.took_push (buffer : Buffer) {item : Item} {queue : List Item} (hqueue : shared.queue = item :: queue) :
    Moved shared buffer.items { shared with queue } (buffer.push item.1 item.2).items :=
  .took item queue hqueue (buffer.items_push item.1 item.2).symm

/-- The other threads hold what they held. -/
theorem Moved.frame (h : Moved shared held shared' held') (rest : List Item) {all all' : List Item} (hall : all.Perm (held ++ rest))
    (hall' : all'.Perm (held' ++ rest)) : Moved shared all shared' all' := by
  have hkeep : ∀ {a b : List Item}, a.Perm b → (a ++ rest).Perm (b ++ rest) := fun hp => hp.append_right rest
  cases h with
  | quiet stopped h => exact .quiet stopped (hall.trans ((hkeep h).trans hall'.symm))
  | put item placed h => exact .put item placed (hall.trans ((hkeep h).trans hall'.symm))
  | took item queue hqueue h =>
    apply Moved.took item queue hqueue
    exact (hall.cons item).trans ((hkeep h).trans hall'.symm)
  | wrote items h =>
    apply Moved.wrote items
    have hrest := hkeep h
    rw [List.append_assoc] at hrest
    exact hall.trans (hrest.trans (hall'.symm.append_left items))

theorem drainStep_moved {drain drain' : Drain} (h : drainStep .inserted shared drain = some (shared', drain')) :
    Moved shared drain.held shared' drain'.held := by
  cases drainStep_cases h with
  | leaves hleaves =>
    rcases hleaves with rfl | rfl
    · exact .same (List.Perm.refl _)
    · exact .same (List.Perm.refl _)
  | goesOn | ends => exact .same (List.Perm.refl _)
  | @took buffer _ _ hqueue => exact .took_push buffer hqueue
  | @wrote batch _ _ _ hinserted =>
    cases hinserted
    exact .wrote (batch.2.map (fun doc => (batch.1, doc))) (List.Perm.refl _)
  | fails hfailed => cases hfailed

theorem workerStep_moved {worker worker' : Worker}
    (h : workerStep exporter .inserted shared worker = some (shared', worker')) :
    Moved shared worker.held shared' worker'.held := by
  cases worker with
  | testing =>
    cases h
    apply Moved.same
    split <;> exact List.Perm.refl _
  | waiting =>
    simp only [workerStep] at h
    split at h
    · cases h
      exact .same (List.Perm.refl _)
    · rename_i item queue hqueue
      cases h
      exact .took_push [] hqueue
  | filling buffer =>
    simp only [workerStep] at h
    split at h
    · split at h
      · cases h
        exact .same (List.Perm.refl _)
      · rename_i item queue hqueue
        cases h
        exact .took_push buffer hqueue
    · cases h
      exact .same (List.Perm.refl _)
  | flushing pending =>
    cases pending with
    | nil =>
      cases h
      exact .same (List.Perm.refl _)
    | cons batch pending =>
      cases h
      exact .wrote (batch.2.map (fun doc => (batch.1, doc))) (List.Perm.refl _)
  | draining drain =>
    obtain ⟨after, hafter, he⟩ := Option.map_eq_some_iff.mp h
    cases he
    exact drainStep_moved hafter
  | failed => cases h

theorem exportNext_moved (exporter : Exporter) (shared : Shared) (spans : List Span) :
    Moved shared [] (exportNext exporter shared spans).1 (exportNext exporter shared spans).2.held := by
  cases spans with
  | nil => exact .same (List.Perm.refl _)
  | cons span spans =>
    simp only [exportNext]
    cases hitem : spanItem exporter span with
    | error e => exact .same (List.Perm.refl _)
    | ok item =>
      simp only
      cases hput : shared.put exporter.queueSize item with
      | none => exact .same (List.Perm.refl _)
      | some after =>
        unfold Shared.put at hput
        split at hput
        · cases hput
        · cases hput
          exact .put item (spanItem_tenant hitem) (List.Perm.refl _)

theorem callerStep_moved {worker : Worker} {late : Bool} {caller caller' : Caller}
    (h : callerStep exporter worker .inserted late shared caller = some (shared', caller')) :
    Moved shared caller.held shared' caller'.held := by
  cases callerStep_cases h with
  | @exports spans => exact exportNext_moved exporter shared spans
  | awaits | flushes | closes => exact .same (List.Perm.refl _)
  | flushing hafter | closing hafter => exact drainStep_moved hafter
  | stops => exact .quiet true (List.Perm.refl _)

theorem Caller.held_of_fresh {caller : Caller} (h : caller.fresh = true) : caller.held = [] := by
  cases caller <;> first | rfl | cases h

theorem step_moved {s s' : State} {event : Event} (hok : Succeeds s event) (h : step exporter s event = some s') :
    Moved s.shared s.held s'.shared s'.held := by
  cases step_cases h with
  | call hfresh =>
    apply Moved.same
    simp only [State.held, List.flatMap_append, List.flatMap_singleton, Caller.held_of_fresh hfresh,
      List.append_nil]
    exact List.Perm.refl _
  | work hafter =>
    cases hok
    exact (workerStep_moved hafter).frame _ (List.Perm.refl _) (List.Perm.refl _)
  | @advance i _ _ caller _ caller' hcaller hafter =>
    cases hok
    obtain ⟨rest, hold, hnew⟩ := flatMap_slot Caller.held hcaller
    apply (callerStep_moved hafter).frame (s.worker.held ++ rest)
    · exact (hold.append_left _).trans (List.perm_append_comm_assoc _ _ _)
    · exact ((hnew caller').append_left _).trans (List.perm_append_comm_assoc _ _ _)

/-! ## What every run keeps -/

/-- What left the queue is a first part of what was accepted. -/
def Shared.taken (shared : Shared) : Nat := shared.accepted.length - shared.queue.length

/-- Whatever was accepted is in the queue, held by a thread or written, and the queue holds the
last of it. -/
structure Accounted (shared : Shared) (held : List Item) : Prop where
  all : shared.accepted.Perm (shared.queue ++ held ++ shared.inserted)
  last : ∃ gone, shared.accepted = gone ++ shared.queue
  placed : ∀ item ∈ shared.accepted, item.2.tenantId = item.1

theorem Moved.accounted (h : Moved shared held shared' held') (hs : Accounted shared held) :
    Accounted shared' held' := by
  obtain ⟨hall, ⟨gone, hgone⟩, hplaced⟩ := hs
  cases h with
  | quiet stopped hheld =>
    refine ⟨?_, ⟨gone, hgone⟩, hplaced⟩
    exact hall.trans ((hheld.append_left _).append_right _)
  | put item hitem hheld =>
    refine ⟨?_, ⟨gone, ?_⟩, ?_⟩
    · rw [List.perm_iff_count] at hall hheld ⊢
      intro doc
      have hdoc := hall doc
      have hsame := hheld doc
      simp only [List.count_append] at hdoc ⊢
      omega
    · simp only [hgone, List.append_assoc]
    · intro found hfound
      rcases List.mem_append.mp hfound with hm | hm
      · exact hplaced found hm
      · cases List.mem_singleton.mp hm
        exact hitem
  | took item queue hqueue hheld =>
    refine ⟨?_, ⟨gone ++ [item], ?_⟩, hplaced⟩
    · rw [List.perm_iff_count] at hall hheld ⊢
      intro doc
      have hdoc := hall doc
      have hsame := hheld doc
      rw [hqueue] at hdoc
      simp only [List.count_append, List.count_cons] at hdoc hsame ⊢
      omega
    · simp only [hgone, hqueue, List.append_assoc, List.singleton_append]
  | wrote items hheld =>
    refine ⟨?_, ⟨gone, hgone⟩, hplaced⟩
    rw [List.perm_iff_count] at hall hheld ⊢
    intro doc
    have hdoc := hall doc
    have hsame := hheld doc
    simp only [List.count_append] at hdoc hsame ⊢
    omega

theorem Moved.taken_le (h : Moved shared held shared' held') : shared.taken ≤ shared'.taken := by
  unfold Shared.taken
  cases h with
  | quiet stopped hheld => exact Nat.le_refl _
  | put item hitem hheld =>
    simp only [List.length_append, List.length_singleton]
    omega
  | took item queue hqueue hheld =>
    simp only [hqueue, List.length_cons]
    omega
  | wrote items hheld => exact Nat.le_refl _

def Drain.seen : Drain → Nat
  | .flushing _ seen | .done seen => seen
  | _ => 0

def Caller.seen : Caller → Nat
  | .flushing drain | .closing drain => drain.seen
  | _ => 0

/-- A thread that has just found the queue empty has seen whatever was accepted leave it. -/
theorem drainStep_seen {answer : Answer} {drain drain' : Drain} (hseen : drain.seen ≤ shared.taken)
    (h : drainStep answer shared drain = some (shared', drain')) : drain'.seen ≤ shared'.taken := by
  cases drainStep_cases h with
  | leaves _ hempty =>
    rw [Shared.taken, hempty]
    exact Nat.le_refl _
  | goesOn | took | fails => exact Nat.zero_le _
  | wrote hinserted => cases answer <;> cases hinserted <;> exact hseen
  | ends => exact hseen

theorem exportNext_seen (exporter : Exporter) (shared : Shared) (spans : List Span) :
    (exportNext exporter shared spans).2.seen = 0 := by
  unfold exportNext
  repeat' split
  all_goals rfl

theorem callerStep_seen {worker : Worker} {answer : Answer} {late : Bool} {caller caller' : Caller}
    (hseen : caller.seen ≤ shared.taken)
    (h : callerStep exporter worker answer late shared caller = some (shared', caller')) :
    caller'.seen ≤ shared'.taken := by
  cases callerStep_cases h with
  | exports =>
    rw [exportNext_seen]
    exact Nat.zero_le _
  | awaits | flushes | stops | closes => exact Nat.zero_le _
  | flushing hafter | closing hafter => exact drainStep_seen hseen hafter

/-- The loop reads another document only while the batch is below its size. -/
theorem workerStep_batch {answer : Answer} {worker worker' : Worker} (hsize : 1 ≤ exporter.batchSize)
    (hbatch : (worker.batch.length : Int) ≤ exporter.batchSize)
    (h : workerStep exporter answer shared worker = some (shared', worker')) :
    (worker'.batch.length : Int) ≤ exporter.batchSize := by
  have hnone : ((([] : List Item).length : Nat) : Int) ≤ exporter.batchSize := by
    simp only [List.length_nil]
    omega
  cases worker with
  | testing =>
    cases h
    split <;> exact hnone
  | waiting =>
    simp only [workerStep] at h
    split at h
    · cases h
      exact hnone
    · cases h
      exact hsize
  | filling buffer =>
    simp only [workerStep] at h
    split at h
    · rename_i hless
      split at h
      · cases h
        exact hbatch
      · rename_i item queue hqueue
        cases h
        have hpush := (buffer.items_push item.1 item.2).length_eq
        rw [← Batches.items_length] at hless
        simp only [Worker.batch, hpush, List.length_cons]
        omega
    · cases h
      exact hbatch
  | flushing pending =>
    cases pending with
    | nil =>
      cases h
      exact hnone
    | cons batch pending =>
      have hrest : ((Batches.items pending).length : Int) ≤ exporter.batchSize := by
        simp only [Worker.batch, Batches.items_cons, List.length_append] at hbatch
        omega
      cases answer <;> cases h <;> first | exact hrest | exact hnone
  | draining drain =>
    obtain ⟨after, hafter, he⟩ := Option.map_eq_some_iff.mp h
    cases he
    exact hnone
  | failed => cases h

structure Inv (exporter : Exporter) (s : State) : Prop where
  accounted : Accounted s.shared s.held
  seen : ∀ (i : Nat) (caller : Caller), s.callers[i]? = some caller → caller.seen ≤ s.shared.taken
  batch : 1 ≤ exporter.batchSize → (s.worker.batch.length : Int) ≤ exporter.batchSize

theorem inv_start (exporter : Exporter) : Inv exporter .start where
  accounted := ⟨List.Perm.refl _, ⟨[], rfl⟩, fun _ hm => absurd hm List.not_mem_nil⟩
  seen _ _ hcaller := by cases hcaller
  batch h := by
    simp only [State.start, Worker.batch, List.length_nil]
    omega

/-- Whatever a call has seen accepted has left the queue, and stays out of it. -/
theorem step_seen {s s' : State} {event : Event}
    (hs : ∀ (i : Nat) (caller : Caller), s.callers[i]? = some caller → caller.seen ≤ s.shared.taken)
    (hmore : s.shared.taken ≤ s'.shared.taken) (h : step exporter s event = some s') {i : Nat} {caller : Caller}
    (hi : s'.callers[i]? = some caller) : caller.seen ≤ s'.shared.taken := by
  cases step_cases h with
  | call hfresh =>
    rcases slot_of_append hi with ⟨_, rfl⟩ | ⟨_, hold⟩
    · cases caller <;> first | exact Nat.zero_le _ | cases hfresh
    · exact hs i caller hold
  | work => exact (hs i caller hi).trans hmore
  | @advance j _ _ old _ _ hold hafter =>
    rcases slot_of_set hi with ⟨_, rfl⟩ | ⟨_, hother⟩
    · exact callerStep_seen (hs j old hold) hafter
    · exact (hs i caller hother).trans hmore

theorem step_inv {s s' : State} {event : Event} (hs : Inv exporter s) (hok : Succeeds s event)
    (h : step exporter s event = some s') : Inv exporter s' := by
  have hmoved := step_moved hok h
  refine ⟨hmoved.accounted hs.accounted, fun i caller => step_seen hs.seen hmoved.taken_le h, ?_⟩
  intro hsize
  cases step_cases h with
  | call | advance => exact hs.batch hsize
  | work hafter => exact workerStep_batch hsize (hs.batch hsize) hafter

/-! ## What is exported -/

theorem Worker.held_of_ended {worker : Worker} (h : worker.ended = true) : worker.held = [] := by
  cases worker with
  | draining drain => cases drain <;> first | rfl | cases h
  | failed => rfl
  | testing | waiting | filling buffer | flushing pending => cases h

theorem Caller.held_of_not_draining {caller : Caller} (h : caller.draining = false) : caller.held = [] := by
  cases caller with
  | flushing drain | closing drain => cases drain <;> first | rfl | cases h
  | exporting spans | exported success | awaiting | stopping | joining => rfl

/-- What has left the queue is written, or a thread holds it. -/
theorem Accounted.left (h : Accounted shared held) :
    (shared.accepted.take shared.taken).Perm (held ++ shared.inserted) := by
  obtain ⟨gone, hgone⟩ := h.last
  have hlength : shared.taken = gone.length := by simp [Shared.taken, hgone]
  have hall := h.all
  rw [hgone, List.append_assoc] at hall
  rw [hlength, hgone, List.take_left]
  exact (List.perm_append_left_iff shared.queue).mp (List.perm_append_comm.trans hall)

theorem Accounted.gone (h : Accounted shared held) {n : Nat} (hn : n ≤ shared.taken) :
    (shared.accepted.take n).Subperm (held ++ shared.inserted) := by
  have htake : (shared.accepted.take shared.taken).take n = shared.accepted.take n := by
    rw [List.take_take, Nat.min_eq_left hn]
  rw [← htake]
  exact (List.take_sublist n _).subperm.trans h.left.subperm

/-- A call of `shutdown` that has returned, and how many documents were accepted when it last found
the queue empty. -/
def Returned (s : State) (i seen : Nat) : Prop := s.callers[i]? = some (.closing (.done seen))

/-- What a shutdown leaves behind when the worker has ended. What other calls took from the queue
they write themselves, and what is exported after its last look stays where it is. -/
structure Closed (s : State) (seen : Nat) : Prop where
  worker : s.worker.held = []
  written : (s.shared.accepted.take seen).Subperm (s.callers.flatMap Caller.held ++ s.shared.inserted)
  queue : s.shared.accepted.length = seen → s.shared.queue = []
  buffers : (∀ caller ∈ s.callers, caller.draining = false) → s.held = []

theorem Inv.closed {s : State} (h : Inv exporter s) {i seen : Nat} (hreturned : Returned s i seen)
    (hended : s.worker.ended = true) : Closed s seen := by
  have hworker := Worker.held_of_ended hended
  have hseen : seen ≤ s.shared.taken := h.seen i _ hreturned
  have hgone := h.accounted.gone hseen
  rw [State.held, hworker, List.nil_append] at hgone
  refine ⟨hworker, hgone, ?_, ?_⟩
  · intro hlength
    obtain ⟨gone, hsplit⟩ := h.accounted.last
    unfold Shared.taken at hseen
    rw [← hlength, hsplit, List.length_append] at hseen
    apply List.eq_nil_of_length_eq_zero
    omega
  · intro hidle
    rw [State.held, hworker, List.nil_append]
    apply List.flatMap_eq_nil_iff.mpr
    intro caller hcaller
    exact Caller.held_of_not_draining (hidle caller hcaller)

/-! ## What a shutdown has seen -/

def Drain.looked : Drain → Option Nat
  | .flushing _ seen | .done seen => some seen
  | _ => none

/-- A call that left its loop only after so many documents were accepted. -/
def Caller.LooksAfter (caller : Caller) (n : Nat) : Prop :=
  match caller with
  | .flushing drain | .closing drain => ∀ seen, drain.looked = some seen → n ≤ seen
  | _ => True

theorem Moved.accepted_earlier (h : Moved shared held shared' held') : shared.accepted <+: shared'.accepted := by
  cases h with
  | put item hitem hheld => exact List.prefix_append _ _
  | quiet stopped hheld => exact List.prefix_rfl
  | took item queue hqueue hheld => exact List.prefix_rfl
  | wrote items hheld => exact List.prefix_rfl

theorem drainStep_looked {answer : Answer} {drain drain' : Drain} {n : Nat} (hn : n ≤ shared.accepted.length)
    (hlooked : ∀ seen, drain.looked = some seen → n ≤ seen)
    (h : drainStep answer shared drain = some (shared', drain')) :
    ∀ seen, drain'.looked = some seen → n ≤ seen := by
  cases drainStep_cases h with
  | leaves =>
    intro seen hseen
    cases hseen
    exact hn
  | goesOn | took | fails => exact nofun
  | wrote | ends => exact hlooked

theorem callerStep_looks {worker : Worker} {answer : Answer} {late : Bool} {caller caller' : Caller} {n : Nat}
    (hn : n ≤ shared.accepted.length) (hlooks : caller.LooksAfter n)
    (h : callerStep exporter worker answer late shared caller = some (shared', caller')) :
    caller'.LooksAfter n := by
  cases callerStep_cases h with
  | exports =>
    unfold exportNext
    repeat' split
    all_goals trivial
  | awaits | stops => trivial
  | flushes | closes => exact nofun
  | flushing hafter | closing hafter => exact drainStep_looked hn hlooks hafter

/-- Since `early` was what had been accepted, the call in place `i` has kept looking. -/
structure Since (early : List Item) (i : Nat) (s : State) : Prop where
  accepted : early <+: s.shared.accepted
  looks : ∀ caller, s.callers[i]? = some caller → caller.LooksAfter early.length
  called : i < s.callers.length

theorem step_since {s s' : State} {event : Event} {early : List Item} {i : Nat} (hs : Since early i s)
    (hgrown : s.shared.accepted <+: s'.shared.accepted) (h : step exporter s event = some s') :
    Since early i s' := by
  obtain ⟨haccepted, hlooks, hcalled⟩ := hs
  cases step_cases h with
  | call =>
    refine ⟨haccepted.trans hgrown, fun caller hi => ?_, ?_⟩
    · rcases slot_of_append hi with ⟨rfl, _⟩ | ⟨_, hold⟩
      · exact absurd hcalled (Nat.lt_irrefl _)
      · exact hlooks caller hold
    · rw [List.length_append]
      exact Nat.lt_add_right _ hcalled
  | work => exact ⟨haccepted.trans hgrown, hlooks, hcalled⟩
  | @advance _ _ _ old _ _ hold hafter =>
    refine ⟨haccepted.trans hgrown, fun caller hi => ?_, ?_⟩
    · rcases slot_of_set hi with ⟨rfl, rfl⟩ | ⟨_, hother⟩
      · exact callerStep_looks haccepted.length_le (hlooks old hold) hafter
      · exact hlooks caller hother
    · rw [List.length_set]
      exact hcalled

theorem since_called {s : State} {i : Nat} {caller : Caller} (h : s.callers[i]? = some caller)
    (hlooks : caller.LooksAfter s.shared.accepted.length) : Since s.shared.accepted i s := by
  refine ⟨List.prefix_rfl, ?_, ?_⟩
  · intro caller hcaller
    cases Option.some.inj (h.symm.trans hcaller)
    exact hlooks
  · obtain ⟨hlt, _⟩ := List.getElem?_eq_some_iff.mp h
    exact hlt

/-! ## The exporter -/

structure Exported (exporter : Exporter) (s : State) : Prop where
  once : s.shared.accepted.Perm (s.shared.queue ++ s.held ++ s.shared.inserted)
  placed : ∀ entry ∈ s.shared.inserted, entry.2.tenantId = entry.1
  bounded : 1 ≤ exporter.batchSize → (s.worker.batch.length : Int) ≤ exporter.batchSize
  closed : ∀ i seen, Returned s i seen → s.worker.ended = true → Closed s seen

theorem Inv.exported {s : State} (h : Inv exporter s) : Exported exporter s := by
  refine ⟨h.accounted.all, ?_, h.batch, fun i seen => h.closed⟩
  intro entry hentry
  apply h.accounted.placed
  exact h.accounted.all.mem_iff.mpr (List.mem_append_right _ hentry)

/-- Whatever was accepted when a shutdown was called is written when it has returned and the worker
has ended, unless another call that is still flushing holds it. -/
theorem every_span_once (exporter : Exporter) (before after : List Event) (s₀ s : State)
    (h₀ : Run (step exporter) Succeeds .start before s₀) (h : Run (step exporter) Succeeds s₀ after s) :
    Exported exporter s ∧ ∀ i seen, s₀.callers[i]? = some .stopping → Returned s i seen →
      s.worker.ended = true →
      s₀.shared.accepted.Subperm (s.callers.flatMap Caller.held ++ s.shared.inserted) := by
  have hinv := h.invariant (h₀.invariant (inv_start exporter) step_inv) step_inv
  refine ⟨hinv.exported, fun i seen hcalled hreturned hended => ?_⟩
  have hsince := h.invariant (since_called hcalled trivial)
    (fun hs hok hstep => step_since hs (step_moved hok hstep).accepted_earlier hstep)
  have hlength : s₀.shared.accepted.length ≤ seen := hsince.looks _ hreturned seen rfl
  have hprefix : s₀.shared.accepted <+: s.shared.accepted.take seen :=
    List.prefix_take_iff.mpr ⟨hsince.accepted, hlength⟩
  exact hprefix.sublist.subperm.trans (hinv.closed hreturned hended).written

/-! ## Two shutdowns -/

def rootSpan : Span :=
  ⟨[("baggage.TenantId", .str "acme"), ("http.method", .str "GET")], 10, 7, none, "GET /", "SpanKind.SERVER",
    some 1000, some 3000, "StatusCode.OK", none⟩

def plainExporter : Exporter :=
  ⟨"orders", 2, 8, fun nanos => .ok ⟨toString nanos⟩, fun nanos => ⟨toString nanos, some nanos, nanos == 0⟩⟩

def stopWorker : List Event := [.work .inserted, .work .inserted, .work .inserted]

def finishShutdown (i : Nat) : List Event := [.advance i .inserted false, .advance i .inserted false]

def exportThenStop : List Event := [.call (.exporting [rootSpan]), .advance 0 .inserted false, .call .stopping]

def shutdownAndDrain : List Event :=
  [.advance 1 .inserted false] ++ stopWorker ++ stopWorker ++ [.advance 1 .inserted false] ++ finishShutdown 1

/-- A span that is exported before the shutdown is written by the worker, which drains the queue. -/
theorem every_span_once_drained : ∃ s₀ s : State, s₀.callers[1]? = some .stopping ∧ Returned s 1 1 ∧
    s₀.shared.accepted.length = 1 ∧ s₀.shared.queue = s₀.shared.accepted ∧
    s₀.shared.accepted.Subperm (s.callers.flatMap Caller.held ++ s.shared.inserted) ∧
    Exported plainExporter s := by
  have hexec : ∃ s₀ s : State, exportThenStop.foldlM (step plainExporter) .start = some s₀ ∧
      shutdownAndDrain.foldlM (step plainExporter) s₀ = some s ∧ s₀.callers[1]? = some .stopping ∧
      Returned s 1 1 ∧ s.worker.ended = true ∧ s₀.shared.accepted.length = 1 ∧
      s₀.shared.queue = s₀.shared.accepted :=
    ⟨_, _, rfl, rfl, rfl, rfl, rfl, rfl, rfl⟩
  obtain ⟨s₀, s, hbefore, hafter, hcalled, hreturned, hended, hone, hqueue⟩ := hexec
  have hrun₀ : Run (step plainExporter) Succeeds .start exportThenStop s₀ :=
    Run.of_exec (by simp [Succeeds, exportThenStop]) hbefore
  have hrun : Run (step plainExporter) Succeeds s₀ shutdownAndDrain s :=
    Run.of_exec (by simp [Succeeds, shutdownAndDrain, stopWorker, finishShutdown]) hafter
  obtain ⟨hexported, hwritten⟩ := every_span_once plainExporter _ _ s₀ s hrun₀ hrun
  exact ⟨s₀, s, hcalled, hreturned, hone, hqueue, hwritten 1 1 hcalled hreturned hended, hexported⟩

/-- Nothing stops an export during a shutdown: a span that is exported after its last look at the queue
stays there. -/
theorem late_span_stays : ¬ ∀ (exporter : Exporter) (events : List Event) (s : State),
    1 ≤ exporter.batchSize → Run (step exporter) Succeeds .start events s →
    ∀ i seen, Returned s i seen → s.worker.ended = true → s.shared.queue = [] ∧ s.held = [] := by
  intro h
  have hrun : Run (step plainExporter) Succeeds .start
      ([.call .stopping, .call (.exporting [rootSpan]), .advance 0 .inserted false] ++ stopWorker ++
        finishShutdown 0 ++ [.advance 1 .inserted false, .advance 0 .inserted false]) _ :=
    Run.of_exec (by simp [Succeeds, stopWorker, finishShutdown]) rfl
  obtain ⟨hqueue, _⟩ := h plainExporter _ _ (by decide) hrun 0 0 rfl rfl
  cases hqueue

end BlocksGenesis.Lmt.TraceExporter
