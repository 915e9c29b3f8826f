import BlocksGenesis.Machine.Run
import BlocksGenesis.Machine.Slots
import BlocksGenesis.Python.Value

/-! The log exporter: threads that enqueue records, the worker that writes them in batches, and the
calls of stop. -/

namespace BlocksGenesis.Lmt.LogExporter
open Python Machine

/-- A log record as `enqueue` reads it. Of the three attributes the filter adds, none is an attribute
that is not there. -/
structure LogRecord where
  levelname : String
  message : Except Exc String
  name : String
  tenantId : Option Json
  traceId : Option Json
  spanId : Option Json

/-- The clock and the current span, when a record is enqueued. -/
structure Moment where
  now : DateTime
  traceId : String
  spanId : String

structure LogDocument where
  timestamp : DateTime
  level : String
  message : String
  tenantId : Json
  loggerName : String
  traceId : Json
  spanId : Json

def readAttribute (name : String) (value : Option Json) : Except Exc Json :=
  match value with
  | some value => .ok value
  | none => .error (.attributeError ("'LogRecord' object has no attribute '" ++ name ++ "'"))

def recordDocument (moment : Moment) (record : LogRecord) : Except Exc LogDocument := do
  let message ← record.message
  let tenantId ← readAttribute "TenantId" record.tenantId
  let traceId ← readAttribute "TraceId" record.traceId
  let spanId ← readAttribute "SpanId" record.spanId
  return {
    timestamp := moment.now
    level := record.levelname
    message
    tenantId := tenantId.orElse (.str "miscellaneous")
    loggerName := record.name
    traceId := traceId.orElse (.str moment.traceId)
    spanId := spanId.orElse (.str moment.spanId) }

/-! ## The machine -/

/-- Where the worker is: at the test of its loop, in its read of the queue, at the test of its batch,
in the insert of its loop, or past the loop. -/
inductive Stage where
  | testing
  | reading
  | deciding
  | writing
  | finishing
  | ended
deriving DecidableEq

/-- A call of `stop`, with the number of documents enqueued before it. -/
inductive Stop where
  | called (before : Nat)
  | joining (before : Nat)
  | returned (before : Nat)

/-- `enqueued` and `passed` record what was put on the queue and what each `insert_many` was given. -/
structure State where
  queue : List LogDocument
  stopped : Bool
  stage : Stage
  batch : List LogDocument
  passed : List (List LogDocument)
  enqueued : List LogDocument
  stops : List Stop

def State.start : State := ⟨[], false, .testing, [], [], [], []⟩

inductive Event where
  | enqueue (moment : Moment) (record : LogRecord)
  | work
  | stop
  | advance (i : Nat)

/-- A record that gives no document raises, and nothing is put. -/
def enqueue (s : State) (moment : Moment) (record : LogRecord) : State :=
  match recordDocument moment record with
  | .ok doc => { s with queue := s.queue ++ [doc], enqueued := s.enqueued ++ [doc] }
  | .error _ => s

/-- `insert_many` of the batch. An error is printed, and the worker goes on the same. -/
def State.write (s : State) (next : Stage) : State :=
  { s with passed := s.passed ++ [s.batch], batch := [], stage := next }

def workerStep (batchSize : Int) (s : State) : Option State :=
  match s.stage with
  | .testing => some { s with stage := if s.stopped then .finishing else .reading }
  | .reading =>
    match s.queue with
    | [] => some { s with stage := .deciding }
    | doc :: queue => some { s with queue, batch := s.batch ++ [doc], stage := .deciding }
  | .deciding =>
    if !s.batch.isEmpty && (decide (batchSize ≤ s.batch.length) || s.stopped) then
      some { s with stage := .writing }
    else some { s with stage := .testing }
  | .writing => some (s.write .testing)
  | .finishing => some (if s.batch.isEmpty then { s with stage := .ended } else s.write .ended)
  | .ended => none

/-- `stop`: set the flag, then wait for the worker to end. -/
def stopStep (s : State) (i : Nat) : Stop → Option State
  | .called before => some { s with stopped := true, stops := s.stops.set i (.joining before) }
  | .joining before =>
    if s.stage = .ended then some { s with stops := s.stops.set i (.returned before) } else none
  | .returned _ => none

def step (batchSize : Int) (s : State) : Event → Option State
  | .enqueue moment record => some (enqueue s moment record)
  | .work => workerStep batchSize s
  | .stop => some { s with stops := s.stops ++ [.called s.enqueued.length] }
  | .advance i => s.stops[i]? >>= stopStep s i

/-- All that a step of the worker can do. -/
inductive WorkerStep (batchSize : Int) (s : State) : State → Prop where
  | leave : s.stage = .testing → s.stopped = true → WorkerStep batchSize s { s with stage := .finishing }
  | enter : s.stage = .testing → s.stopped = false → WorkerStep batchSize s { s with stage := .reading }
  | empty : s.stage = .reading → s.queue = [] → WorkerStep batchSize s { s with stage := .deciding }
  | read {doc queue} : s.stage = .reading → s.queue = doc :: queue →
      WorkerStep batchSize s { s with queue, batch := s.batch ++ [doc], stage := .deciding }
  | full : s.stage = .deciding → s.batch ≠ [] → batchSize ≤ s.batch.length ∨ s.stopped = true →
      WorkerStep batchSize s { s with stage := .writing }
  | short : s.stage = .deciding → (s.batch ≠ [] → s.batch.length < batchSize) →
      WorkerStep batchSize s { s with stage := .testing }
  | write : s.stage = .writing → WorkerStep batchSize s (s.write .testing)
  | finish : s.stage = .finishing → s.batch = [] → WorkerStep batchSize s { s with stage := .ended }
  | flush : s.stage = .finishing → s.batch ≠ [] → WorkerStep batchSize s (s.write .ended)

theorem workerStep_cases {batchSize : Int} {s s' : State} (h : workerStep batchSize s = some s') :
    WorkerStep batchSize s s' := by
  unfold workerStep at h
  cases hstage : s.stage with
  | testing =>
    rw [hstage] at h
    cases h
    by_cases hstopped : s.stopped = true
    · rw [if_pos hstopped]
      exact .leave hstage hstopped
    · rw [if_neg hstopped]
      exact .enter hstage (Bool.eq_false_iff.mpr hstopped)
  | reading =>
    rw [hstage] at h
    simp only at h
    split at h
    · rename_i hqueue
      cases h
      exact .empty hstage hqueue
    · rename_i hqueue
      cases h
      exact .read hstage hqueue
  | deciding =>
    rw [hstage] at h
    simp only [Bool.and_eq_true, Bool.not_eq_true', Bool.or_eq_true, decide_eq_true_eq, List.isEmpty_eq_false_iff] at h
    split at h
    · rename_i hfull
      cases h
      exact .full hstage hfull.1 hfull.2
    · rename_i hnot
      cases h
      exact .short hstage (fun hgiven => Int.not_le.mp (fun hle => hnot ⟨hgiven, .inl hle⟩))
  | writing =>
    rw [hstage] at h
    cases h
    exact .write hstage
  | finishing =>
    rw [hstage] at h
    cases h
    split
    · rename_i hempty
      exact .finish hstage (List.isEmpty_iff.mp hempty)
    · rename_i hgiven
      exact .flush hstage (fun he => hgiven (List.isEmpty_iff.mpr he))
  | ended =>
    rw [hstage] at h
    cases h

/-! ## What every run keeps -/

def Stop.Fits (s : State) : Stop → Prop
  | .called before => before ≤ s.enqueued.length
  | .joining _ => True
  | .returned _ => s.stage = .ended

theorem Stop.Fits.mono {s s' : State} {stop : Stop} (h : stop.Fits s)
    (henqueued : s.enqueued.length ≤ s'.enqueued.length) (hstage : s.stage = .ended → s'.stage = .ended) :
    stop.Fits s' := by
  cases stop with
  | called before => exact Nat.le_trans h henqueued
  | joining before => trivial
  | returned before => exact hstage h

/-- The documents in the order they were enqueued are those passed on, then the worker's batch, then
the queue. -/
structure Inv (s : State) : Prop where
  split : s.enqueued = s.passed.flatten ++ s.batch ++ s.queue
  ended : s.stage = .ended → s.batch = []
  stops : ∀ stop ∈ s.stops, stop.Fits s

theorem inv_start : Inv .start := ⟨rfl, fun _ => rfl, fun _ hm => absurd hm List.not_mem_nil⟩

theorem State.write_split {s : State} (next : Stage) (h : s.enqueued = s.passed.flatten ++ s.batch ++ s.queue) :
    (s.write next).enqueued = (s.write next).passed.flatten ++ (s.write next).batch ++ (s.write next).queue := by
  simp [State.write, h]

theorem workerStep_same {batchSize : Int} {s s' : State} (h : workerStep batchSize s = some s') :
    s'.stops = s.stops ∧ s'.enqueued = s.enqueued ∧ s.stage ≠ .ended := by
  cases workerStep_cases h with
  | leave hstage | enter hstage | empty hstage | read hstage | full hstage | short hstage | write hstage
  | finish hstage | flush hstage =>
    refine ⟨rfl, rfl, ?_⟩
    rw [hstage]
    exact Stage.noConfusion

theorem workerStep_inv {batchSize : Int} {s s' : State} (hs : Inv s) (h : workerStep batchSize s = some s') :
    Inv s' := by
  obtain ⟨hsplit, hended, hstops⟩ := hs
  obtain ⟨hsame, henqueued, hrunning⟩ := workerStep_same h
  have hfits : ∀ stop ∈ s'.stops, stop.Fits s' := by
    intro stop hm
    rw [hsame] at hm
    exact (hstops stop hm).mono (Nat.le_of_eq (congrArg List.length henqueued.symm)) (fun he => absurd he hrunning)
  cases workerStep_cases h with
  | leave | enter | empty | full | short => exact ⟨hsplit, nofun, hfits⟩
  | read _ hqueue =>
    refine ⟨?_, nofun, hfits⟩
    simp only [hsplit, hqueue, List.append_assoc, List.singleton_append]
  | write => exact ⟨State.write_split _ hsplit, nofun, hfits⟩
  | finish _ hempty => exact ⟨hsplit, fun _ => hempty, hfits⟩
  | flush => exact ⟨State.write_split _ hsplit, fun _ => rfl, hfits⟩

theorem enqueue_inv {s : State} (hs : Inv s) (moment : Moment) (record : LogRecord) :
    Inv (enqueue s moment record) := by
  obtain ⟨hsplit, hended, hstops⟩ := hs
  unfold enqueue
  split
  · refine ⟨?_, hended, fun stop hm => (hstops stop hm).mono ?_ id⟩
    · simp only [hsplit, List.append_assoc]
    · simp only [List.length_append]
      omega
  · exact ⟨hsplit, hended, hstops⟩

theorem Inv.set_stop {s : State} (hs : Inv s) {stopped : Bool} {i : Nat} {new : Stop} (hnew : new.Fits s) :
    Inv { s with stopped, stops := s.stops.set i new } := by
  obtain ⟨hsplit, hended, hstops⟩ := hs
  refine ⟨hsplit, hended, ?_⟩
  intro stop hm
  rcases List.mem_or_eq_of_mem_set hm with hold | rfl
  · exact (hstops stop hold).mono (Nat.le_refl _) id
  · exact hnew.mono (Nat.le_refl _) id

theorem stopStep_inv {s s' : State} (hs : Inv s) {i : Nat} {stop : Stop} (h : stopStep s i stop = some s') :
    Inv s' := by
  cases stop with
  | called before =>
    cases h
    apply hs.set_stop
    trivial
  | joining before =>
    simp only [stopStep] at h
    split at h
    · rename_i hended
      cases h
      exact hs.set_stop hended
    · cases h
  | returned before => cases h

theorem step_inv {batchSize : Int} {s s' : State} {event : Event} (hs : Inv s)
    (h : step batchSize s event = some s') : Inv s' := by
  cases event with
  | enqueue moment record =>
    cases h
    exact enqueue_inv hs moment record
  | work => exact workerStep_inv hs h
  | stop =>
    obtain ⟨hsplit, hended, hstops⟩ := hs
    cases h
    refine ⟨hsplit, hended, ?_⟩
    intro stop hm
    rcases List.mem_append.mp hm with hold | hnew
    · exact (hstops stop hold).mono (Nat.le_refl _) id
    · cases List.mem_singleton.mp hnew
      exact Nat.le_refl _
  | advance i =>
    obtain ⟨stop, _, h⟩ := Option.bind_eq_some_iff.mp h
    exact stopStep_inv hs h

/-! ## How far the worker still reads -/

/-- How many documents have left the queue. -/
def State.taken (s : State) : Nat := s.enqueued.length - s.queue.length

/-- How many documents have left the queue, or will before the worker tests the flag again. -/
def State.reach (s : State) : Nat := s.taken + if s.stage = .reading then 1 else 0

theorem Inv.lengths {s : State} (h : Inv s) :
    s.taken = s.passed.flatten.length + s.batch.length ∧ s.taken + s.queue.length = s.enqueued.length := by
  have hlength := congrArg List.length h.split
  simp only [List.length_append] at hlength
  unfold State.taken
  omega

/-- The flag is set, and so many documents were enqueued. -/
structure Stopping (n : Nat) (s : State) : Prop where
  inv : Inv s
  stopped : s.stopped = true
  enqueued : n ≤ s.enqueued.length

/-- A worker that has seen the flag leaves its loop, so it reads no further than it could before. -/
theorem workerStep_reach {batchSize : Int} {n : Nat} {s s' : State} (hs : Stopping n s)
    (h : workerStep batchSize s = some s') :
    s'.stopped = true ∧ s'.enqueued = s.enqueued ∧ (n ≤ s'.reach ↔ n ≤ s.reach) := by
  obtain ⟨hinv, hstopped, hn⟩ := hs
  have hlengths := hinv.lengths
  cases workerStep_cases h with
  | enter _ hrunning => cases hstopped.symm.trans hrunning
  | leave hstage | full hstage | short hstage | finish hstage =>
    exact ⟨hstopped, rfl, by simp [State.reach, State.taken, hstage]⟩
  | write hstage | flush hstage =>
    exact ⟨hstopped, rfl, by simp [State.reach, State.taken, State.write, hstage]⟩
  | empty hstage hqueue =>
    refine ⟨hstopped, rfl, ?_⟩
    simp only [State.reach, State.taken, hstage, hqueue, List.length_nil] at hlengths ⊢
    simp only [reduceCtorEq, if_false, if_true]
    omega
  | read hstage hqueue =>
    refine ⟨hstopped, rfl, ?_⟩
    simp only [State.reach, State.taken, hstage, hqueue, List.length_cons] at hlengths ⊢
    simp only [reduceCtorEq, if_false, if_true]
    omega

theorem enqueue_taken (s : State) (moment : Moment) (record : LogRecord) :
    (enqueue s moment record).taken = s.taken ∧ (enqueue s moment record).stage = s.stage ∧
      (enqueue s moment record).stopped = s.stopped ∧
      s.enqueued.length ≤ (enqueue s moment record).enqueued.length := by
  unfold enqueue
  split
  · simp [State.taken]
  · exact ⟨rfl, rfl, rfl, Nat.le_refl _⟩

theorem stopStep_same {s s' : State} {i : Nat} {stop : Stop} (h : stopStep s i stop = some s') :
    s'.reach = s.reach ∧ s'.enqueued = s.enqueued ∧ (s.stopped = true → s'.stopped = true) := by
  cases stop with
  | called before =>
    cases h
    exact ⟨rfl, rfl, fun _ => rfl⟩
  | joining before =>
    simp only [stopStep] at h
    split at h
    · cases h
      exact ⟨rfl, rfl, id⟩
    · cases h
  | returned before => cases h

theorem step_reach {batchSize : Int} {n : Nat} {s s' : State} {event : Event} (hs : Stopping n s)
    (h : step batchSize s event = some s') : Stopping n s' ∧ (n ≤ s'.reach ↔ n ≤ s.reach) := by
  have hinv := step_inv hs.inv h
  have hstopped := hs.stopped
  have hn := hs.enqueued
  cases event with
  | enqueue moment record =>
    cases h
    obtain ⟨htaken, hstage, hflag, hmore⟩ := enqueue_taken s moment record
    refine ⟨⟨hinv, hflag.trans hstopped, hn.trans hmore⟩, ?_⟩
    rw [State.reach, State.reach, htaken, hstage]
  | work =>
    obtain ⟨hflag, hsame, hreach⟩ := workerStep_reach hs h
    exact ⟨⟨hinv, hflag, hsame ▸ hn⟩, hreach⟩
  | stop =>
    cases h
    exact ⟨⟨hinv, hstopped, hn⟩, Iff.rfl⟩
  | advance i =>
    obtain ⟨stop, _, h⟩ := Option.bind_eq_some_iff.mp h
    obtain ⟨hreach, hsame, hflag⟩ := stopStep_same h
    exact ⟨⟨hinv, hflag hstopped, hsame ▸ hn⟩, by rw [hreach]⟩

/-- From when the flag is set, a run leaves the reach of the worker where it was. -/
theorem run_reach {batchSize : Int} {n : Nat} {s₁ s : State} {events : List Event}
    (hs : Stopping n s₁) (h : Run (step batchSize) (fun _ _ => True) s₁ events s) :
    Stopping n s ∧ (n ≤ s.reach ↔ n ≤ s₁.reach) := by
  have hstart : Stopping n s₁ ∧ (n ≤ s₁.reach ↔ n ≤ s₁.reach) := ⟨hs, Iff.rfl⟩
  refine @Run.invariant _ _ _ _ _ _ _ (fun s => Stopping n s ∧ (n ≤ s.reach ↔ n ≤ s₁.reach)) h hstart ?_
  intro t e t' ht _ htaken
  obtain ⟨ht', hsame⟩ := step_reach ht.1 htaken
  exact ⟨ht', hsame.trans ht.2⟩

/-! ## What a stop writes -/

/-- The first `n` documents were passed to `insert_many`, and whatever was, was in queue order and
once. -/
structure Written (n : Nat) (s : State) : Prop where
  all : s.enqueued.take n <+: s.passed.flatten
  once : s.passed.flatten <+: s.enqueued

theorem Inv.written_iff {s : State} (h : Inv s) (hended : s.stage = .ended) {n : Nat}
    (hn : n ≤ s.enqueued.length) : Written n s ↔ n ≤ s.reach := by
  have hlengths := h.lengths
  have hsplit := h.split
  have hbatch := h.ended hended
  rw [hbatch, List.append_nil] at hsplit
  have hreach : s.reach = s.passed.flatten.length := by
    simp only [State.reach, hended, hlengths.1, hbatch, List.length_nil]
    rfl
  have honce : s.passed.flatten <+: s.enqueued := hsplit ▸ List.prefix_append _ _
  constructor
  · intro hwritten
    have hle := hwritten.all.length_le
    rw [List.length_take, Nat.min_eq_left hn] at hle
    rw [hreach]
    exact hle
  · intro hle
    rw [hreach] at hle
    refine ⟨?_, honce⟩
    rw [hsplit, List.take_append_of_le_length hle]
    exact List.take_prefix n _

/-- A worker that finds the flag set passes on its batch, and leaves what is in the queue. So a stop
that returns has seen to the documents enqueued before it just when they had left the queue as it set
the flag, or all but one, and the worker was past its test. -/
theorem stop_writes_iff (batchSize : Int) (before after : List Event) (s₀ s₁ s : State) (i n : Nat)
    (h₀ : Run (step batchSize) (fun _ _ => True) .start before s₀) (hcalled : s₀.stops[i]? = some (.called n))
    (hset : step batchSize s₀ (.advance i) = some s₁)
    (h : Run (step batchSize) (fun _ _ => True) s₁ after s) (hreturned : s.stops[i]? = some (.returned n)) :
    Written n s ↔ n ≤ s₀.reach := by
  have hinv : Inv s₀ := h₀.invariant inv_start (fun hs _ => step_inv hs)
  have hn : n ≤ s₀.enqueued.length := hinv.stops _ (List.mem_of_getElem? hcalled)
  obtain ⟨stop, hstop, hstep⟩ := Option.bind_eq_some_iff.mp hset
  cases Option.some.inj (hcalled.symm.trans hstop)
  cases hstep
  have hstopping : Stopping n { s₀ with stopped := true, stops := s₀.stops.set i (.joining n) } :=
    ⟨step_inv hinv hset, rfl, hn⟩
  obtain ⟨hend, hreach⟩ := run_reach hstopping h
  have hended : s.stage = .ended := hend.inv.stops _ (List.mem_of_getElem? hreturned)
  exact (hend.inv.written_iff hended hend.enqueued).trans hreach

def startupRecord : LogRecord :=
  ⟨"INFO", .ok "service started", "orders", some (.str ""), some (.str ""), some (.str "")⟩

def startupMoment : Moment := ⟨⟨"2024-01-01T00:00:00"⟩, "0af7651916cd43dd8448eb211c80319c", "b7ad6b7169203331"⟩

/-- The one document enqueued had been read when the flag was set. -/
theorem stop_writes_read : ∃ s₀ s : State, s₀.passed = [] ∧ s₀.batch.length = 1 ∧
    s.stops[0]? = some (.returned 1) ∧ Written 1 s := by
  have hexec : ∃ s₀ s₁ s : State,
      [.enqueue startupMoment startupRecord, .work, .work, .work, .stop].foldlM (step 50) .start = some s₀ ∧
      step 50 s₀ (.advance 0) = some s₁ ∧ [.work, .work, .advance 0].foldlM (step 50) s₁ = some s ∧
      s₀.stops[0]? = some (.called 1) ∧ s.stops[0]? = some (.returned 1) ∧ s₀.passed = [] ∧
      s₀.batch.length = 1 ∧ 1 ≤ s₀.reach :=
    ⟨_, _, _, rfl, rfl, rfl, rfl, rfl, rfl, rfl, Nat.le_refl 1⟩
  obtain ⟨s₀, s₁, s, hbefore, hset, hafter, hcalled, hreturned, hnone, hbatch, hreach⟩ := hexec
  have hrun₀ := Run.of_exec (fun _ _ _ => trivial) hbefore
  have hrun := Run.of_exec (fun _ _ _ => trivial) hafter
  exact ⟨s₀, s, hnone, hbatch, hreturned,
    (stop_writes_iff 50 _ _ s₀ s₁ s 0 1 hrun₀ hcalled hset hrun hreturned).mpr hreach⟩

/-- A document that is still in the queue when the worker finds the flag set is never written. -/
theorem stop_loses_queued : ¬ ∀ (batchSize : Int) (events : List Event) (s : State) (i n : Nat),
    1 ≤ batchSize → Run (step batchSize) (fun _ _ => True) .start events s →
    s.stops[i]? = some (.returned n) → Written n s := by
  intro h
  have hrun : Run (step 50) (fun _ _ => True) .start
      [.enqueue startupMoment startupRecord, .stop, .advance 0, .work, .work, .advance 0] _ :=
    Run.of_exec (fun _ _ _ => trivial) rfl
  have hlength := (h 50 _ _ 0 1 (by decide) hrun rfl).all.length_le
  exact absurd hlength (by decide)

end BlocksGenesis.Lmt.LogExporter
