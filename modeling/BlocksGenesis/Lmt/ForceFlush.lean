import BlocksGenesis.Lmt.TraceExporter

/-! What a force_flush that has returned tells: whether the documents that were queued before it have
been through an insert. -/

namespace BlocksGenesis.Lmt.TraceExporter
open Python Machine

/-! ## What failing inserts do with documents -/

/-- The batches a thread is about to insert, its next one first. -/
def Drain.pending : Drain → Buffer
  | .flushing pending _ => pending
  | _ => []

def Worker.pending : Worker → Buffer
  | .flushing pending => pending
  | .draining drain => drain.pending
  | _ => []

def Caller.pending : Caller → Buffer
  | .flushing drain | .closing drain => drain.pending
  | _ => []

/-- The documents of an insert that ended with an error. -/
def failedBy : Answer → Buffer → List Item
  | .refused, (tenantId, docs) :: _ | .raised, (tenantId, docs) :: _ => docs.map (fun doc => (tenantId, doc))
  | _, _ => []

/-- What a thread that such an error ends still had before it. -/
def droppedBy : Answer → Buffer → List Item
  | .raised, _ :: pending => Batches.items pending
  | _, _ => []

def lostBy (answer : Answer) (pending : Buffer) : List Item := failedBy answer pending ++ droppedBy answer pending

/-- The insert that an event may answer. -/
def State.insertAt (s : State) : Event → Answer × Buffer
  | .call _ => (.inserted, [])
  | .work answer => (answer, s.worker.pending)
  | .advance i answer _ => (answer, ((s.callers[i]?).map Caller.pending).getD [])

/-- The exporter with an account of what it does not keep: the documents whose insert ended with an
error, and those no insert was tried for. -/
structure Ledger where
  state : State
  failed : List Item
  dropped : List Item

def Ledger.start : Ledger := ⟨.start, [], []⟩

def ledgerStep (exporter : Exporter) (l : Ledger) (event : Event) : Option Ledger :=
  (step exporter l.state event).map (fun state =>
    let (answer, pending) := l.state.insertAt event
    ⟨state, l.failed ++ failedBy answer pending, l.dropped ++ droppedBy answer pending⟩)

section Moving
variable {exporter : Exporter} {shared shared' : Shared} {answer : Answer}

@[simp] theorem lostBy_nil (answer : Answer) : lostBy answer [] = [] := by
  cases answer <;> rfl

@[simp] theorem lostBy_inserted (pending : Buffer) : lostBy .inserted pending = [] := rfl

/-- Away from an insert, the answer of one does not matter. -/
theorem drainStep_idle {drain : Drain} (h : drain.pending = []) :
    drainStep answer shared drain = drainStep .inserted shared drain := by
  cases drain with
  | flushing pending seen =>
    cases h
    rfl
  | checking buffer | getting buffer | done seen | failed => rfl

/-- A failed insert: its documents are lost, with what the thread drops, and the rest is still held. -/
theorem failed_moved {batch : AttributeValue × List TraceDocument} {pending : Buffer} :
    Moved shared (Batches.items (batch :: pending)) shared (Batches.items pending ++ lostBy .refused (batch :: pending)) ∧
      Moved shared (Batches.items (batch :: pending)) shared ([] ++ lostBy .raised (batch :: pending)) := by
  have hrefused : lostBy .refused (batch :: pending) = batch.2.map (fun doc => (batch.1, doc)) := List.append_nil _
  rw [hrefused]
  exact ⟨.same List.perm_append_comm, .same (List.Perm.refl _)⟩

/-- A step that is not at an insert loses nothing. -/
theorem Moved.idle {held held' : List Item} (h : Moved shared held shared' held') :
    Moved shared held shared' (held' ++ lostBy answer []) := by
  rwa [lostBy_nil, List.append_nil]

theorem drainStep_lost {drain drain' : Drain} (h : drainStep answer shared drain = some (shared', drain')) :
    Moved shared drain.held shared' (drain'.held ++ lostBy answer drain.pending) := by
  cases hpending : drain.pending with
  | nil =>
    rw [drainStep_idle hpending] at h
    exact (drainStep_moved h).idle
  | cons batch pending =>
    cases drain with
    | flushing all seen =>
      change all = batch :: pending at hpending
      subst hpending
      cases answer with
      | inserted =>
        rw [lostBy_inserted, List.append_nil]
        exact drainStep_moved h
      | refused =>
        cases h
        exact failed_moved.1
      | raised =>
        cases h
        exact failed_moved.2
    | checking buffer | getting buffer | done seen | failed => cases hpending

theorem workerStep_idle {worker : Worker} (h : worker.pending = []) :
    workerStep exporter answer shared worker = workerStep exporter .inserted shared worker := by
  cases worker with
  | flushing pending =>
    cases h
    rfl
  | draining drain =>
    change (drainStep answer shared drain).map _ = (drainStep .inserted shared drain).map _
    rw [drainStep_idle h]
  | testing | waiting | filling buffer | failed => rfl

theorem workerStep_lost {worker worker' : Worker}
    (h : workerStep exporter answer shared worker = some (shared', worker')) :
    Moved shared worker.held shared' (worker'.held ++ lostBy answer worker.pending) := by
  cases hpending : worker.pending with
  | nil =>
    rw [workerStep_idle hpending] at h
    exact (workerStep_moved h).idle
  | cons batch pending =>
    rw [← hpending]
    cases worker with
    | draining drain =>
      obtain ⟨after, hafter, he⟩ := Option.map_eq_some_iff.mp h
      cases he
      exact drainStep_lost hafter
    | flushing all =>
      change all = batch :: pending at hpending
      subst hpending
      cases answer with
      | inserted =>
        rw [lostBy_inserted, List.append_nil]
        exact workerStep_moved h
      | refused =>
        cases h
        exact failed_moved.1
      | raised =>
        cases h
        exact failed_moved.2
    | testing | waiting | filling buffer | failed => cases hpending

theorem callerStep_idle {worker : Worker} {late : Bool} {caller : Caller} (h : caller.pending = []) :
    callerStep exporter worker answer late shared caller = callerStep exporter worker .inserted late shared caller := by
  cases caller with
  | flushing drain | closing drain =>
    change (drainStep answer shared drain).map _ = (drainStep .inserted shared drain).map _
    rw [drainStep_idle h]
  | exporting spans | exported success | awaiting | stopping | joining => rfl

theorem callerStep_lost {worker : Worker} {late : Bool} {caller caller' : Caller}
    (h : callerStep exporter worker answer late shared caller = some (shared', caller')) :
    Moved shared caller.held shared' (caller'.held ++ lostBy answer caller.pending) := by
  cases hpending : caller.pending with
  | nil =>
    rw [callerStep_idle hpending] at h
    exact (callerStep_moved h).idle
  | cons batch pending =>
    rw [← hpending]
    cases caller with
    | flushing drain | closing drain =>
      obtain ⟨after, hafter, he⟩ := Option.map_eq_some_iff.mp h
      cases he
      exact drainStep_lost hafter
    | exporting spans | exported success | awaiting | stopping | joining => cases hpending

theorem step_lost {s s' : State} {event : Event} (h : step exporter s event = some s') :
    Moved s.shared s.held s'.shared (s'.held ++ lostBy (s.insertAt event).1 (s.insertAt event).2) := by
  cases step_cases h with
  | call => exact (@step_moved exporter s _ (.call _) trivial h).idle
  | work hafter =>
    apply (workerStep_lost hafter).frame (s.callers.flatMap Caller.held) (List.Perm.refl _)
    rw [State.held, List.append_assoc, List.append_assoc]
    exact List.perm_append_comm.append_left _
  | @advance i answer late caller _ caller' hcaller hafter =>
    obtain ⟨rest, hold, hnew⟩ := flatMap_slot Caller.held hcaller
    have hat : s.insertAt (.advance i answer late) = (answer, caller.pending) := by
      rw [State.insertAt, hcaller]
      rfl
    rw [hat]
    apply (callerStep_lost hafter).frame (s.worker.held ++ rest)
    · exact (hold.append_left _).trans (List.perm_append_comm_assoc _ _ _)
    · have hall := (hnew caller').append_left s.worker.held
      rw [List.perm_iff_count] at hall ⊢
      intro item
      have hitem := hall item
      simp only [State.held, List.count_append] at hitem ⊢
      omega

/-! ## What every run of the account keeps -/

structure Ledger.Kept (l : Ledger) : Prop where
  accounted : Accounted l.state.shared (l.state.held ++ (l.failed ++ l.dropped))
  seen : ∀ (i : Nat) (caller : Caller), l.state.callers[i]? = some caller → caller.seen ≤ l.state.shared.taken

theorem kept_start : Ledger.start.Kept :=
  ⟨(inv_start plainExporter).accounted, (inv_start plainExporter).seen⟩

/-- The account has a place for every document that leaves the hands of a thread. -/
theorem ledgerStep_moved {l l' : Ledger} {event : Event} (h : ledgerStep exporter l event = some l') :
    step exporter l.state event = some l'.state ∧
      Moved l.state.shared (l.state.held ++ (l.failed ++ l.dropped)) l'.state.shared
        (l'.state.held ++ (l'.failed ++ l'.dropped)) := by
  obtain ⟨state, hstep, rfl⟩ := Option.map_eq_some_iff.mp h
  refine ⟨hstep, (step_lost hstep).frame (l.failed ++ l.dropped) (List.Perm.refl _) ?_⟩
  rw [List.perm_iff_count]
  intro item
  simp only [lostBy, List.count_append]
  omega

theorem ledgerStep_kept {l l' : Ledger} {event : Event} (hl : l.Kept) (h : ledgerStep exporter l event = some l') :
    l'.Kept := by
  obtain ⟨hstep, hmoved⟩ := ledgerStep_moved h
  exact ⟨hmoved.accounted hl.accounted, fun i caller => step_seen hl.seen hmoved.taken_le hstep⟩

end Moving

/-! ## When force_flush tells the truth -/

/-- Of what comes from two sources and goes to two places, the first source is all in the one place if
and only if the other place has only of the second source. -/
theorem subperm_iff_of_perm {α : Type} [DecidableEq α] {early late kept done : List α}
    (h : (early ++ late).Perm (kept ++ done)) : early.Subperm done ↔ kept.Subperm late := by
  rw [List.subperm_iff_count, List.subperm_iff_count]
  refine forall_congr' fun a => ?_
  have ha := h.count_eq a
  rw [List.count_append, List.count_append] at ha
  omega

/-- What has left the queue, but for the first so many that were accepted. -/
def Ledger.takenAfter (l : Ledger) (n : Nat) : List Item :=
  (l.state.shared.accepted.take l.state.shared.taken).drop n

/-- A `force_flush` that has returned. -/
def Flushed (s : State) (i : Nat) : Prop := ∃ seen, s.callers[i]? = some (.flushing (.done seen))

/-- Whatever was queued while a force_flush waited has been through an insert when it has returned,
exactly if all that the threads still hold, or dropped when an insert ended them, was queued after. -/
theorem force_flush_true_iff (exporter : Exporter) {before after : List Event} {l₀ l : Ledger} {i : Nat}
    (h₀ : Run (ledgerStep exporter) (fun _ _ => True) .start before l₀)
    (h : Run (ledgerStep exporter) (fun _ _ => True) l₀ after l)
    (hcalled : l₀.state.callers[i]? = some .awaiting) (hreturned : Flushed l.state i) :
    l₀.state.shared.accepted.Subperm (l.failed ++ l.state.shared.inserted) ↔
      (l.state.held ++ l.dropped).Subperm (l.takenAfter l₀.state.shared.accepted.length) := by
  have hkept := h.invariant (h₀.invariant kept_start (fun hl _ => ledgerStep_kept hl)) (fun hl _ => ledgerStep_kept hl)
  have hsince : Since l₀.state.shared.accepted i l.state := by
    apply @Run.invariant _ _ _ _ _ _ _ (fun l => Since l₀.state.shared.accepted i l.state) h (since_called hcalled trivial)
    intro l event l' hs _ hstep
    obtain ⟨hstep, hmoved⟩ := ledgerStep_moved hstep
    exact step_since hs hmoved.accepted_earlier hstep
  obtain ⟨seen, hreturned⟩ := hreturned
  have htaken : l₀.state.shared.accepted.length ≤ l.state.shared.taken :=
    (hsince.looks _ hreturned seen rfl).trans (hkept.seen i _ hreturned)
  have hsplit : l₀.state.shared.accepted ++ l.takenAfter l₀.state.shared.accepted.length =
      l.state.shared.accepted.take l.state.shared.taken := by
    obtain ⟨later, hlater⟩ := hsince.accepted
    rw [Ledger.takenAfter, ← hlater, List.take_append, List.take_of_length_le htaken, List.drop_left]
  apply subperm_iff_of_perm
  rw [hsplit]
  refine hkept.accounted.left.trans ?_
  rw [List.perm_iff_count]
  intro item
  simp only [List.count_append]
  omega

/-- One span is exported and read by the worker, and a force_flush is called. -/
def readAndCalled : List Event :=
  [.call (.exporting [rootSpan]), .advance 0 .inserted false, .work .inserted, .work .inserted, .call .awaiting]

def flushNothing : List Event := [.advance 1 .inserted false, .advance 1 .inserted false, .advance 1 .inserted false]

/-- The worker finds nothing more to read, and writes its one batch. -/
def writeBatch : List Event := [.work .inserted, .work .inserted]

/-- The worker writes what it read before the force_flush returns. -/
theorem worker_was_quicker : ∃ l₀ l : Ledger, l₀.state.shared.accepted.length = 1 ∧ Flushed l.state 1 ∧
    l₀.state.shared.accepted.Subperm (l.failed ++ l.state.shared.inserted) := by
  have hexec : ∃ l₀ l : Ledger, readAndCalled.foldlM (ledgerStep plainExporter) .start = some l₀ ∧
      (writeBatch ++ flushNothing).foldlM (ledgerStep plainExporter) l₀ = some l ∧
      l₀.state.callers[1]? = some .awaiting ∧ Flushed l.state 1 ∧ l₀.state.shared.accepted.length = 1 ∧
      l.state.held ++ l.dropped = [] :=
    ⟨_, _, rfl, rfl, rfl, ⟨_, rfl⟩, rfl, rfl⟩
  obtain ⟨l₀, l, hbefore, hafter, hcalled, hreturned, hone, hidle⟩ := hexec
  have hiff := force_flush_true_iff plainExporter (Run.of_exec (fun _ _ _ => trivial) hbefore)
    (Run.of_exec (fun _ _ _ => trivial) hafter) hcalled hreturned
  refine ⟨l₀, l, hone, hreturned, hiff.mpr ?_⟩
  rw [hidle]
  exact List.nil_subperm

/-- The queue is empty and the worker holds the document: force_flush returns, and nothing is written. -/
theorem force_flush_returns_too_early : ∃ l₀ l : Ledger,
    Run (ledgerStep plainExporter) (fun _ _ => True) .start readAndCalled l₀ ∧
    Run (ledgerStep plainExporter) (fun _ _ => True) l₀ flushNothing l ∧
    l₀.state.callers[1]? = some .awaiting ∧ Flushed l.state 1 ∧ l₀.state.shared.accepted.length = 1 ∧
    l.failed ++ l.state.shared.inserted = [] ∧
    ¬ l₀.state.shared.accepted.Subperm (l.failed ++ l.state.shared.inserted) := by
  have hexec : ∃ l₀ l : Ledger, readAndCalled.foldlM (ledgerStep plainExporter) .start = some l₀ ∧
      flushNothing.foldlM (ledgerStep plainExporter) l₀ = some l ∧ l₀.state.callers[1]? = some .awaiting ∧
      Flushed l.state 1 ∧ l₀.state.shared.accepted.length = 1 ∧ l.failed ++ l.state.shared.inserted = [] :=
    ⟨_, _, rfl, rfl, rfl, ⟨_, rfl⟩, rfl, rfl⟩
  obtain ⟨l₀, l, hbefore, hafter, hcalled, hreturned, hone, hnothing⟩ := hexec
  refine ⟨l₀, l, Run.of_exec (fun _ _ _ => trivial) hbefore, Run.of_exec (fun _ _ _ => trivial) hafter, hcalled,
    hreturned, hone, hnothing, fun h => ?_⟩
  have hle := h.length_le
  rw [hone, hnothing] at hle
  exact Nat.not_succ_le_zero 0 hle

end BlocksGenesis.Lmt.TraceExporter
