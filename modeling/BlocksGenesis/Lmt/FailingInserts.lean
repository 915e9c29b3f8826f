import BlocksGenesis.Lmt.TraceExporter

/-! Inserts that fail: which batches the worker still tries, and whether it goes on. -/

namespace BlocksGenesis.Lmt.TraceExporter
open Python Machine

/-- What `insert_many` raises: an error of the driver's own family, or any other exception, such as one
of the encoder about a value that BSON has no room for. -/
inductive InsertError where
  | pyMongo (name : String)
  | other (e : Exc)

/-- `except errors.PyMongoError`. -/
def InsertError.caught : InsertError → Bool
  | .pyMongo _ => true
  | .other _ => false

abbrev Batch := AttributeValue × List TraceDocument

/-- What comes of the last of the inserts that were tried. -/
abbrev InsertMany := List Batch → Except InsertError Unit

/-- `_flush_to_mongo`, after these inserts: all that were tried then, and what it raised. -/
def flushToMongo (insertMany : InsertMany) : Buffer → List Batch → List Batch × Option InsertError
  | [], tried => (tried, none)
  | batch :: batches, tried =>
    match insertMany (tried ++ [batch]) with
    | .ok _ => flushToMongo insertMany batches (tried ++ [batch])
    | .error e =>
      if e.caught then flushToMongo insertMany batches (tried ++ [batch]) else (tried ++ [batch], some e)

/-- The loop of `_run` over what its rounds gathered. What a flush raises ends the thread. -/
def runRounds (insertMany : InsertMany) : List Buffer → List Batch → List Batch × Option InsertError
  | [], tried => (tried, none)
  | batches :: rounds, tried =>
    match flushToMongo insertMany batches tried with
    | (tried, none) => runRounds insertMany rounds tried
    | (tried, some e) => (tried, some e)

/-- Every batch of every round was tried, once and in order, and the loop goes on. -/
structure Processed (rounds : List Buffer) (outcome : List Batch × Option InsertError) : Prop where
  tried : outcome.1 = rounds.flatten
  goesOn : outcome.2 = none

section Flushing
variable {insertMany : InsertMany} {batches : Buffer} {tried : List Batch}

/-- A flush that raises nothing has tried all its batches. -/
theorem flushToMongo_tried (h : (flushToMongo insertMany batches tried).2 = none) :
    (flushToMongo insertMany batches tried).1 = tried ++ batches := by
  induction batches generalizing tried with
  | nil => exact (List.append_nil tried).symm
  | cons batch batches ih =>
    rw [List.append_cons]
    rw [flushToMongo] at h ⊢
    split at h
    · exact ih h
    · split at h
      · rename_i hcaught
        rw [if_pos hcaught]
        exact ih h
      · cases h

/-- It raises nothing if the driver's own errors are all that its inserts raise. -/
theorem flushToMongo_none_iff : (flushToMongo insertMany batches tried).2 = none ↔
    ∀ before batch after, batches = before ++ batch :: after →
      ∀ e, insertMany (tried ++ before ++ [batch]) = .error e → e.caught = true := by
  induction batches generalizing tried with
  | nil =>
    refine ⟨fun _ before batch after hbatches => ?_, fun _ => rfl⟩
    exact absurd hbatches (by simp)
  | cons batch batches ih =>
    -- The first insert, and those of the batches after it.
    have hsplit : (∀ before other after, batch :: batches = before ++ other :: after →
          ∀ e, insertMany (tried ++ before ++ [other]) = .error e → e.caught = true) ↔
        (∀ e, insertMany (tried ++ [batch]) = .error e → e.caught = true) ∧
          ∀ before other after, batches = before ++ other :: after →
            ∀ e, insertMany (tried ++ [batch] ++ before ++ [other]) = .error e → e.caught = true := by
      constructor
      · intro h
        refine ⟨?_, ?_⟩
        · have hfirst := h [] batch batches rfl
          rwa [List.append_nil] at hfirst
        · intro before other after hbatches
          have hlater := h (batch :: before) other after (by rw [hbatches, List.cons_append])
          rwa [List.append_cons tried] at hlater
      · rintro ⟨hfirst, hlater⟩ before other after hbatches
        cases before with
        | nil =>
          cases hbatches
          rwa [List.append_nil]
        | cons head before =>
          cases hbatches
          rw [List.append_cons tried]
          exact hlater before other after rfl
    rw [hsplit, ← ih, flushToMongo]
    cases hinsert : insertMany (tried ++ [batch]) with
    | ok _ => exact ⟨fun h => ⟨nofun, h⟩, And.right⟩
    | error e =>
      dsimp only
      split
      · rename_i hcaught
        refine ⟨fun h => ⟨?_, h⟩, And.right⟩
        rintro _ ⟨⟩
        exact hcaught
      · rename_i hescapes
        exact ⟨nofun, fun h => absurd (h.1 e rfl) hescapes⟩

/-- The rounds of the loop come to one flush of all their batches. -/
theorem runRounds_eq (insertMany : InsertMany) (rounds : List Buffer) (tried : List Batch) :
    runRounds insertMany rounds tried = flushToMongo insertMany rounds.flatten tried := by
  have happend : ∀ (first rest : Buffer) (tried : List Batch), flushToMongo insertMany (first ++ rest) tried =
      match flushToMongo insertMany first tried with
      | (tried, none) => flushToMongo insertMany rest tried
      | (tried, some e) => (tried, some e) := by
    intro first rest
    induction first with
    | nil =>
      intro tried
      rfl
    | cons batch first ih =>
      intro tried
      rw [List.cons_append, flushToMongo, flushToMongo]
      split
      · exact ih _
      · split
        · exact ih _
        · rfl
  induction rounds generalizing tried with
  | nil => rfl
  | cons batches rounds ih =>
    rw [runRounds, List.flatten_cons, happend]
    split
    · exact ih _
    · rfl

/-! ## The same as the worker's steps -/

/-- How the machine tells what an insert may do. -/
def answerOf : Except InsertError Unit → Answer
  | .ok _ => .inserted
  | .error e => if e.caught then .refused else .raised

/-- What the machine is told of the inserts of a flush, until one of them ends it. -/
def flushAnswers (insertMany : InsertMany) : Buffer → List Batch → List Answer
  | [], _ => []
  | batch :: batches, tried =>
    match answerOf (insertMany (tried ++ [batch])) with
    | .raised => [.raised]
    | answer => answer :: flushAnswers insertMany batches (tried ++ [batch])

/-- The worker at a flush comes to the same end as the code of it, insert by insert, and no other thread takes part. -/
structure Flushes (exporter : Exporter) (insertMany : InsertMany) (s : State) (batches : Buffer) (tried : List Batch)
    (s' : State) : Prop where
  run : ((flushAnswers insertMany batches tried).map Event.work).foldlM (step exporter) s = some s'
  inserts : tried.length + (flushAnswers insertMany batches tried).length =
    (flushToMongo insertMany batches tried).1.length
  queue : s'.shared.queue = s.shared.queue
  callers : s'.callers = s.callers
  worker : s'.worker = match (flushToMongo insertMany batches tried).2 with
    | none => .flushing []
    | some _ => .failed

theorem work_flush (exporter : Exporter) (insertMany : InsertMany) {s : State} (h : s.worker = .flushing batches)
    (tried : List Batch) : ∃ s', Flushes exporter insertMany s batches tried s' := by
  induction batches generalizing s tried with
  | nil => exact ⟨s, rfl, rfl, rfl, rfl, h⟩
  | cons batch batches ih =>
    -- The insert at hand, and then the rest of the flush.
    have hnext : ∀ (answer : Answer) (shared : Shared), insertNext answer s.shared batch.1 batch.2 = some shared →
        shared.queue = s.shared.queue →
        flushAnswers insertMany (batch :: batches) tried =
          answer :: flushAnswers insertMany batches (tried ++ [batch]) →
        flushToMongo insertMany (batch :: batches) tried = flushToMongo insertMany batches (tried ++ [batch]) →
        ∃ s', Flushes exporter insertMany s (batch :: batches) tried s' := by
      intro answer shared hinsert hqueue hanswers hflush
      have hstep : step exporter s (.work answer) = some { s with shared, worker := .flushing batches } := by
        change (workerStep exporter answer s.shared s.worker).map _ = _
        rw [h, workerStep, hinsert]
        rfl
      obtain ⟨s', hrest⟩ := @ih { s with shared, worker := .flushing batches } rfl (tried ++ [batch])
      refine ⟨s', ?_, ?_, hrest.queue.trans hqueue, hrest.callers, ?_⟩
      · rw [hanswers, List.map_cons, List.foldlM_cons, hstep]
        exact hrest.run
      · rw [hanswers, hflush, ← hrest.inserts, List.length_append, List.length_cons, List.length_singleton]
        omega
      · rw [hflush]
        exact hrest.worker
    cases hinsert : insertMany (tried ++ [batch]) with
    | ok _ =>
      refine hnext .inserted _ rfl rfl ?_ ?_
      · rw [flushAnswers, hinsert]
        rfl
      · rw [flushToMongo, hinsert]
    | error e =>
      cases hcaught : e.caught with
      | true =>
        refine hnext .refused _ rfl rfl ?_ ?_
        · rw [flushAnswers, hinsert, answerOf, if_pos hcaught]
        · rw [flushToMongo, hinsert]
          exact if_pos hcaught
      | false =>
        have hescapes : ¬ e.caught = true := by simp [hcaught]
        have hanswers : flushAnswers insertMany (batch :: batches) tried = [.raised] := by
          rw [flushAnswers, hinsert, answerOf, if_neg hescapes]
        have hflush : flushToMongo insertMany (batch :: batches) tried = (tried ++ [batch], some e) := by
          rw [flushToMongo, hinsert]
          exact if_neg hescapes
        refine ⟨{ s with worker := .failed }, ?_, ?_, rfl, rfl, ?_⟩
        · rw [hanswers]
          change (step exporter s (.work .raised)).bind _ = _
          change ((workerStep exporter .raised s.shared s.worker).map _).bind _ = _
          rw [h]
          rfl
        · rw [hanswers, hflush, List.length_append]
          rfl
        · rw [hflush]

end Flushing

/-- Every tenant's batch is tried, and the worker goes on, exactly while no insert raises anything but an error of the
driver's own family; and the worker of the threads does what is said here of a round in each of its flushes, whatever
was tried before. -/
theorem every_batch_tried_iff (exporter : Exporter) (insertMany : InsertMany) :
    (∀ rounds : List Buffer, Processed rounds (runRounds insertMany rounds []) ↔
      ∀ before batch after, rounds.flatten = before ++ batch :: after →
        ∀ e, insertMany (before ++ [batch]) = .error e → e.caught = true) ∧
    ∀ (s : State) batches tried, s.worker = .flushing batches → ∃ s', Flushes exporter insertMany s batches tried s' := by
  refine ⟨fun rounds => ?_, fun s batches tried h => work_flush exporter insertMany h tried⟩
  have hiff := @flushToMongo_none_iff insertMany rounds.flatten []
  rw [runRounds_eq]
  simp only [List.nil_append] at hiff
  rw [← hiff]
  exact ⟨Processed.goesOn, fun h => ⟨flushToMongo_tried h, h⟩⟩

/-! ## A value BSON has no room for -/

/-- An integer of a document has eight bytes, one bit of them its sign. -/
def Scalar.fits : Scalar → Bool
  | .int n => decide (-9223372036854775808 ≤ n ∧ n ≤ 9223372036854775807)
  | _ => true

def AttributeValue.fits : AttributeValue → Bool
  | .one value => Scalar.fits value
  | .many values => values.all Scalar.fits

/-- An insert that fails by what the encoder says of the last batch only. -/
def insertFitting (tried : List Batch) : Except InsertError Unit :=
  match tried.getLast? with
  | some (_, docs) =>
    if docs.all (fun doc => doc.attributes.all (fun entry => AttributeValue.fits entry.2)) then .ok ()
    else .error (.other .overflow)
  | none => .ok ()

def documentsOf (span : Span) : List TraceDocument :=
  match spanItem plainExporter span with
  | .ok (_, doc) => [doc]
  | .error _ => []

def wideSpan : Span :=
  { rootSpan with attributes := [("baggage.TenantId", .str "acme"), ("order.number", .one (.int 18446744073709551616))] }

/-- One tenant's document has an attribute that is too large: the other tenant's batch of that flush is
never tried, nor anything after it. -/
theorem wide_attribute_ends_the_worker :
    let wide : Batch := (.str "acme", documentsOf wideSpan)
    let plain : Batch := (.str "globex", documentsOf rootSpan)
    runRounds insertFitting [[wide, plain], [plain]] [] = ([wide], some (.other .overflow)) ∧
      ¬ Processed [[wide, plain], [plain]] (runRounds insertFitting [[wide, plain], [plain]] []) := by
  refine ⟨rfl, fun h => ?_⟩
  cases h.goesOn

end BlocksGenesis.Lmt.TraceExporter
