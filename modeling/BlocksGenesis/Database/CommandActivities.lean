import BlocksGenesis.Lmt.Activity

/-! The listener that gives every Mongo command an activity, whichever threads the commands run in. -/

namespace BlocksGenesis.Database.CommandActivities
open Python Machine BlocksGenesis.Lmt BlocksGenesis.Lmt.Activity

inductive Outcome where
  | running
  | succeeded
  | failed (failure : String)
deriving DecidableEq, Repr

/-- A command that was started, with the place of its activity, and what was current in its flow before. -/
structure Command where
  requestId : Int
  flow : Nat
  scope : Nat
  before : Option Nat
  outcome : Outcome

def Command.isRunning (c : Command) : Bool := c.outcome == .running

/-- `commands` is what happened so far; the listener has its `_activities` only. -/
structure State where
  process : Activity.State := {}
  activities : Dict Int Nat := []
  commands : List Command := []

/-- The driver tells the listener of a command in the flow the command runs in. -/
inductive Event where
  | started (flow : Nat) (commandName : String) (requestId : Int) (timestamp : String) (tenantId : Option String)
      (time : Int)
  | ended (flow : Nat) (requestId : Int) (failure : Option String) (durationMs : PyFloat) (time : Int)
  | other (e : Activity.Event)

/-! ## The listener -/

def startedProperties (commandName : String) (requestId : Int) (timestamp : String) (tenantId : Option String) :
    List (String × AttributeValue) :=
  [("db.system", .str "mongodb"), ("db.operation", .str commandName), ("db.request_id", .str (toString requestId)),
    ("db.timestamp", .str timestamp), ("baggage.TenantId", .str (tenantId.getD "miscellaneous"))]

/-- What `started` does with the activity it makes, which is the next one. -/
def startedEvents (s : Activity.State) (flow : Nat) (commandName : String) (requestId : Int) (timestamp : String)
    (tenantId : Option String) (time : Int) : List Activity.Event :=
  .start flow ("MongoDb::" ++ commandName) time ::
    (startedProperties commandName requestId timestamp tenantId).map
      (fun property => .setProperty s.scopes.length property.1 property.2)

/-- What `succeeded` and `failed` do with the activity of the command. -/
def endedEvents (flow i : Nat) (failure : Option String) (durationMs : PyFloat) (time : Int) : List Activity.Event :=
  .setProperty i "db.duration_ms" (.one (.float durationMs)) ::
    match failure with
    | none => [.setStatus i .ok "", .stop flow i time]
    | some text => [.setProperty i "exception.message" (.str text), .setStatus i .error text, .stop flow i time]

def outcomeOf : Option String → Outcome
  | none => .succeeded
  | some failure => .failed failure

def settle (commands : List Command) (i : Nat) (outcome : Outcome) : List Command :=
  commands.map (fun c => if c.scope = i then { c with outcome } else c)

def step (sdk : Sdk) (s : State) : Event → Option State
  | .started flow commandName requestId timestamp tenantId time =>
    ((startedEvents s.process flow commandName requestId timestamp tenantId time).foldlM (Activity.step sdk)
      s.process).map
      (fun process => {
        process
        activities := s.activities.set requestId s.process.scopes.length
        commands := s.commands ++
          [⟨requestId, flow, s.process.scopes.length, s.process.currentSpan flow, .running⟩] })
  | .ended flow requestId failure durationMs time =>
    match s.activities.lookup requestId with
    | none => some s
    | some i =>
      ((endedEvents flow i failure durationMs time).foldlM (Activity.step sdk) s.process).map (fun process => {
        process
        activities := s.activities.pop requestId
        commands := settle s.commands i (outcomeOf failure) })
  | .other e => (Activity.step sdk s.process e).map (fun process => { s with process })

/-! ## What the driver and the application keep to -/

def Busy (s : State) (flow : Nat) : Prop := ∃ c ∈ s.commands, c.isRunning = true ∧ c.flow = flow

def IsCommand (s : State) (i : Nat) : Prop := ∃ c ∈ s.commands, c.scope = i

/-- A flow waits for its command, and nobody but the listener has the command's activity. The ids of the
commands in flight are distinct. -/
def Allowed (s : State) : Event → Prop
  | .started flow _ requestId _ _ _ => ¬ Busy s flow ∧ ∀ c ∈ s.commands, c.isRunning = true → c.requestId ≠ requestId
  | .ended flow requestId _ _ _ => ∃ c ∈ s.commands, c.isRunning = true ∧ c.requestId = requestId ∧ c.flow = flow
  | .other e => (∀ flow ∈ runsIn e, ¬ Busy s flow) ∧ ∀ i ∈ named e, ¬ IsCommand s i

instance (s : State) (flow : Nat) : Decidable (Busy s flow) := inferInstanceAs (Decidable (∃ c ∈ s.commands, _))

instance (s : State) (i : Nat) : Decidable (IsCommand s i) := inferInstanceAs (Decidable (∃ c ∈ s.commands, _))

instance (s : State) (e : Event) : Decidable (Allowed s e) :=
  match e with
  | .started _ _ _ _ _ _ => inferInstanceAs (Decidable (_ ∧ ∀ c ∈ s.commands, _))
  | .ended _ _ _ _ _ => inferInstanceAs (Decidable (∃ c ∈ s.commands, _))
  | .other _ => inferInstanceAs (Decidable (_ ∧ _))

/-! ## The two sequences -/

section Sequences
variable {sdk : Sdk} {p p' : Activity.State} {flow i j requestId' : Nat} {scope : Scope} {recorded : Recorded}

/-- Attributes are added, and nothing else is changed. -/
def Marks (f : Span → Span) : Prop := ∀ span, (f span).endTime = span.endTime ∧ (f span).statusCode = span.statusCode

theorem setProperty_marks (hsdk : sdk.Lawful) (key : String) (value : AttributeValue) :
    Marks (fun span => setProperty sdk span key value) := by
  intro span
  dsimp only
  unfold setProperty
  split
  · obtain ⟨_, hset⟩ := hsdk.onlyAttributes span key value
    rw [hset]
    exact ⟨rfl, rfl⟩
  · exact ⟨rfl, rfl⟩

theorem setProperty_step (hscope : p.scopes[i]? = some scope) (key : String) (value : AttributeValue) :
    Activity.step sdk p (.setProperty i key value) =
      some (updateSpan p scope.span (fun span => setProperty sdk span key value)) := by
  simp [Activity.step, onScope, hscope]

theorem setProperties_run (hsdk : sdk.Lawful) (hscope : p.scopes[i]? = some scope)
    (properties : List (String × AttributeValue)) :
    ∃ f, Marks f ∧ (properties.map (fun property => Activity.Event.setProperty i property.1 property.2)).foldlM
      (Activity.step sdk) p = some (updateSpan p scope.span f) := by
  induction properties generalizing p with
  | nil => exact ⟨fun span => span, fun _ => ⟨rfl, rfl⟩, congrArg some (updateSpan_same p scope.span).symm⟩
  | cons property properties ih =>
    have hnext : (updateSpan p scope.span (fun span => setProperty sdk span property.1 property.2)).scopes[i]? =
        some scope := hscope
    obtain ⟨f, hf, hrun⟩ := ih hnext
    refine ⟨fun span => f (setProperty sdk span property.1 property.2), fun span => ?_, ?_⟩
    · obtain ⟨hend, hstatus⟩ := setProperty_marks hsdk property.1 property.2 span
      exact ⟨(hf _).1.trans hend, (hf _).2.trans hstatus⟩
    · rw [List.map_cons, List.foldlM_cons, setProperty_step hscope, Option.bind_eq_bind, Option.bind_some, hrun,
        updateSpan_updateSpan]

/-- A new activity, with more attributes. -/
def begun (sdk : Sdk) (p : Activity.State) (flow : Nat) (name : String) (time : Int) (f : Span → Span) :
    Activity.State :=
  updateSpan (startActivity sdk p flow name time) p.spans.length f

/-- A command that starts: one more activity, with attributes of its own. -/
theorem startedEvents_run {commandName timestamp : String} {requestId : Int} {tenantId : Option String} {time : Int}
    (hsdk : sdk.Lawful)
    (h : (startedEvents p flow commandName requestId timestamp tenantId time).foldlM (Activity.step sdk) p = some p') :
    flow < p.current.length ∧ ∃ f, Marks f ∧ p' = begun sdk p flow ("MongoDb::" ++ commandName) time f := by
  unfold startedEvents at h
  rw [List.foldlM_cons] at h
  obtain ⟨next, hstart, hrest⟩ := Option.bind_eq_some_iff.mp h
  obtain ⟨hflow, hnext⟩ := Option.ite_none_right_eq_some.mp hstart
  cases hnext
  have hscope : (startActivity sdk p flow ("MongoDb::" ++ commandName) time).scopes[p.scopes.length]? = some _ :=
    List.getElem?_concat_length
  obtain ⟨f, hf, hrun⟩ := setProperties_run hsdk hscope (startedProperties commandName requestId timestamp tenantId)
  exact ⟨hflow, f, hf, (Option.some.inj (hrun.symm.trans hrest)).symm⟩

/-- How a span tells the outcome of its command. -/
def Told (span : Span) : Outcome → Prop
  | .running => span.endTime = none ∧ span.statusCode = unsetStatus
  | .succeeded => span.endTime.isSome = true ∧ span.statusCode = StatusCode.ok.name ∧ span.statusDescription = none
  | .failed failure => span.endTime.isSome = true ∧ span.statusCode = StatusCode.error.name ∧
      span.statusDescription = if failure.isEmpty then none else some failure

theorem newActivity_running (hsdk : sdk.Lawful) (p : Activity.State) (flow : Nat) (name : String) (time : Int) :
    Told (newActivity sdk p flow name time).span .running := by
  obtain ⟨_, _, hstarts⟩ := hsdk.starts p.spans.length
    (((parentOf p (p.currentSpan flow)).map Recorded.context).or none) name "SpanKind.INTERNAL" time
  have hstarted :
      Told (startSpan sdk p name "SpanKind.INTERNAL" true (p.currentSpan flow) none time).span .running := by
    unfold startSpan
    dsimp only
    rw [hstarts]
    exact ⟨rfl, rfl⟩
  unfold newActivity inherit
  split
  · obtain ⟨_, hset⟩ := hsdk.setAttributes_only
      (startSpan sdk p name "SpanKind.INTERNAL" true (p.currentSpan flow) none time).span
      (baggageOf (rootAttributes p flow))
    dsimp only
    rw [hset]
    exact hstarted
  · exact hstarted

theorem begun_told {f : Span → Span} (hsdk : sdk.Lawful) (hf : Marks f) (p : Activity.State) (flow : Nat)
    (name : String) (time : Int) : ∃ recorded, (begun sdk p flow name time f).spans[p.spans.length]? = some recorded ∧
      (recorded.sampled = true → Told recorded.span .running) := by
  have hget : (startActivity sdk p flow name time).spans[p.spans.length]? = some (newActivity sdk p flow name time) :=
    List.getElem?_concat_length
  obtain ⟨hend, hstatus⟩ := newActivity_running hsdk p flow name time
  refine ⟨_, updateSpan_get_self hget, fun _ => ?_⟩
  split
  · exact ⟨(hf _).1.trans hend, (hf _).2.trans hstatus⟩
  · exact ⟨hend, hstatus⟩

theorem begun_scope (hlength : p.scopes.length = p.spans.length) (f : Span → Span) (flow : Nat) (name : String)
    (time : Int) : ∃ scope, (begun sdk p flow name time f).scopes[p.spans.length]? = some scope ∧ scope.flow = flow ∧
      scope.detached = false ∧ scope.before = p.currentSpan flow := by
  have hget : (begun sdk p flow name time f).scopes[p.scopes.length]? = some _ := List.getElem?_concat_length
  rw [hlength] at hget
  exact ⟨_, hget, rfl, rfl, rfl⟩

theorem begun_get {f : Span → Span} {name : String} {time : Int} (hget : p.spans[j]? = some recorded) :
    (begun sdk p flow name time f).spans[j]? = some recorded := by
  have hlt := (List.getElem?_eq_some_iff.mp hget).1
  unfold begun
  rw [updateSpan_get_ne (Nat.ne_of_gt hlt)]
  exact slot_append_left hget

theorem begun_current {f : Span → Span} {name : String} {time : Int} (hin : flow < p.current.length) :
    (begun sdk p flow name time f).currentSpan j = if j = flow then some p.spans.length else p.currentSpan j :=
  currentSpan_set (s := p) hin (some p.spans.length)

/-- The span of a command that has ended. -/
def endedSpan (sdk : Sdk) (failure : Option String) (durationMs : PyFloat) (time : Int) (span : Span) : Span :=
  let timed := setProperty sdk span "db.duration_ms" (.one (.float durationMs))
  match failure with
  | none => sdk.endSpan (sdk.setStatus timed .ok "") time
  | some text =>
    sdk.endSpan (sdk.setStatus (setProperty sdk timed "exception.message" (.str text)) .error text) time

theorem ended_ok {time : Int} {span : Span} (hsdk : sdk.Lawful) (h : Told span .running) :
    Told (sdk.endSpan (sdk.setStatus span .ok "") time) .succeeded := by
  rw [hsdk.statusOk span "" h.1 h.2, hsdk.ends]
  · exact ⟨rfl, rfl, rfl⟩
  · exact h.1

theorem ended_error {time : Int} {span : Span} (hsdk : sdk.Lawful) (text : String) (h : Told span .running) :
    Told (sdk.endSpan (sdk.setStatus span .error text) time) (.failed text) := by
  rw [hsdk.statusError span text h.1 h.2, hsdk.ends]
  · exact ⟨rfl, rfl, rfl⟩
  · exact h.1

theorem endedSpan_told {failure : Option String} {durationMs : PyFloat} {time : Int} {span : Span}
    (hsdk : sdk.Lawful) (h : Told span .running) :
    Told (endedSpan sdk failure durationMs time span) (outcomeOf failure) := by
  have hmarked : ∀ span key value, Told span .running → Told (setProperty sdk span key value) .running := by
    intro span key value hspan
    obtain ⟨hend, hstatus⟩ := setProperty_marks hsdk key value span
    exact ⟨hend.trans hspan.1, hstatus.trans hspan.2⟩
  have htimed := hmarked span "db.duration_ms" (.one (.float durationMs)) h
  cases failure with
  | none => exact ended_ok hsdk htimed
  | some text => exact ended_error hsdk text (hmarked _ _ _ htimed)

theorem setStatus_step (hscope : p.scopes[i]? = some scope) (code : StatusCode) (description : String) :
    Activity.step sdk p (.setStatus i code description) =
      some (updateSpan p scope.span (fun span => sdk.setStatus span code description)) := by
  simp [Activity.step, onScope, hscope]

theorem stop_step (hscope : p.scopes[i]? = some scope) (time : Int) : Activity.step sdk p (.stop flow i time) =
    some (detach (updateSpan p scope.span (fun span => sdk.endSpan span time)) flow i scope) := by
  simp [Activity.step, hscope, stopActivity]

/-- A command that ends: its span is ended, and gives way to what was current before. -/
theorem endedEvents_run {failure : Option String} {durationMs : PyFloat} {time : Int}
    (hscope : p.scopes[i]? = some scope) : (endedEvents flow i failure durationMs time).foldlM (Activity.step sdk) p =
      some (detach (updateSpan p scope.span (endedSpan sdk failure durationMs time)) flow i scope) := by
  have hkept : ∀ f, (updateSpan p scope.span f).scopes[i]? = some scope := fun _ => hscope
  unfold endedEvents endedSpan
  rw [List.foldlM_cons, setProperty_step hscope, Option.bind_eq_bind, Option.bind_some]
  cases failure with
  | none =>
    dsimp only
    rw [List.foldlM_cons, setStatus_step (hkept _), Option.bind_eq_bind, Option.bind_some, updateSpan_updateSpan,
      List.foldlM_cons, stop_step (hkept _), updateSpan_updateSpan]
    rfl
  | some text =>
    dsimp only
    rw [List.foldlM_cons, setProperty_step (hkept _), Option.bind_eq_bind, Option.bind_some, updateSpan_updateSpan,
      List.foldlM_cons, setStatus_step (hkept _), Option.bind_eq_bind, Option.bind_some,
      updateSpan_updateSpan, List.foldlM_cons, stop_step (hkept _), updateSpan_updateSpan]
    rfl

end Sequences

/-! ## Every run -/

/-- The activity of a command in flight is the innermost one of its flow. -/
structure Attached (p : Activity.State) (c : Command) : Prop where
  scope : ∃ scope, p.scopes[c.scope]? = some scope ∧ scope.flow = c.flow ∧ scope.detached = false ∧
    scope.before = c.before
  current : p.currentSpan c.flow = some c.scope

structure Consistent (sdk : Sdk) (s : State) : Prop where
  formed : Formed sdk s.process
  aligned : Aligned s.process
  told : ∀ c ∈ s.commands, ∃ recorded, s.process.spans[c.scope]? = some recorded ∧
    (recorded.sampled = true → Told recorded.span c.outcome)
  attached : ∀ c ∈ s.commands, c.isRunning = true → Attached s.process c
  places : ∀ c ∈ s.commands, ∀ c' ∈ s.commands, c.scope = c'.scope → c = c'
  ids : ∀ c ∈ s.commands, ∀ c' ∈ s.commands, c.isRunning = true → c'.isRunning = true →
    c.requestId = c'.requestId → c = c'
  activities : s.activities = (s.commands.filter Command.isRunning).map (fun c => (c.requestId, c.scope))
  idle : ∀ flow i, ¬ Busy s flow → s.process.currentSpan flow = some i → ¬ IsCommand s i
  before : ∀ scope ∈ s.process.scopes, ∀ i, scope.before = some i → ¬ IsCommand s i
  leaves : ∀ recorded ∈ s.process.spans, ∀ i, recorded.under = some i → ¬ IsCommand s i

section Runs
variable {sdk : Sdk} {s s' : State} {e : Event} {c : Command} {flow i : Nat} {p' : Activity.State} {events : List Event}

theorem Consistent.place_lt (hs : Consistent sdk s) (hc : c ∈ s.commands) : c.scope < s.process.spans.length := by
  obtain ⟨recorded, hget, _⟩ := hs.told c hc
  exact (List.getElem?_eq_some_iff.mp hget).1

theorem Consistent.alone (hs : Consistent sdk s) {c' : Command} (hc : c ∈ s.commands) (hc' : c' ∈ s.commands)
    (hrunning : c.isRunning = true) (hrunning' : c'.isRunning = true) (hflow : c.flow = c'.flow) : c = c' := by
  have hcurrent := (hs.attached c hc hrunning).current
  rw [hflow, (hs.attached c' hc' hrunning').current] at hcurrent
  exact hs.places c hc c' hc' (Option.some.inj hcurrent).symm

theorem sequence_formed {sequence : List Activity.Event} {p : Activity.State} (hsdk : sdk.Lawful)
    (hformed : Formed sdk p) (haligned : Aligned p) (h : sequence.foldlM (Activity.step sdk) p = some p') :
    Formed sdk p' ∧ Aligned p' := by
  have hrun : Run (Activity.step sdk) (fun _ _ => True) p sequence p' := Run.of_exec (fun _ _ _ => trivial) h
  exact ⟨exec_formed hsdk hformed h, hrun.invariant haligned (fun hs _ hstep => step_aligned hs hstep)⟩

/-- What other flows do to their own activities. -/
theorem other_consistent {e : Activity.Event} (hsdk : sdk.Lawful) (hs : Consistent sdk s)
    (hallowed : Allowed s (.other e)) (h : Activity.step sdk s.process e = some p') :
    Consistent sdk { s with process := p' } := by
  obtain ⟨hflows, hnamed⟩ := hallowed
  have hcurrentOf : ∀ flow i, runsIn e = some flow → s.process.currentSpan flow = some i → ¬ IsCommand s i :=
    fun flow i hflow => hs.idle flow i (hflows flow hflow)
  have hfree : ∀ c ∈ s.commands, named e ≠ some c.scope := fun c hc hn => hnamed c.scope hn ⟨c, hc, rfl⟩
  refine {
    formed := step_formed hsdk hs.formed h
    aligned := step_aligned hs.aligned h
    told := fun c hc => ?_
    attached := fun c hc hrunning => ?_
    places := hs.places
    ids := hs.ids
    activities := hs.activities
    idle := fun flow i hidle hcurrent => ?_
    before := fun scope hscope i hbefore => ?_
    leaves := fun recorded hrecorded i hunder => ?_ }
  · obtain ⟨recorded, hget, htold⟩ := hs.told c hc
    refine ⟨recorded, step_span_kept hs.aligned h hget (hfree c hc) ?_, htold⟩
    intro flow hflow hcurrent
    exact hcurrentOf flow c.scope hflow hcurrent ⟨c, hc, rfl⟩
  · obtain ⟨⟨scope, hget, hrest⟩, hcurrent⟩ := hs.attached c hc hrunning
    refine ⟨⟨scope, step_scope_kept h hget (hfree c hc), hrest⟩, step_current_kept h ?_ hcurrent⟩
    exact fun hflow => hflows c.flow hflow ⟨c, hc, hrunning, rfl⟩
  · rcases step_current_from h hcurrent with hold | ⟨other, hother, hold⟩ | rfl | ⟨scope, hscope, hbefore⟩
    · exact hs.idle flow i hidle hold
    · exact hcurrentOf other i hother hold
    · rintro ⟨c, hc, he⟩
      exact absurd (hs.place_lt hc) (by rw [he]; exact Nat.lt_irrefl _)
    · exact hs.before scope hscope i hbefore
  · rcases step_before_from h hscope with ⟨old, hold, he⟩ | ⟨flow, hflow, he⟩
    · exact hs.before old hold i (he.trans hbefore)
    · exact hcurrentOf flow i hflow (he.symm.trans hbefore)
  · rcases step_under_from h hrecorded with ⟨old, hold, he⟩ | hnone | ⟨flow, hflow, he⟩
    · exact hs.leaves old hold i (he.trans hunder)
    · rw [hnone] at hunder
      cases hunder
    · exact hcurrentOf flow i hflow (he.symm.trans hunder)

theorem started_activities {requestId : Int} (hs : Consistent sdk s)
    (hnew : ∀ c ∈ s.commands, c.isRunning = true → c.requestId ≠ requestId) (i : Nat) :
    s.activities.set requestId i = s.activities ++ [(requestId, i)] := by
  have hfresh : (s.activities.any fun entry => decide (entry.1 = requestId)) = false := by
    rw [hs.activities, List.any_eq_false]
    intro entry hentry
    obtain ⟨c, hc, rfl⟩ := List.mem_map.mp hentry
    obtain ⟨hc, hrunning⟩ := List.mem_filter.mp hc
    simpa using hnew c hc hrunning
  unfold Dict.set
  rw [hfresh]
  rfl

theorem started_consistent {commandName timestamp : String} {requestId : Int} {tenantId : Option String} {time : Int}
    (hsdk : sdk.Lawful) (hs : Consistent sdk s)
    (hallowed : Allowed s (.started flow commandName requestId timestamp tenantId time))
    (h : step sdk s (.started flow commandName requestId timestamp tenantId time) = some s') : Consistent sdk s' := by
  obtain ⟨hidle, hnew⟩ := hallowed
  obtain ⟨process, hrun, rfl⟩ := Option.map_eq_some_iff.mp h
  obtain ⟨hformed, haligned⟩ := sequence_formed hsdk hs.formed hs.aligned hrun
  obtain ⟨hin, f, hf, rfl⟩ := startedEvents_run hsdk hrun
  have hlength := hs.aligned.length
  have hbounded := hs.formed.bounded
  rw [hlength] at h ⊢
  have hmem : ∀ {c command}, c ∈ s.commands ++ [command] ↔ c ∈ s.commands ∨ c = command := by simp
  have hplace : ∀ c ∈ s.commands, c.scope ≠ s.process.spans.length := fun c hc => Nat.ne_of_lt (hs.place_lt hc)
  -- A span that was there before is no new command.
  have hcommand : ∀ {i activities process} (command : Command), command.scope = s.process.spans.length →
      i < s.process.spans.length → IsCommand ⟨process, activities, s.commands ++ [command]⟩ i → IsCommand s i := by
    rintro i activities process command hscope hi ⟨c, hc, rfl⟩
    rcases hmem.mp hc with hc | rfl
    · exact ⟨c, hc, rfl⟩
    · exact absurd hscope (Nat.ne_of_lt hi)
  refine {
    formed := hformed
    aligned := haligned
    told := fun c hc => ?_
    attached := fun c hc hrunning => ?_
    places := fun c hc c' hc' he => ?_
    ids := fun c hc c' hc' hrunning hrunning' he => ?_
    activities := ?_
    idle := fun other i hother hcurrent => ?_
    before := fun scope hscope i hbefore => ?_
    leaves := fun recorded hrecorded i hunder => ?_ }
  · rcases hmem.mp hc with hc | rfl
    · obtain ⟨recorded, hget, htold⟩ := hs.told c hc
      exact ⟨recorded, begun_get hget, htold⟩
    · exact begun_told hsdk hf s.process flow _ time
  · rcases hmem.mp hc with hc | rfl
    · obtain ⟨⟨scope, hget, hrest⟩, hcurrent⟩ := hs.attached c hc hrunning
      refine ⟨⟨scope, slot_append_left hget, hrest⟩, ?_⟩
      rw [begun_current hin, if_neg (fun he => hidle ⟨c, hc, hrunning, he⟩), hcurrent]
    · refine ⟨begun_scope hlength f flow _ time, ?_⟩
      rw [begun_current hin, if_pos rfl]
  · rcases hmem.mp hc with hc | rfl
    · rcases hmem.mp hc' with hc' | rfl
      · exact hs.places c hc c' hc' he
      · exact absurd he (hplace c hc)
    · rcases hmem.mp hc' with hc' | rfl
      · exact absurd he.symm (hplace c' hc')
      · rfl
  · rcases hmem.mp hc with hc | rfl
    · rcases hmem.mp hc' with hc' | rfl
      · exact hs.ids c hc c' hc' hrunning hrunning' he
      · exact absurd he (hnew c hc hrunning)
    · rcases hmem.mp hc' with hc' | rfl
      · exact absurd he.symm (hnew c' hc' hrunning')
      · rfl
  · dsimp only
    rw [started_activities hs hnew, List.filter_append, List.map_append, hs.activities]
    rfl
  · have hne : other ≠ flow := by
      rintro rfl
      exact hother ⟨_, hmem.mpr (.inr rfl), rfl, rfl⟩
    rw [begun_current hin, if_neg hne] at hcurrent
    have hfree : ¬ Busy s other := fun ⟨c, hc, hrest⟩ => hother ⟨c, hmem.mpr (.inl hc), hrest⟩
    exact fun hc => hs.idle other i hfree hcurrent
      (hcommand _ rfl (hbounded.current i (currentSpan_mem hcurrent)) hc)
  · rcases List.mem_append.mp hscope with hscope | hscope
    · exact fun hc => hs.before scope hscope i hbefore (hcommand _ rfl (hbounded.before scope hscope i hbefore) hc)
    · rw [List.mem_singleton.mp hscope] at hbefore
      exact fun hc => hs.idle flow i hidle hbefore (hcommand _ rfl (hbounded.current i (currentSpan_mem hbefore)) hc)
  · obtain ⟨old, hrecorded, he⟩ := updateSpan_under_from hrecorded
    have hunder := he.trans hunder
    rcases List.mem_append.mp hrecorded with hrecorded | hrecorded
    · obtain ⟨j, hj⟩ := List.mem_iff_getElem?.mp hrecorded
      have hlt := Nat.lt_trans (hs.formed.ordered.under j old hj i hunder) (List.getElem?_eq_some_iff.mp hj).1
      exact fun hc => hs.leaves old hrecorded i hunder (hcommand _ rfl hlt hc)
    · rw [List.mem_singleton.mp hrecorded, newActivity_under] at hunder
      exact fun hc => hs.idle flow i hidle hunder (hcommand _ rfl (hbounded.current i (currentSpan_mem hunder)) hc)

theorem mem_settle {commands : List Command} {outcome : Outcome} {c' : Command} :
    c' ∈ settle commands i outcome ↔ ∃ old ∈ commands, (if old.scope = i then { old with outcome } else old) = c' :=
  List.mem_map

theorem settled_scope (c : Command) (i : Nat) (outcome : Outcome) :
    (if c.scope = i then { c with outcome } else c).scope = c.scope := by
  split
  · rfl
  · rfl

theorem outcomeOf_over (failure : Option String) : (outcomeOf failure == .running) = false := by
  cases failure with
  | none => rfl
  | some text => rfl

/-- A command that is still running was not the one that ended. -/
theorem running_settled {commands : List Command} {failure : Option String} {c' : Command}
    (hc : c' ∈ settle commands i (outcomeOf failure)) (hrunning : c'.isRunning = true) :
    c' ∈ commands ∧ c'.scope ≠ i := by
  obtain ⟨old, hold, rfl⟩ := mem_settle.mp hc
  split at hrunning
  · rw [Command.isRunning, outcomeOf_over] at hrunning
    cases hrunning
  · rename_i hne
    rw [if_neg hne]
    exact ⟨hold, hne⟩

theorem settle_kept {commands : List Command} {outcome : Outcome} (hc : c ∈ commands) (hne : c.scope ≠ i) :
    c ∈ settle commands i outcome := mem_settle.mpr ⟨c, hc, if_neg hne⟩

theorem pop_settled {commands : List Command} {failure : Option String} {requestId : Int}
    (hone : ∀ c ∈ commands, c.isRunning = true → (c.requestId = requestId ↔ c.scope = i)) :
    Dict.pop ((commands.filter Command.isRunning).map (fun c => (c.requestId, c.scope))) requestId =
      ((settle commands i (outcomeOf failure)).filter Command.isRunning).map (fun c => (c.requestId, c.scope)) := by
  induction commands with
  | nil => rfl
  | cons c commands ih =>
    have hrest := ih (fun c' hc' => hone c' (List.mem_cons_of_mem _ hc'))
    have hc := hone c List.mem_cons_self
    unfold Dict.pop settle at hrest ⊢
    rw [List.map_cons, List.filter_cons, List.filter_cons]
    by_cases hi : c.scope = i
    · have hover : ({ c with outcome := outcomeOf failure } : Command).isRunning = false := outcomeOf_over failure
      rw [if_pos hi, hover]
      refine Eq.trans ?_ hrest
      cases hrunning : c.isRunning with
      | false => rfl
      | true => simp [(hc hrunning).mpr hi]
    · rw [if_neg hi]
      cases hrunning : c.isRunning with
      | false => exact hrest
      | true =>
        have hid : c.requestId ≠ requestId := fun he => hi ((hc hrunning).mp he)
        simpa [hid] using hrest

/-- The activity of a command in flight is the one kept for its request. -/
theorem Consistent.kept (hs : Consistent sdk s) (hc : c ∈ s.commands) (hrunning : c.isRunning = true) :
    s.activities.lookup c.requestId = some c.scope := by
  have hm : (c.requestId, c.scope) ∈ s.activities := by
    rw [hs.activities]
    exact List.mem_map.mpr ⟨c, List.mem_filter.mpr ⟨hc, hrunning⟩, rfl⟩
  cases hl : s.activities.lookup c.requestId with
  | none =>
    have hne := List.lookup_eq_none_iff.mp hl _ hm
    simp at hne
  | some i =>
    have hfound := Dict.mem_of_lookup hl
    rw [hs.activities] at hfound
    obtain ⟨c', hc', he⟩ := List.mem_map.mp hfound
    obtain ⟨hc', hrunning'⟩ := List.mem_filter.mp hc'
    obtain ⟨hid, rfl⟩ := Prod.mk.inj he
    rw [hs.ids c' hc' c hc hrunning' hrunning hid]

/-- The process after a command has ended. -/
def endedProcess (p : Activity.State) (c : Command) (scope : Scope) (f : Span → Span) : Activity.State :=
  { updateSpan p c.scope f with
    scopes := p.scopes.set c.scope { scope with detached := true }
    current := p.current.set c.flow scope.before }

theorem ended_step {requestId : Int} {failure : Option String} {durationMs : PyFloat} {time : Int}
    (hsdk : sdk.Lawful) (hs : Consistent sdk s) (hallowed : Allowed s (.ended flow requestId failure durationMs time))
    (h : step sdk s (.ended flow requestId failure durationMs time) = some s') :
    ∃ c ∈ s.commands, c.isRunning = true ∧ c.flow = flow ∧ c.requestId = requestId ∧
      ∃ scope, s.process.scopes[c.scope]? = some scope ∧ scope.before = c.before ∧ s' = {
        process := endedProcess s.process c scope (endedSpan sdk failure durationMs time)
        activities := s.activities.pop requestId
        commands := settle s.commands c.scope (outcomeOf failure) } ∧ Formed sdk s'.process ∧ Aligned s'.process := by
  obtain ⟨c, hc, hrunning, rfl, rfl⟩ := hallowed
  obtain ⟨⟨scope, hscope, hflow, hdetached, hbefore⟩, _⟩ := hs.attached c hc hrunning
  have hspan := hs.aligned.span _ _ hscope
  simp only [step, hs.kept hc hrunning] at h
  obtain ⟨process, hrun, rfl⟩ := Option.map_eq_some_iff.mp h
  have hformed := sequence_formed hsdk hs.formed hs.aligned hrun
  have hprocess : process = endedProcess s.process c scope (endedSpan sdk failure durationMs time) := by
    rw [endedEvents_run hscope, hspan] at hrun
    rw [← Option.some.inj hrun, detach, if_pos (by simp [hflow, hdetached])]
    rfl
  subst hprocess
  exact ⟨c, hc, hrunning, rfl, rfl, scope, hscope, hbefore, rfl, hformed⟩

theorem endedProcess_current {p : Activity.State} {scope : Scope} {f : Span → Span}
    (hcurrent : p.currentSpan c.flow = some i) (other : Nat) :
    (endedProcess p c scope f).currentSpan other = if other = c.flow then scope.before else p.currentSpan other :=
  currentSpan_set (s := p) (currentSpan_lt hcurrent) scope.before

theorem ended_consistent {requestId : Int} {failure : Option String} {durationMs : PyFloat} {time : Int}
    (hsdk : sdk.Lawful) (hs : Consistent sdk s) (hallowed : Allowed s (.ended flow requestId failure durationMs time))
    (h : step sdk s (.ended flow requestId failure durationMs time) = some s') : Consistent sdk s' := by
  obtain ⟨c, hc, hrunning, rfl, rfl, scope, hscope, hbefore, rfl, hformed, haligned⟩ := ended_step hsdk hs hallowed h
  have hcurrentOf := (hs.attached c hc hrunning).current
  -- The places are those before, so the spans that are commands are too.
  have hcommand : ∀ {i activities process},
      IsCommand ⟨process, activities, settle s.commands c.scope (outcomeOf failure)⟩ i → IsCommand s i := by
    rintro i activities process ⟨c', hc', rfl⟩
    obtain ⟨old, hold, rfl⟩ := mem_settle.mp hc'
    exact ⟨old, hold, (settled_scope old _ _).symm⟩
  refine {
    formed := hformed
    aligned := haligned
    told := fun c' hc' => ?_
    attached := fun c' hc' hrunning' => ?_
    places := fun c' hc' c'' hc'' he => ?_
    ids := fun c' hc' c'' hc'' hrunning' hrunning'' he => ?_
    activities := ?_
    idle := fun other i hother hcurrent => ?_
    before := fun scope' hscope' i hbefore' => ?_
    leaves := fun recorded hrecorded i hunder => ?_ }
  · obtain ⟨old, hold, rfl⟩ := mem_settle.mp hc'
    obtain ⟨recorded, hget, htold⟩ := hs.told old hold
    by_cases hi : old.scope = c.scope
    · cases hs.places old hold c hc hi
      rw [if_pos rfl]
      have hrun : c.outcome = .running := eq_of_beq hrunning
      rw [hrun] at htold
      refine ⟨_, updateSpan_get_self hget, fun hsampled => ?_⟩
      cases hrecorded : recorded.sampled with
      | true =>
        rw [if_pos rfl]
        exact endedSpan_told hsdk (htold hrecorded)
      | false =>
        rw [if_neg (by simp [hrecorded]), hrecorded] at hsampled
        cases hsampled
    · rw [if_neg hi]
      exact ⟨recorded, (updateSpan_get_ne (Ne.symm hi)).trans hget, htold⟩
  · obtain ⟨hold, hne⟩ := running_settled hc' hrunning'
    obtain ⟨⟨scope', hget, hrest⟩, hcurrent⟩ := hs.attached c' hold hrunning'
    refine ⟨⟨scope', (List.getElem?_set_ne (Ne.symm hne)).trans hget, hrest⟩, ?_⟩
    have hflow : c'.flow ≠ c.flow := fun he => hne (by rw [hs.alone hold hc hrunning' hrunning he])
    rw [endedProcess_current hcurrentOf, if_neg hflow, hcurrent]
  · obtain ⟨old, hold, rfl⟩ := mem_settle.mp hc'
    obtain ⟨old', hold', rfl⟩ := mem_settle.mp hc''
    rw [settled_scope, settled_scope] at he
    rw [hs.places old hold old' hold' he]
  · exact hs.ids c' (running_settled hc' hrunning').1 c'' (running_settled hc'' hrunning'').1 hrunning' hrunning'' he
  · dsimp only
    rw [hs.activities]
    refine pop_settled (fun c' hc' hrunning' => ⟨fun he => ?_, fun he => ?_⟩)
    · rw [hs.ids c' hc' c hc hrunning' hrunning he]
    · rw [hs.places c' hc' c hc he]
  · dsimp only at hcurrent
    rw [endedProcess_current hcurrentOf] at hcurrent
    refine fun hi => ?_
    split at hcurrent
    · exact hs.before scope (List.mem_of_getElem? hscope) i hcurrent (hcommand hi)
    · rename_i hne
      refine hs.idle other i ?_ hcurrent (hcommand hi)
      rintro ⟨c', hc', hrunning', rfl⟩
      have hplace : c'.scope ≠ c.scope := fun he => hne (by rw [hs.places c' hc' c hc he])
      exact hother ⟨c', settle_kept hc' hplace, hrunning', rfl⟩
  · refine fun hi => ?_
    rcases List.mem_or_eq_of_mem_set hscope' with hold | rfl
    · exact hs.before scope' hold i hbefore' (hcommand hi)
    · exact hs.before scope (List.mem_of_getElem? hscope) i hbefore' (hcommand hi)
  · obtain ⟨old, hold, he⟩ := updateSpan_under_from hrecorded
    exact fun hi => hs.leaves old hold i (he.trans hunder) (hcommand hi)

theorem step_consistent (hsdk : sdk.Lawful) (hs : Consistent sdk s) (hallowed : Allowed s e)
    (h : step sdk s e = some s') : Consistent sdk s' := by
  cases e with
  | started flow commandName requestId timestamp tenantId time => exact started_consistent hsdk hs hallowed h
  | ended flow requestId failure durationMs time => exact ended_consistent hsdk hs hallowed h
  | other e =>
    obtain ⟨process, hprocess, rfl⟩ := Option.map_eq_some_iff.mp h
    exact other_consistent hsdk hs hallowed hprocess

theorem run_consistent {events : List Event} (hsdk : sdk.Lawful) (h : Run (step sdk) Allowed {} events s) :
    Consistent sdk s := by
  refine h.invariant ?_ (fun hs hallowed hstep => step_consistent hsdk hs hallowed hstep)
  refine ⟨run_formed hsdk .nil, ⟨rfl, fun i scope hget => ?_⟩, List.forall_mem_nil _, List.forall_mem_nil _,
    List.forall_mem_nil _, List.forall_mem_nil _, rfl, fun flow i _ hcurrent => ?_, List.forall_mem_nil _,
    List.forall_mem_nil _⟩
  · cases hget
  · cases hcurrent

/-- What is current in a flow, or will be again once its command has ended. -/
def Resting (s : State) (flow : Nat) (current : Option Nat) : Prop :=
  (∃ c ∈ s.commands, c.isRunning = true ∧ c.flow = flow ∧ c.before = current) ∨
    ¬ Busy s flow ∧ s.process.currentSpan flow = current

def Event.ofListener : Event → Bool
  | .other _ => false
  | _ => true

/-- The listener leaves every flow where it found it. -/
theorem step_resting {current : Option Nat} (hsdk : sdk.Lawful) (hs : Consistent sdk s) (hallowed : Allowed s e)
    (h : step sdk s e = some s') (hlistener : e.ofListener = true) (hresting : Resting s flow current) :
    Resting s' flow current := by
  cases e with
  | other e => cases hlistener
  | started other commandName requestId timestamp tenantId time =>
    obtain ⟨process, hrun, rfl⟩ := Option.map_eq_some_iff.mp h
    obtain ⟨hin, f, hf, rfl⟩ := startedEvents_run hsdk hrun
    rcases hresting with ⟨c, hc, hrest⟩ | ⟨hidle, hcurrent⟩
    · exact .inl ⟨c, List.mem_append_left _ hc, hrest⟩
    · by_cases hflow : flow = other
      · subst hflow
        exact .inl ⟨_, List.mem_append_right _ List.mem_cons_self, rfl, rfl, hcurrent⟩
      · refine .inr ⟨?_, ?_⟩
        · rintro ⟨c, hc, hrunning, rfl⟩
          rcases List.mem_append.mp hc with hc | hc
          · exact hidle ⟨c, hc, hrunning, rfl⟩
          · rw [List.mem_singleton.mp hc] at hflow
            exact hflow rfl
        · rw [begun_current hin, if_neg hflow]
          exact hcurrent
  | ended other requestId failure durationMs time =>
    obtain ⟨c, hc, hrunning, rfl, rfl, scope, hscope, hbefore, rfl, _⟩ := ended_step hsdk hs hallowed h
    have hcurrentOf := (hs.attached c hc hrunning).current
    by_cases hflow : flow = c.flow
    · subst hflow
      have he : c.before = current := by
        rcases hresting with ⟨c', hc', hrunning', hflow', hbefore'⟩ | ⟨hidle, _⟩
        · rw [hs.alone hc hc' hrunning hrunning' hflow'.symm]
          exact hbefore'
        · exact absurd ⟨c, hc, hrunning, rfl⟩ hidle
      refine .inr ⟨?_, ?_⟩
      · rintro ⟨c', hc', hrunning', hflow'⟩
        obtain ⟨hold, hne⟩ := running_settled hc' hrunning'
        exact hne (by rw [hs.alone hold hc hrunning' hrunning hflow'])
      · rw [endedProcess_current hcurrentOf, if_pos rfl, hbefore]
        exact he
    · rcases hresting with ⟨c', hc', hrunning', hflow', hbefore'⟩ | ⟨hidle, hcurrent⟩
      · have hplace : c'.scope ≠ c.scope := fun he => hflow (by rw [← hflow', hs.places c' hc' c hc he])
        exact .inl ⟨c', settle_kept hc' hplace, hrunning', hflow', hbefore'⟩
      · refine .inr ⟨?_, ?_⟩
        · rintro ⟨c', hc', hrunning', hflow'⟩
          exact hidle ⟨c', (running_settled hc' hrunning').1, hrunning', hflow'⟩
        · rw [endedProcess_current hcurrentOf, if_neg hflow]
          exact hcurrent

end Runs

/-- Two threads, one of them with a request. The command of the other fails while that of the request runs. -/
def overlapping : List Event :=
  [.other .openFlow, .other .openFlow, .other (.openSpan 0 "GET /api/orders" "SpanKind.SERVER" none 0),
    .started 0 "find" 7 "2025-01-01T00:00:00" (some "acme") 1, .started 1 "insert" 8 "2025-01-01T00:00:01" none 2,
    .ended 1 8 (some "not primary") ⟨"0.5", some 0, false⟩ 3, .ended 0 7 none ⟨"1.5", some 1, false⟩ 4]

end BlocksGenesis.Database.CommandActivities
