import BlocksGenesis.Lmt.Sdk
import BlocksGenesis.Machine.Run
import BlocksGenesis.Machine.Slots
import Mathlib.Data.List.Perm.Subperm

/-! The spans of one process. A flow is what has context variables of its own: a thread, or a task. -/

namespace BlocksGenesis.Lmt.Activity
open Python Machine

/-- A span, the span of this process it was started under, if any, whether an activity started it, and whether it is
sampled. One that is not is never exported, and nothing can be read of it or written on it. -/
structure Recorded where
  span : Span
  under : Option Nat
  isActivity : Bool
  sampled : Bool

def Recorded.context (recorded : Recorded) : SpanContext :=
  ⟨recorded.span.traceId, recorded.span.spanId, recorded.sampled⟩

/-- What is attached in a flow: a span, what it found at its root, and the token, which is of the flow
and keeps the span that was current before. -/
structure Scope where
  span : Nat
  rootAttributes : Dict String AttributeValue
  flow : Nat
  before : Option Nat
  detached : Bool

structure State where
  spans : List Recorded := []
  scopes : List Scope := []
  current : List (Option Nat) := []

/-- Times are those of the clock at each event. -/
inductive Event where
  | openFlow
  | copyFlow (flow : Nat)
  | openSpan (flow : Nat) (name kind : String) (remote : Option SpanContext) (time : Int)
  | start (flow : Nat) (name : String) (time : Int)
  | setProperty (scope : Nat) (key : String) (value : AttributeValue)
  | setCurrentProperty (flow : Nat) (key : String) (value : AttributeValue)
  | setStatus (scope : Nat) (code : StatusCode) (description : String)
  | setCurrentStatus (flow : Nat) (code : StatusCode) (description : String)
  | stop (flow : Nat) (scope : Nat) (time : Int)

/-! ## Spans -/

def Span.isRecording (span : Span) : Bool := span.endTime.isNone

/-- `hasattr(span, 'attributes')`. -/
def Recorded.readable (recorded : Recorded) : Option Span := if recorded.sampled then some recorded.span else none

def updateSpan (s : State) (i : Nat) (f : Span → Span) : State :=
  { s with spans := s.spans.modify i (fun recorded =>
      if recorded.sampled then { recorded with span := f recorded.span } else recorded) }

/-! ## Activities -/

section Activities
variable (sdk : Sdk)

/-- `set_property`, which checks whether the span is recording. -/
def setProperty (span : Span) (key : String) (value : AttributeValue) : Span :=
  if Span.isRecording span then sdk.setAttribute span key value else span

/-- `set_current_status`, which checks it too. -/
def setCurrentStatus (span : Span) (code : StatusCode) (description : String) : Span :=
  if Span.isRecording span then sdk.setStatus span code description else span

def State.currentSpan (s : State) (flow : Nat) : Option Nat := (s.current[flow]?).join

/-- The span under which one is started next. -/
def parentOf (s : State) (under : Option Nat) : Option Recorded := under.bind (fun i => s.spans[i]?)

/-- `_find_root_attributes`. -/
def findRootAttributes : Option Span → Dict String AttributeValue
  | none => []
  | some span =>
    let root := extractBaggageFromSpan span
    if root.isEmpty then span.attributes else root

/-- `tracer.start_span`, under a span of this process or one that another process started. -/
def startSpan (s : State) (name kind : String) (isActivity : Bool) (under : Option Nat) (remote : Option SpanContext)
    (time : Int) : Recorded :=
  let parent := ((parentOf s under).map Recorded.context).or remote
  let (span, sampled) := sdk.startSpan s.spans.length parent name kind time
  { span, under, isActivity, sampled }

/-- Each root attribute, as baggage. -/
def baggageOf (root : Dict String AttributeValue) : List (String × AttributeValue) :=
  root.map (fun entry => (baggagePrefix ++ entry.1, entry.2))

def inherit (recorded : Recorded) (root : Dict String AttributeValue) : Recorded :=
  if recorded.sampled then { recorded with span := sdk.setAttributes recorded.span (baggageOf root) } else recorded

def attach (s : State) (flow : Nat) (recorded : Recorded) (root : Dict String AttributeValue) : State where
  spans := s.spans ++ [recorded]
  scopes := s.scopes ++ [⟨s.spans.length, root, flow, s.currentSpan flow, false⟩]
  current := s.current.set flow (some s.spans.length)

/-- A span of a library, such as the server's for a request or a worker's for a message. It inherits nothing. -/
def openSpan (s : State) (flow : Nat) (name kind : String) (remote : Option SpanContext) (time : Int) : State :=
  let under := if remote.isSome then none else s.currentSpan flow
  attach s flow (startSpan sdk s name kind false under remote time) []

/-- What an activity of this flow finds at its root. -/
def rootAttributes (s : State) (flow : Nat) : Dict String AttributeValue :=
  findRootAttributes ((parentOf s (s.currentSpan flow)).bind Recorded.readable)

def newActivity (s : State) (flow : Nat) (name : String) (time : Int) : Recorded :=
  inherit sdk (startSpan sdk s name "SpanKind.INTERNAL" true (s.currentSpan flow) none time) (rootAttributes s flow)

/-- `Activity(name)`. -/
def startActivity (s : State) (flow : Nat) (name : String) (time : Int) : State :=
  attach s flow (newActivity sdk s flow name time) (rootAttributes s flow)

/-- `detach`. A token of another flow, or one that was used, is refused and the refusal is logged. -/
def detach (s : State) (flow i : Nat) (scope : Scope) : State :=
  if scope.flow = flow && !scope.detached then
    { s with
      scopes := s.scopes.set i { scope with detached := true }
      current := s.current.set flow scope.before }
  else s

def stopActivity (s : State) (flow i : Nat) (scope : Scope) (time : Int) : State :=
  detach (updateSpan s scope.span (fun span => sdk.endSpan span time)) flow i scope

/-- The span of a scope, or of a flow, is changed. -/
def onScope (s : State) (i : Nat) (f : Span → Span) : Option State :=
  (s.scopes[i]?).map (fun scope => updateSpan s scope.span f)

def onCurrent (s : State) (flow : Nat) (f : Span → Span) : State :=
  match s.currentSpan flow with
  | some i => updateSpan s i f
  | none => s

def step (s : State) : Event → Option State
  | .openFlow => some { s with current := s.current ++ [none] }
  | .copyFlow flow => (s.current[flow]?).map (fun current => { s with current := s.current ++ [current] })
  | .openSpan flow name kind remote time =>
    if flow < s.current.length then some (openSpan sdk s flow name kind remote time) else none
  | .start flow name time => if flow < s.current.length then some (startActivity sdk s flow name time) else none
  | .setProperty i key value => onScope s i (fun span => setProperty sdk span key value)
  | .setCurrentProperty flow key value => some (onCurrent s flow (fun span => setProperty sdk span key value))
  | .setStatus i code description => onScope s i (fun span => sdk.setStatus span code description)
  | .setCurrentStatus flow code description =>
    some (onCurrent s flow (fun span => setCurrentStatus sdk span code description))
  | .stop flow i time => (s.scopes[i]?).map (fun scope => stopActivity sdk s flow i scope time)

end Activities

/-! ## Baggage -/

section Baggage
variable {span : Span} {root : Dict String AttributeValue} {key : String} {value : AttributeValue}

theorem startsWith_baggage (key : String) : startsWith (baggagePrefix ++ key) baggagePrefix = true := by
  unfold startsWith
  rw [String.toList_append, List.isPrefixOf_iff_prefix]
  exact List.prefix_append _ _

theorem dropChars_baggage (key : String) : dropChars 8 (baggagePrefix ++ key) = key := by
  have hlength : baggagePrefix.toList.length = 8 := by decide
  unfold dropChars
  rw [String.toList_append, ← hlength, List.drop_left, String.ofList_toList]

theorem baggage_dropChars (h : startsWith key baggagePrefix = true) : baggagePrefix ++ dropChars 8 key = key := by
  obtain ⟨rest, hrest⟩ := List.isPrefixOf_iff_prefix.mp h
  have hkey : key = baggagePrefix ++ String.ofList rest := by
    apply String.toList_inj.mp
    rw [String.toList_append, String.toList_ofList, hrest]
  rw [hkey, dropChars_baggage]

theorem baggagePrefix_inj {key key' : String} (h : baggagePrefix ++ key = baggagePrefix ++ key') : key = key' := by
  rw [← dropChars_baggage key, h, dropChars_baggage]

/-- The baggage entries of a span, by their own names. -/
def baggageEntries (span : Span) : Dict String AttributeValue :=
  (span.attributes.filter (fun entry => startsWith entry.1 baggagePrefix)).map
    (fun entry => (dropChars 8 entry.1, entry.2))

theorem extractBaggage_eq (span : Span) :
    extractBaggageFromSpan span = (baggageEntries span).foldl (fun d entry => Dict.set d entry.1 entry.2) [] := by
  rw [baggageEntries, List.foldl_map]
  rfl

theorem mem_baggageEntries :
    (key, value) ∈ baggageEntries span ↔ (baggagePrefix ++ key, value) ∈ span.attributes := by
  unfold baggageEntries
  constructor
  · intro h
    obtain ⟨entry, hm, he⟩ := List.mem_map.mp h
    obtain ⟨hm, hstart⟩ := List.mem_filter.mp hm
    cases he
    rw [baggage_dropChars hstart]
    exact hm
  · intro h
    refine List.mem_map.mpr ⟨_, List.mem_filter.mpr ⟨h, startsWith_baggage key⟩, ?_⟩
    rw [dropChars_baggage]

theorem baggageEntries_nodup (hkeys : (span.attributes.map Prod.fst).Nodup) :
    ((baggageEntries span).map Prod.fst).Nodup := by
  have hfiltered := (List.filter_sublist (p := fun entry => startsWith entry.1 baggagePrefix)
    (l := span.attributes)).map Prod.fst
  have hkept := hkeys.sublist hfiltered
  have hkeysOf : (baggageEntries span).map Prod.fst = ((span.attributes.filter (fun entry =>
      startsWith entry.1 baggagePrefix)).map Prod.fst).map (dropChars 8) := by
    simp [baggageEntries, Function.comp_def]
  rw [hkeysOf]
  refine List.Nodup.map_on ?_ hkept
  intro a ha b hb he
  obtain ⟨entry, hentry, rfl⟩ := List.mem_map.mp ha
  obtain ⟨other, hother, rfl⟩ := List.mem_map.mp hb
  rw [← baggage_dropChars (List.mem_filter.mp hentry).2, he, baggage_dropChars (List.mem_filter.mp hother).2]

/-- The baggage of a span whose attributes are each there once. -/
theorem mem_extractBaggage (hkeys : (span.attributes.map Prod.fst).Nodup) :
    (key, value) ∈ extractBaggageFromSpan span ↔ (baggagePrefix ++ key, value) ∈ span.attributes := by
  rw [extractBaggage_eq, Dict.mem_foldl_set (baggageEntries_nodup hkeys), ← mem_baggageEntries]
  simp

theorem extractBaggage_nodup (span : Span) : ((extractBaggageFromSpan span).map Prod.fst).Nodup := by
  rw [extractBaggage_eq]
  exact Dict.nodup_foldl_set (d := []) List.nodup_nil _

theorem extractBaggage_length (hkeys : (span.attributes.map Prod.fst).Nodup) :
    (extractBaggageFromSpan span).length ≤ span.attributes.length := by
  have hdistinct : (extractBaggageFromSpan span).Nodup := (extractBaggage_nodup span).of_map Prod.fst
  have hsubset : extractBaggageFromSpan span ⊆ baggageEntries span :=
    fun _ hm => mem_baggageEntries.mpr ((mem_extractBaggage hkeys).mp hm)
  have hfiltered : (baggageEntries span).length ≤ span.attributes.length := by
    rw [baggageEntries, List.length_map]
    exact List.length_filter_le _ _
  exact (hdistinct.subperm hsubset).length_le.trans hfiltered

theorem baggageOf_keys (root : Dict String AttributeValue) :
    (baggageOf root).map Prod.fst = (root.map Prod.fst).map (fun key => baggagePrefix ++ key) := by
  simp [baggageOf, Function.comp_def]

theorem baggageOf_nodup (hroot : (root.map Prod.fst).Nodup) : ((baggageOf root).map Prod.fst).Nodup := by
  rw [baggageOf_keys]
  exact List.Nodup.map (fun _ _ he => baggagePrefix_inj he) hroot

theorem mem_baggageOf : (baggagePrefix ++ key, value) ∈ baggageOf root ↔ (key, value) ∈ root := by
  constructor
  · intro h
    obtain ⟨entry, hm, he⟩ := List.mem_map.mp h
    obtain ⟨hk, rfl⟩ := Prod.mk.inj he
    rw [← baggagePrefix_inj hk]
    exact hm
  · intro h
    exact List.mem_map.mpr ⟨_, h, rfl⟩

theorem baggagePrefix_append_ne (key : String) : baggagePrefix ++ key ≠ "" := by
  simp [baggagePrefix]

/-- A span that has baggage hands on exactly that. -/
theorem findRootAttributes_baggage (hkeys : (span.attributes.map Prod.fst).Nodup)
    (hbaggage : (baggagePrefix ++ key, value) ∈ span.attributes) :
    findRootAttributes (some span) = extractBaggageFromSpan span := by
  have hm := (mem_extractBaggage hkeys).mpr hbaggage
  unfold findRootAttributes
  dsimp only
  rw [if_neg]
  intro hempty
  rw [List.isEmpty_iff.mp hempty] at hm
  cases hm

theorem findRootAttributes_nodup (hkeys : (span.attributes.map Prod.fst).Nodup) :
    ((findRootAttributes (some span)).map Prod.fst).Nodup := by
  unfold findRootAttributes
  dsimp only
  split
  · exact hkeys
  · exact extractBaggage_nodup span

theorem findRootAttributes_length (hkeys : (span.attributes.map Prod.fst).Nodup) :
    (findRootAttributes (some span)).length ≤ span.attributes.length := by
  unfold findRootAttributes
  dsimp only
  split
  · exact Nat.le_refl _
  · exact extractBaggage_length hkeys

/-- What a span hands on are values of its own. -/
theorem findRootAttributes_value (hkeys : (span.attributes.map Prod.fst).Nodup)
    (h : (key, value) ∈ findRootAttributes (some span)) : ∃ own, (own, value) ∈ span.attributes := by
  unfold findRootAttributes at h
  dsimp only at h
  split at h
  · exact ⟨key, h⟩
  · exact ⟨_, (mem_extractBaggage hkeys).mp h⟩

end Baggage

/-! ## What a step does -/

/-- The attribute an event writes, and the span it writes it on. -/
def written (s : State) : Event → Option (Nat × String × AttributeValue)
  | .setProperty i key value => (s.scopes[i]?).map (fun scope => (scope.span, key, value))
  | .setCurrentProperty flow key value => (s.currentSpan flow).map (fun i => (i, key, value))
  | _ => none

/-- The spans after a step: those before it, one of them with another attribute or only another status
or end, or one more. -/
inductive Stepped (sdk : Sdk) (s : State) (e : Event) : List Recorded → Prop where
  | same : Stepped sdk s e s.spans
  | wrote {i key value} : written s e = some (i, key, value) →
      Stepped sdk s e (updateSpan s i (fun span => setProperty sdk span key value)).spans
  | marked {i f} : (∀ span, (f span).attributes = span.attributes) → Stepped sdk s e (updateSpan s i f).spans
  | opened {flow name kind remote time} : e = .openSpan flow name kind remote time →
      Stepped sdk s e (openSpan sdk s flow name kind remote time).spans
  | started {flow name time} : e = .start flow name time → Stepped sdk s e (startActivity sdk s flow name time).spans

/-- What is attached somewhere, or will be again, is a span of the process. -/
structure Bounded (s : State) : Prop where
  current : ∀ i, some i ∈ s.current → i < s.spans.length
  span : ∀ scope ∈ s.scopes, scope.span < s.spans.length
  before : ∀ scope ∈ s.scopes, ∀ i, scope.before = some i → i < s.spans.length

section Steps
variable {sdk : Sdk} {s s' : State} {e : Event} {flow i j : Nat} {span : Span} {f : Span → Span} {events : List Event}

theorem setCurrentStatus_attributes (hsdk : sdk.Lawful) (span : Span) (code : StatusCode) (description : String) :
    (setCurrentStatus sdk span code description).attributes = span.attributes := by
  unfold setCurrentStatus
  split
  · exact hsdk.setStatus_attributes span code description
  · rfl

@[simp] theorem detach_spans (s : State) (flow i : Nat) (scope : Scope) : (detach s flow i scope).spans = s.spans := by
  unfold detach
  split
  · rfl
  · rfl

@[simp] theorem updateSpan_length (s : State) (i : Nat) (f : Span → Span) :
    (updateSpan s i f).spans.length = s.spans.length := List.length_modify _ _ _

/-- A span is as it was, or it is a sampled one and the one that was changed. -/
theorem updateSpan_get {recorded : Recorded} (h : (updateSpan s i f).spans[j]? = some recorded) :
    s.spans[j]? = some recorded ∨ ∃ old, s.spans[j]? = some old ∧ i = j ∧ old.sampled = true ∧
      recorded = { old with span := f old.span } := by
  unfold updateSpan at h
  dsimp only at h
  rw [List.getElem?_modify] at h
  obtain ⟨old, hold, rfl⟩ := Option.map_eq_some_iff.mp h
  by_cases hj : i = j
  · cases hsampled : old.sampled with
    | true => exact .inr ⟨old, hold, hj, hsampled, by simp [hj, hsampled]⟩
    | false => exact .inl (by simp [hj, hold])
  · exact .inl (by simp [hj, hold])

/-- Only the span itself changes. -/
theorem updateSpan_get_frame {recorded : Recorded} (h : (updateSpan s i f).spans[j]? = some recorded) :
    ∃ old, s.spans[j]? = some old ∧ old.under = recorded.under ∧ old.isActivity = recorded.isActivity ∧
      old.sampled = recorded.sampled := by
  rcases updateSpan_get h with hold | ⟨old, hold, _, _, rfl⟩
  · exact ⟨recorded, hold, rfl, rfl, rfl⟩
  · exact ⟨old, hold, rfl, rfl, rfl⟩

theorem startSpan_under (s : State) (name kind : String) (isActivity : Bool) (under : Option Nat)
    (remote : Option SpanContext) (time : Int) :
    (startSpan sdk s name kind isActivity under remote time).under = under := rfl

theorem startSpan_attributes (hsdk : sdk.Lawful) (s : State) (name kind : String) (isActivity : Bool)
    (under : Option Nat) (remote : Option SpanContext) (time : Int) :
    (startSpan sdk s name kind isActivity under remote time).span.attributes = [] :=
  hsdk.startSpan_attributes ..

theorem startSpan_endTime (hsdk : sdk.Lawful) (s : State) (name kind : String) (isActivity : Bool)
    (under : Option Nat) (remote : Option SpanContext) (time : Int) :
    (startSpan sdk s name kind isActivity under remote time).span.endTime = none :=
  hsdk.startSpan_endTime ..

theorem inherit_frame (recorded : Recorded) (root : Dict String AttributeValue) :
    (inherit sdk recorded root).under = recorded.under ∧ (inherit sdk recorded root).isActivity = recorded.isActivity ∧
      (inherit sdk recorded root).sampled = recorded.sampled := by
  unfold inherit
  split
  · exact ⟨rfl, rfl, rfl⟩
  · exact ⟨rfl, rfl, rfl⟩

theorem startSpan_sampled {name kind : String} {isActivity : Bool} {under : Option Nat} {remote : Option SpanContext}
    {time : Int} {parent : Recorded} (hsdk : sdk.Lawful) (h : parentOf s under = some parent) :
    (startSpan sdk s name kind isActivity under remote time).sampled = parent.sampled := by
  unfold startSpan
  rw [h, Option.map_some, Option.some_or]
  exact hsdk.parentBased ..

theorem newActivity_sampled {name : String} {time : Int} {parent : Recorded} (hsdk : sdk.Lawful)
    (h : parentOf s (newActivity sdk s flow name time).under = some parent) :
    (newActivity sdk s flow name time).sampled = parent.sampled := by
  obtain ⟨hunder, _, hsampled⟩ := @inherit_frame sdk
    (startSpan sdk s name "SpanKind.INTERNAL" true (s.currentSpan flow) none time) (rootAttributes s flow)
  rw [newActivity, hunder, startSpan_under] at h
  exact hsampled.trans (startSpan_sampled hsdk h)

theorem newActivity_under (s : State) (flow : Nat) (name : String) (time : Int) :
    (newActivity sdk s flow name time).under = s.currentSpan flow := (inherit_frame _ _).1

theorem step_spans (hsdk : sdk.Lawful) (h : step sdk s e = some s') : Stepped sdk s e s'.spans := by
  cases e with
  | openFlow =>
    cases h
    exact .same
  | copyFlow flow =>
    obtain ⟨current, _, rfl⟩ := Option.map_eq_some_iff.mp h
    exact .same
  | openSpan flow name kind remote time =>
    obtain ⟨_, hs'⟩ := Option.ite_none_right_eq_some.mp h
    cases hs'
    exact .opened rfl
  | start flow name time =>
    obtain ⟨_, hs'⟩ := Option.ite_none_right_eq_some.mp h
    cases hs'
    exact .started rfl
  | setProperty i key value =>
    obtain ⟨scope, hscope, rfl⟩ := Option.map_eq_some_iff.mp h
    refine .wrote ?_
    simp [written, hscope]
  | setStatus i code description =>
    obtain ⟨scope, _, rfl⟩ := Option.map_eq_some_iff.mp h
    exact .marked (fun span => hsdk.setStatus_attributes span code description)
  | stop flow i time =>
    obtain ⟨scope, _, rfl⟩ := Option.map_eq_some_iff.mp h
    rw [stopActivity, detach_spans]
    exact .marked (fun span => hsdk.endSpan_attributes span time)
  | setCurrentProperty flow key value =>
    cases h
    unfold onCurrent
    split
    · rename_i i hcurrent
      refine .wrote ?_
      simp [written, hcurrent]
    · exact .same
  | setCurrentStatus flow code description =>
    cases h
    unfold onCurrent
    split
    · exact .marked (fun span => setCurrentStatus_attributes hsdk span code description)
    · exact .same

theorem currentSpan_mem (h : s.currentSpan flow = some i) : some i ∈ s.current := by
  unfold State.currentSpan at h
  exact List.mem_of_getElem? (Option.join_eq_some_iff.mp h)

theorem attach_bounded (hs : Bounded s) (flow : Nat) (recorded : Recorded) (root : Dict String AttributeValue) :
    Bounded (attach s flow recorded root) := by
  obtain ⟨hcurrent, hspan, hbefore⟩ := hs
  have hlength : (attach s flow recorded root).spans.length = s.spans.length + 1 := by simp [attach]
  refine ⟨fun i hm => ?_, fun scope hm => ?_, fun scope hm i hi => ?_⟩
  · rw [hlength]
    rcases List.mem_or_eq_of_mem_set hm with hold | hnew
    · exact Nat.lt_succ_of_lt (hcurrent i hold)
    · cases hnew
      exact Nat.lt_succ_self _
  · rw [hlength]
    rcases List.mem_append.mp hm with hold | hnew
    · exact Nat.lt_succ_of_lt (hspan scope hold)
    · rw [List.mem_singleton.mp hnew]
      exact Nat.lt_succ_self _
  · rw [hlength]
    rcases List.mem_append.mp hm with hold | hnew
    · exact Nat.lt_succ_of_lt (hbefore scope hold i hi)
    · rw [List.mem_singleton.mp hnew] at hi
      exact Nat.lt_succ_of_lt (hcurrent i (currentSpan_mem hi))

theorem updateSpan_bounded (hs : Bounded s) (i : Nat) (f : Span → Span) : Bounded (updateSpan s i f) := by
  obtain ⟨hcurrent, hspan, hbefore⟩ := hs
  have hlength := updateSpan_length s i f
  exact ⟨fun i hm => hlength.symm ▸ hcurrent i hm, fun scope hm => hlength.symm ▸ hspan scope hm,
    fun scope hm i hi => hlength.symm ▸ hbefore scope hm i hi⟩

theorem detach_bounded {scope : Scope} (hs : Bounded s) (hscope : s.scopes[i]? = some scope) :
    Bounded (detach s flow i scope) := by
  obtain ⟨hcurrent, hspan, hbefore⟩ := hs
  have hm := List.mem_of_getElem? hscope
  unfold detach
  split
  · refine ⟨fun j hj => ?_, fun other hother => ?_, fun other hother j hj => ?_⟩
    · rcases List.mem_or_eq_of_mem_set hj with hold | hnew
      · exact hcurrent j hold
      · exact hbefore scope hm j hnew.symm
    · rcases List.mem_or_eq_of_mem_set hother with hold | rfl
      · exact hspan other hold
      · exact hspan scope hm
    · rcases List.mem_or_eq_of_mem_set hother with hold | rfl
      · exact hbefore other hold j hj
      · exact hbefore scope hm j hj
  · exact ⟨hcurrent, hspan, hbefore⟩

theorem onCurrent_bounded (hs : Bounded s) (flow : Nat) (f : Span → Span) : Bounded (onCurrent s flow f) := by
  unfold onCurrent
  split
  · exact updateSpan_bounded hs _ f
  · exact hs

theorem step_bounded (hs : Bounded s) (h : step sdk s e = some s') : Bounded s' := by
  cases e with
  | openFlow =>
    cases h
    refine ⟨fun i hm => ?_, hs.span, hs.before⟩
    rcases List.mem_append.mp hm with hold | hnew
    · exact hs.current i hold
    · cases List.mem_singleton.mp hnew
  | copyFlow flow =>
    obtain ⟨current, hcurrent, rfl⟩ := Option.map_eq_some_iff.mp h
    refine ⟨fun i hm => ?_, hs.span, hs.before⟩
    rcases List.mem_append.mp hm with hold | hnew
    · exact hs.current i hold
    · have he := List.mem_singleton.mp hnew
      subst he
      exact hs.current i (List.mem_of_getElem? hcurrent)
  | openSpan flow name kind remote time =>
    obtain ⟨_, hs'⟩ := Option.ite_none_right_eq_some.mp h
    cases hs'
    exact attach_bounded hs _ _ _
  | start flow name time =>
    obtain ⟨_, hs'⟩ := Option.ite_none_right_eq_some.mp h
    cases hs'
    exact attach_bounded hs _ _ _
  | setProperty i key value =>
    obtain ⟨scope, _, rfl⟩ := Option.map_eq_some_iff.mp h
    exact updateSpan_bounded hs _ _
  | setStatus i code description =>
    obtain ⟨scope, _, rfl⟩ := Option.map_eq_some_iff.mp h
    exact updateSpan_bounded hs _ _
  | stop flow i time =>
    obtain ⟨scope, hscope, rfl⟩ := Option.map_eq_some_iff.mp h
    exact detach_bounded (updateSpan_bounded hs _ _) hscope
  | setCurrentProperty flow key value =>
    cases h
    exact onCurrent_bounded hs flow _
  | setCurrentStatus flow code description =>
    cases h
    exact onCurrent_bounded hs flow _

end Steps

/-! ## What a step leaves alone -/

/-- The scope an event names. -/
def named : Event → Option Nat
  | .setProperty i _ _ | .setStatus i _ _ | .stop _ i _ => some i
  | _ => none

/-- The flow whose context variables an event reads or sets. -/
def runsIn : Event → Option Nat
  | .copyFlow flow | .openSpan flow _ _ _ _ | .start flow _ _ | .setCurrentProperty flow _ _
  | .setCurrentStatus flow _ _ | .stop flow _ _ => some flow
  | _ => none

/-- Each span is attached once, when it is started. -/
structure Aligned (s : State) : Prop where
  length : s.scopes.length = s.spans.length
  span : ∀ (i : Nat) (scope : Scope), s.scopes[i]? = some scope → scope.span = i

/-- The forms of a step, as far as scopes and flows go. -/
inductive Moved (s : State) (e : Event) : State → Prop where
  | idle : Moved s e s
  | opened {current : Option Nat} :
      current = none ∨ (∃ flow, runsIn e = some flow ∧ s.current[flow]? = some current) →
      Moved s e { s with current := s.current ++ [current] }
  | attached {flow : Nat} {new : Recorded} {root : Dict String AttributeValue} : runsIn e = some flow →
      flow < s.current.length → new.under = none ∨ new.under = s.currentSpan flow → Moved s e (attach s flow new root)
  | updatedScope {i : Nat} {scope : Scope} {f : Span → Span} : named e = some i → s.scopes[i]? = some scope →
      Moved s e (updateSpan s scope.span f)
  | updatedCurrent {flow i : Nat} {f : Span → Span} : runsIn e = some flow → s.currentSpan flow = some i →
      Moved s e (updateSpan s i f)
  | stopped {flow i : Nat} {scope : Scope} {f : Span → Span} : named e = some i → runsIn e = some flow →
      s.scopes[i]? = some scope → Moved s e (detach (updateSpan s scope.span f) flow i scope)

section Frames
variable {sdk : Sdk} {s s' : State} {e : Event} {flow i j : Nat} {f g : Span → Span} {scope : Scope}
  {recorded : Recorded}

theorem updateSpan_get_self (h : s.spans[i]? = some recorded) :
    (updateSpan s i f).spans[i]? =
      some (if recorded.sampled then { recorded with span := f recorded.span } else recorded) := by
  simp [updateSpan, h]

theorem updateSpan_get_ne (hne : i ≠ j) : (updateSpan s i f).spans[j]? = s.spans[j]? := by
  simp [updateSpan, hne]

theorem updateSpan_same (s : State) (i : Nat) : updateSpan s i (fun span => span) = s := by
  have hsame : (fun recorded : Recorded =>
      if recorded.sampled then { recorded with span := recorded.span } else recorded) = id := by
    funext recorded
    split
    · rfl
    · rfl
  unfold updateSpan
  rw [hsame, List.modify_id]

theorem updateSpan_updateSpan (s : State) (i : Nat) (f g : Span → Span) :
    updateSpan (updateSpan s i f) i g = updateSpan s i (fun span => g (f span)) := by
  have htwice : ∀ recorded : Recorded,
      (fun recorded : Recorded => if recorded.sampled then { recorded with span := g recorded.span } else recorded)
        (if recorded.sampled then { recorded with span := f recorded.span } else recorded) =
      if recorded.sampled then { recorded with span := g (f recorded.span) } else recorded := by
    intro recorded
    cases hsampled : recorded.sampled with
    | true => simp
    | false => simp [hsampled]
  unfold updateSpan
  dsimp only
  rw [List.modify_modify_eq]
  congr 2
  exact funext htwice

theorem currentSpan_set (h : flow < s.current.length) (value : Option Nat) :
    ({ s with current := s.current.set flow value } : State).currentSpan j =
      if j = flow then value else s.currentSpan j := by
  unfold State.currentSpan
  dsimp only
  split
  · rename_i he
    rw [he, List.getElem?_set_self h]
    rfl
  · rename_i hne
    rw [List.getElem?_set_ne (Ne.symm hne)]

theorem currentSpan_append (s : State) (value : Option Nat) :
    ({ s with current := s.current ++ [value] } : State).currentSpan j =
      if j = s.current.length then value else s.currentSpan j := by
  unfold State.currentSpan
  dsimp only
  split
  · rename_i he
    rw [he, List.getElem?_concat_length]
    rfl
  · rename_i hne
    rw [slot_append_ne hne]

theorem currentSpan_lt (h : s.currentSpan flow = some i) : flow < s.current.length := by
  unfold State.currentSpan at h
  obtain ⟨hlt, _⟩ := List.getElem?_eq_some_iff.mp (Option.join_eq_some_iff.mp h)
  exact hlt

theorem onCurrent_moved (he : runsIn e = some flow) (f : Span → Span) : Moved s e (onCurrent s flow f) := by
  unfold onCurrent
  split
  · exact .updatedCurrent he ‹_›
  · exact .idle

theorem step_moved (h : step sdk s e = some s') : Moved s e s' := by
  cases e with
  | openFlow =>
    cases h
    exact .opened (.inl rfl)
  | copyFlow flow =>
    obtain ⟨current, hcurrent, rfl⟩ := Option.map_eq_some_iff.mp h
    exact .opened (.inr ⟨flow, rfl, hcurrent⟩)
  | openSpan flow name kind remote time =>
    obtain ⟨hflow, hs'⟩ := Option.ite_none_right_eq_some.mp h
    cases hs'
    refine .attached rfl hflow ?_
    rw [startSpan_under]
    split
    · exact .inl rfl
    · exact .inr rfl
  | start flow name time =>
    obtain ⟨hflow, hs'⟩ := Option.ite_none_right_eq_some.mp h
    cases hs'
    exact .attached rfl hflow (.inr (newActivity_under s flow name time))
  | setProperty i key value =>
    obtain ⟨scope, hscope, rfl⟩ := Option.map_eq_some_iff.mp h
    exact .updatedScope rfl hscope
  | setStatus i code description =>
    obtain ⟨scope, hscope, rfl⟩ := Option.map_eq_some_iff.mp h
    exact .updatedScope rfl hscope
  | stop flow i time =>
    obtain ⟨scope, hscope, rfl⟩ := Option.map_eq_some_iff.mp h
    exact .stopped rfl rfl hscope
  | setCurrentProperty flow key value =>
    cases h
    exact onCurrent_moved rfl _
  | setCurrentStatus flow code description =>
    cases h
    exact onCurrent_moved rfl _

theorem detach_scopes (s : State) (flow i : Nat) (scope : Scope) :
    (detach s flow i scope).scopes = s.scopes ∨
      (detach s flow i scope).scopes = s.scopes.set i { scope with detached := true } := by
  unfold detach
  split
  · exact .inr rfl
  · exact .inl rfl

theorem detach_current (s : State) (flow i : Nat) (scope : Scope) :
    (detach s flow i scope).current = s.current ∨
      (detach s flow i scope).current = s.current.set flow scope.before := by
  unfold detach
  split
  · exact .inr rfl
  · exact .inl rfl

theorem step_aligned (hs : Aligned s) (h : step sdk s e = some s') : Aligned s' := by
  obtain ⟨hlength, hspan⟩ := hs
  cases step_moved h with
  | idle => exact ⟨hlength, hspan⟩
  | opened _ => exact ⟨hlength, hspan⟩
  | attached _ _ _ =>
    refine ⟨by simp [attach, hlength], fun i scope hget => ?_⟩
    rcases slot_of_append hget with ⟨rfl, rfl⟩ | ⟨_, hold⟩
    · exact hlength.symm
    · exact hspan i scope hold
  | updatedScope _ _ => exact ⟨hlength.trans (updateSpan_length _ _ _).symm, hspan⟩
  | updatedCurrent _ _ => exact ⟨hlength.trans (updateSpan_length _ _ _).symm, hspan⟩
  | @stopped flow i scope f _ _ hscope =>
    rcases detach_scopes (updateSpan s scope.span f) flow i scope with hsame | hset
    · refine ⟨?_, ?_⟩
      · rw [hsame, detach_spans, updateSpan_length]
        exact hlength
      · rw [hsame]
        exact hspan
    · refine ⟨?_, ?_⟩
      · rw [hset, detach_spans, updateSpan_length, List.length_set]
        exact hlength
      · rw [hset]
        intro j other hget
        rcases slot_of_set hget with ⟨rfl, rfl⟩ | ⟨_, hold⟩
        · exact hspan j scope hscope
        · exact hspan j other hold

/-- A span is as it was unless the event names its scope, or is made where it is current. -/
theorem step_span_kept (hs : Aligned s) (h : step sdk s e = some s') (hget : s.spans[j]? = some recorded)
    (hnamed : named e ≠ some j) (hcurrent : ∀ flow, runsIn e = some flow → s.currentSpan flow ≠ some j) :
    s'.spans[j]? = some recorded := by
  cases step_moved h with
  | idle => exact hget
  | opened _ => exact hget
  | attached _ _ _ => exact slot_append_left hget
  | updatedScope hi hscope =>
    rw [updateSpan_get_ne, hget]
    rintro rfl
    rw [hs.span _ _ hscope] at hnamed
    exact hnamed hi
  | updatedCurrent hflow hi =>
    rw [updateSpan_get_ne, hget]
    rintro rfl
    exact hcurrent _ hflow hi
  | stopped hi _ hscope =>
    rw [detach_spans, updateSpan_get_ne, hget]
    rintro rfl
    rw [hs.span _ _ hscope] at hnamed
    exact hnamed hi

theorem step_scope_kept (h : step sdk s e = some s') (hget : s.scopes[j]? = some scope) (hnamed : named e ≠ some j) :
    s'.scopes[j]? = some scope := by
  cases step_moved h with
  | idle => exact hget
  | opened _ => exact hget
  | attached _ _ _ => exact slot_append_left hget
  | updatedScope _ _ => exact hget
  | updatedCurrent _ _ => exact hget
  | @stopped flow i other f hi _ _ =>
    rcases detach_scopes (updateSpan s other.span f) flow i other with hsame | hset
    · rw [hsame]
      exact hget
    · rw [hset, List.getElem?_set_ne]
      · exact hget
      · rintro rfl
        exact hnamed hi

/-- What is current in a flow stays so while other flows run. -/
theorem step_current_kept (h : step sdk s e = some s') (hflow : runsIn e ≠ some flow)
    (hcurrent : s.currentSpan flow = some i) : s'.currentSpan flow = some i := by
  have hlt := currentSpan_lt hcurrent
  cases step_moved h with
  | idle => exact hcurrent
  | opened _ =>
    rw [currentSpan_append, if_neg (Nat.ne_of_lt hlt)]
    exact hcurrent
  | @attached other new root hother hin _ =>
    have hne : flow ≠ other := by
      rintro rfl
      exact hflow hother
    have hset := currentSpan_set (s := s) (j := flow) hin (some s.spans.length)
    rw [if_neg hne, hcurrent] at hset
    exact hset
  | updatedScope _ _ => exact hcurrent
  | updatedCurrent _ _ => exact hcurrent
  | @stopped other i scope f _ hother _ =>
    have hne : other ≠ flow := by
      rintro rfl
      exact hflow hother
    unfold State.currentSpan
    rcases detach_current (updateSpan s scope.span f) other i scope with hsame | hset
    · rw [hsame]
      exact hcurrent
    · rw [hset, List.getElem?_set_ne hne]
      exact hcurrent

/-- What is current after a step was so before, or is new, or is what a scope has found and is left again. -/
theorem step_current_from (h : step sdk s e = some s') (hcurrent : s'.currentSpan flow = some i) :
    s.currentSpan flow = some i ∨ (∃ other, runsIn e = some other ∧ s.currentSpan other = some i) ∨
      i = s.spans.length ∨ ∃ scope ∈ s.scopes, scope.before = some i := by
  cases step_moved h with
  | idle => exact .inl hcurrent
  | opened hfrom =>
    rw [currentSpan_append] at hcurrent
    split at hcurrent
    · rcases hfrom with rfl | ⟨other, hother, hfound⟩
      · cases hcurrent
      · refine .inr (.inl ⟨other, hother, ?_⟩)
        rw [State.currentSpan, hfound, hcurrent]
        rfl
    · exact .inl hcurrent
  | @attached other new root hother hin _ =>
    have hset := currentSpan_set (s := s) (j := flow) hin (some s.spans.length)
    have hnew := hset.symm.trans hcurrent
    split at hnew
    · exact .inr (.inr (.inl (Option.some.inj hnew).symm))
    · exact .inl hnew
  | updatedScope _ _ => exact .inl hcurrent
  | updatedCurrent _ _ => exact .inl hcurrent
  | @stopped other i scope f _ hother hscope =>
    unfold State.currentSpan at hcurrent
    rcases detach_current (updateSpan s scope.span f) other i scope with hsame | hset
    · rw [hsame] at hcurrent
      exact .inl hcurrent
    · rw [hset] at hcurrent
      have hfound := Option.join_eq_some_iff.mp hcurrent
      rcases slot_of_set hfound with ⟨_, hbefore⟩ | ⟨_, hold⟩
      · exact .inr (.inr (.inr ⟨scope, List.mem_of_getElem? hscope, hbefore.symm⟩))
      · refine .inl ?_
        rw [State.currentSpan]
        exact Option.join_eq_some_iff.mpr hold

theorem step_before_from (h : step sdk s e = some s') (hm : scope ∈ s'.scopes) :
    (∃ old ∈ s.scopes, old.before = scope.before) ∨
      ∃ flow, runsIn e = some flow ∧ scope.before = s.currentSpan flow := by
  cases step_moved h with
  | idle => exact .inl ⟨scope, hm, rfl⟩
  | opened _ => exact .inl ⟨scope, hm, rfl⟩
  | @attached flow new root hflow _ _ =>
    rcases List.mem_append.mp hm with hold | hnew
    · exact .inl ⟨scope, hold, rfl⟩
    · refine .inr ⟨flow, hflow, ?_⟩
      rw [List.mem_singleton.mp hnew]
  | updatedScope _ _ => exact .inl ⟨scope, hm, rfl⟩
  | updatedCurrent _ _ => exact .inl ⟨scope, hm, rfl⟩
  | @stopped flow i other f _ _ hother =>
    rcases detach_scopes (updateSpan s other.span f) flow i other with hsame | hset
    · rw [hsame] at hm
      exact .inl ⟨scope, hm, rfl⟩
    · rw [hset] at hm
      rcases List.mem_or_eq_of_mem_set hm with hold | rfl
      · exact .inl ⟨scope, hold, rfl⟩
      · exact .inl ⟨other, List.mem_of_getElem? hother, rfl⟩

theorem updateSpan_under_from {f : Span → Span} (hm : recorded ∈ (updateSpan s i f).spans) :
    ∃ old ∈ s.spans, old.under = recorded.under := by
  obtain ⟨j, hj⟩ := List.mem_iff_getElem?.mp hm
  obtain ⟨old, hold, hunder, _⟩ := updateSpan_get_frame hj
  exact ⟨old, List.mem_of_getElem? hold, hunder⟩

theorem step_under_from (h : step sdk s e = some s') (hm : recorded ∈ s'.spans) :
    (∃ old ∈ s.spans, old.under = recorded.under) ∨ recorded.under = none ∨
      ∃ flow, runsIn e = some flow ∧ recorded.under = s.currentSpan flow := by
  cases step_moved h with
  | idle => exact .inl ⟨recorded, hm, rfl⟩
  | opened _ => exact .inl ⟨recorded, hm, rfl⟩
  | @attached flow new root hflow _ hunder =>
    rcases List.mem_append.mp hm with hold | hnew
    · exact .inl ⟨recorded, hold, rfl⟩
    · rw [List.mem_singleton.mp hnew]
      exact .inr (hunder.imp_right (fun hcurrent => ⟨flow, hflow, hcurrent⟩))
  | updatedScope _ _ => exact .inl (updateSpan_under_from hm)
  | updatedCurrent _ _ => exact .inl (updateSpan_under_from hm)
  | stopped _ _ _ =>
    rw [detach_spans] at hm
    exact .inl (updateSpan_under_from hm)

end Frames

/-! ## Every run -/

/-- What a span holds is as the SDK keeps it, and a span is under one that was started before it, and is sampled as
that is. -/
structure Ordered (sdk : Sdk) (spans : List Recorded) : Prop where
  attributes : ∀ recorded ∈ spans, sdk.Valid recorded.span
  under : ∀ (i : Nat) (recorded : Recorded), spans[i]? = some recorded → ∀ j, recorded.under = some j → j < i
  sampled : ∀ recorded ∈ spans, ∀ j parent, recorded.under = some j → spans[j]? = some parent →
    recorded.sampled = parent.sampled

structure Formed (sdk : Sdk) (s : State) : Prop where
  bounded : Bounded s
  ordered : Ordered sdk s.spans

section Runs
variable {sdk : Sdk} {s s' : State} {e : Event} {i j r : Nat} {t : String} {events later : List Event}

theorem setProperty_valid {span : Span} (hsdk : sdk.Lawful) (h : sdk.Valid span) (key : String)
    (value : AttributeValue) : sdk.Valid (setProperty sdk span key value) := by
  unfold setProperty
  split
  · exact hsdk.valid span key value h
  · exact h

theorem startSpan_valid (hsdk : sdk.Lawful) (s : State) (name kind : String) (isActivity : Bool) (under : Option Nat)
    (remote : Option SpanContext) (time : Int) :
    sdk.Valid (startSpan sdk s name kind isActivity under remote time).span := by
  have hnone := startSpan_attributes hsdk s name kind isActivity under remote time
  constructor
  · simp [hnone]
  · simp [hnone]
  · simp [hnone]

theorem newActivity_valid (hsdk : sdk.Lawful) (s : State) (flow : Nat) (name : String) (time : Int) :
    sdk.Valid (newActivity sdk s flow name time).span := by
  unfold newActivity inherit
  split
  · exact hsdk.setAttributes_valid (startSpan_valid hsdk ..) _
  · exact startSpan_valid hsdk ..

theorem attach_get {flow : Nat} {recorded new : Recorded} {root : Dict String AttributeValue}
    (h : (attach s flow new root).spans[i]? = some recorded) :
    i = s.spans.length ∧ recorded = new ∨ i < s.spans.length ∧ s.spans[i]? = some recorded :=
  slot_of_append h

theorem updateSpan_ordered {f : Span → Span} (hs : Ordered sdk s.spans)
    (hf : ∀ span : Span, sdk.Valid span → sdk.Valid (f span)) : Ordered sdk (updateSpan s i f).spans := by
  constructor
  · intro recorded hm
    obtain ⟨j, hj⟩ := List.mem_iff_getElem?.mp hm
    rcases updateSpan_get hj with hold | ⟨old, hold, _, _, rfl⟩
    · exact hs.attributes recorded (List.mem_of_getElem? hold)
    · exact hf old.span (hs.attributes old (List.mem_of_getElem? hold))
  · intro j recorded hj k hk
    obtain ⟨old, hold, hunder, _⟩ := updateSpan_get_frame hj
    exact hs.under j old hold k (hunder.trans hk)
  · intro recorded hm k parent hk hparent
    obtain ⟨j, hj⟩ := List.mem_iff_getElem?.mp hm
    obtain ⟨old, hold, hunder, _, hsame⟩ := updateSpan_get_frame hj
    obtain ⟨oldParent, hfound, _, _, hsameParent⟩ := updateSpan_get_frame hparent
    have hsampled := hs.sampled old (List.mem_of_getElem? hold) k oldParent (hunder.trans hk) hfound
    rw [← hsame, hsampled, hsameParent]

theorem attach_ordered {flow : Nat} {new : Recorded} {root : Dict String AttributeValue} (hs : Formed sdk s)
    (hvalid : sdk.Valid new.span) (hunder : ∀ j, new.under = some j → some j ∈ s.current)
    (hsampled : ∀ parent, parentOf s new.under = some parent → new.sampled = parent.sampled) :
    Ordered sdk (attach s flow new root).spans := by
  constructor
  · intro recorded hm
    rcases List.mem_append.mp hm with hold | hnew
    · exact hs.ordered.attributes recorded hold
    · rw [List.mem_singleton.mp hnew]
      exact hvalid
  · intro i recorded hi j hj
    rcases attach_get hi with ⟨rfl, rfl⟩ | ⟨_, hold⟩
    · exact hs.bounded.current j (hunder j hj)
    · exact hs.ordered.under i recorded hold j hj
  · intro recorded hm j parent hj hparent
    rcases List.mem_append.mp hm with hold | hnew
    · obtain ⟨i, hi⟩ := List.mem_iff_getElem?.mp hold
      have hlt := Nat.lt_trans (hs.ordered.under i recorded hi j hj) (List.getElem?_eq_some_iff.mp hi).1
      rcases attach_get hparent with ⟨rfl, _⟩ | ⟨_, hfound⟩
      · exact absurd hlt (Nat.lt_irrefl _)
      · exact hs.ordered.sampled recorded hold j parent hj hfound
    · rw [List.mem_singleton.mp hnew] at hj ⊢
      have hlt := hs.bounded.current j (hunder j hj)
      rcases attach_get hparent with ⟨rfl, _⟩ | ⟨_, hfound⟩
      · exact absurd hlt (Nat.lt_irrefl _)
      · apply hsampled
        rw [hj]
        exact hfound

theorem step_formed (hsdk : sdk.Lawful) (hs : Formed sdk s) (h : step sdk s e = some s') : Formed sdk s' := by
  refine ⟨step_bounded hs.bounded h, ?_⟩
  have hstepped := step_spans hsdk h
  generalize s'.spans = spans at hstepped ⊢
  cases hstepped with
  | same => exact hs.ordered
  | wrote _ => exact updateSpan_ordered hs.ordered (fun span hspan => setProperty_valid hsdk hspan _ _)
  | marked hsame =>
    apply updateSpan_ordered hs.ordered
    intro span hspan
    exact hspan.of_attributes (hsame span)
  | opened _ =>
    refine attach_ordered hs (startSpan_valid hsdk ..) (fun j hj => ?_) (fun parent => startSpan_sampled hsdk)
    rw [startSpan_under] at hj
    split at hj
    · cases hj
    · exact currentSpan_mem hj
  | started _ =>
    refine attach_ordered hs (newActivity_valid hsdk ..) (fun j hj => ?_) (fun parent => newActivity_sampled hsdk)
    rw [newActivity_under] at hj
    exact currentSpan_mem hj

theorem run_formed (hsdk : sdk.Lawful) (h : Run (step sdk) (fun _ _ => True) {} events s) : Formed sdk s := by
  have hinitial : Formed sdk {} := by
    refine ⟨⟨?_, ?_, ?_⟩, ?_, ?_, ?_⟩
    · exact fun _ hm => (List.not_mem_nil hm).elim
    · exact List.forall_mem_nil _
    · exact List.forall_mem_nil _
    · exact List.forall_mem_nil _
    · intro i recorded hi
      cases hi
    · exact List.forall_mem_nil _
  exact h.invariant hinitial (fun hs _ => step_formed hsdk hs)

theorem exec_formed (hsdk : sdk.Lawful) (hs : Formed sdk s) (h : events.foldlM (step sdk) s = some s') :
    Formed sdk s' := by
  have hrun : Run (step sdk) (fun _ _ => True) s events s' := Run.of_exec (fun _ _ _ => trivial) h
  exact hrun.invariant hs (fun hs _ hstep => step_formed hsdk hs hstep)

/-! ## Whose spans they are -/

def tenantAttribute : String := "baggage.TenantId"

theorem tenantAttribute_eq : tenantAttribute = baggagePrefix ++ "TenantId" := by decide

/-- A span, and the activities started under it, and under these. -/
inductive Under (spans : List Recorded) (r : Nat) : Nat → Prop where
  | root : Under spans r r
  | activity {i j recorded} : spans[i]? = some recorded → recorded.isActivity = true → recorded.under = some j →
      Under spans r j → Under spans r i

/-- The event writes no other tenant on the spans under this one, nor more on one of them than there is room for. -/
structure Keeps (sdk : Sdk) (r : Nat) (t : String) (s : State) (e : Event) : Prop where
  tenant : ∀ i value, written s e = some (i, tenantAttribute, value) → Under s.spans r i → value = .str t
  room : ∀ i key value recorded, written s e = some (i, key, value) → Under s.spans r i →
    s.spans[i]? = some recorded → recorded.span.endTime = none → sdk.Room recorded.span key

/-- A span that is exported, and that carries the tenant. -/
structure Tagged (t : String) (recorded : Recorded) : Prop where
  sampled : recorded.sampled = true
  tenant : (tenantAttribute, .str t) ∈ recorded.span.attributes

structure Attributed (sdk : Sdk) (r : Nat) (t : String) (s : State) : Prop where
  formed : Formed sdk s
  root : r < s.spans.length
  tagged : ∀ i recorded, Under s.spans r i → s.spans[i]? = some recorded → Tagged t recorded

theorem updateSpan_under {f : Span → Span} (h : Under (updateSpan s j f).spans r i) : Under s.spans r i := by
  induction h with
  | root => exact .root
  | activity hget hactivity hunder _ ih =>
    obtain ⟨old, hold, hsame, hkind, _⟩ := updateSpan_get_frame hget
    exact .activity hold (hkind.trans hactivity) (hsame.trans hunder) ih

/-- The spans that were there are under what they were under. -/
theorem attach_under {flow : Nat} {new : Recorded} {root : Dict String AttributeValue} (hs : Ordered sdk s.spans)
    (h : Under (attach s flow new root).spans r i) (hi : i < s.spans.length) : Under s.spans r i := by
  induction h with
  | root => exact .root
  | activity hget hactivity hunder _ ih =>
    rcases attach_get hget with ⟨rfl, _⟩ | ⟨_, hold⟩
    · exact absurd hi (Nat.lt_irrefl _)
    · have hj := hs.under _ _ hold _ hunder
      exact .activity hold hactivity hunder (ih (Nat.lt_trans hj hi))

theorem setProperty_tagged {span : Span} {key : String} {value : AttributeValue} (hsdk : sdk.Lawful)
    (htagged : (tenantAttribute, .str t) ∈ span.attributes) (hkeeps : key = tenantAttribute → value = .str t)
    (hroom : span.endTime = none → sdk.Room span key) :
    (tenantAttribute, .str t) ∈ (setProperty sdk span key value).attributes := by
  unfold setProperty
  split
  · rename_i hrecording
    have hend : span.endTime = none := Option.isNone_iff_eq_none.mp hrecording
    by_cases hk : key = tenantAttribute
    · rw [hk] at hroom ⊢
      rw [hkeeps hk]
      exact (hsdk.holds span _ _ _ hend (hroom hend) (by decide) (hsdk.acceptsOne (.str t))).mpr rfl
    · exact (hsdk.keeps span key value _ _ (hroom hend) (Ne.symm hk)).mpr htagged
  · exact htagged

/-- What a sampled span hands on is baggage of an activity under it. -/
theorem newActivity_inherits {flow : Nat} {name : String} {time : Int} {parent : Recorded} {key : String}
    {value : AttributeValue} (hsdk : sdk.Lawful) (hcurrent : s.currentSpan flow = some j)
    (hparent : s.spans[j]? = some parent) (hvalid : sdk.Valid parent.span) (hsampled : parent.sampled = true) :
    (newActivity sdk s flow name time).sampled = true ∧
      ((baggagePrefix ++ key, value) ∈ (newActivity sdk s flow name time).span.attributes ↔
        (key, value) ∈ findRootAttributes (some parent.span)) := by
  have hfound : parentOf s (s.currentSpan flow) = some parent := by
    rw [hcurrent]
    exact hparent
  have hroot : rootAttributes s flow = findRootAttributes (some parent.span) := by
    rw [rootAttributes, hfound, Option.bind_some, Recorded.readable, if_pos hsampled]
  have hstarted : (startSpan sdk s name "SpanKind.INTERNAL" true (s.currentSpan flow) none time).sampled = true :=
    (startSpan_sampled hsdk hfound).trans hsampled
  have hnone := startSpan_attributes hsdk s name "SpanKind.INTERNAL" true (s.currentSpan flow) none time
  have hopen := startSpan_endTime hsdk s name "SpanKind.INTERNAL" true (s.currentSpan flow) none time
  have hdistinct := findRootAttributes_nodup hvalid.distinct
  have hlength := (findRootAttributes_length hvalid.distinct).trans hvalid.limited
  unfold newActivity inherit
  rw [if_pos hstarted, hroot]
  refine ⟨hstarted, (hsdk.mem_setAttributes hopen (baggageOf_nodup hdistinct) ?_ ?_).trans ?_⟩
  · intro entry hentry
    obtain ⟨⟨own, held⟩, hown, rfl⟩ := List.mem_map.mp hentry
    obtain ⟨key, hkey⟩ := findRootAttributes_value hvalid.distinct hown
    exact ⟨baggagePrefix_append_ne _, hvalid.accepted (key, held) hkey⟩
  · rw [hnone, baggageOf, List.length_map]
    exact (Nat.zero_add _).trans_le hlength
  · rw [mem_baggageOf, hnone]
    exact or_iff_left (fun hm => List.not_mem_nil hm.1)

/-- An activity that is started under a tagged span is tagged as that is. -/
theorem startActivity_tagged {flow : Nat} {name : String} {time : Int} {recorded : Recorded} (hsdk : sdk.Lawful)
    (hs : Attributed sdk r t s) (hunder : Under (startActivity sdk s flow name time).spans r i)
    (hget : (startActivity sdk s flow name time).spans[i]? = some recorded) (hi : i = s.spans.length) :
    Tagged t recorded := by
  obtain ⟨hformed, hroot, htagged⟩ := hs
  cases hunder with
  | root => exact absurd hi (Nat.ne_of_lt hroot)
  | activity hself _ hparent hrest =>
    cases hself.symm.trans hget
    rcases attach_get hget with ⟨_, rfl⟩ | ⟨hlt, _⟩
    · rw [newActivity_under] at hparent
      have hj := hformed.bounded.current _ (currentSpan_mem hparent)
      have hjget := List.getElem?_eq_getElem hj
      have hvalid := hformed.ordered.attributes _ (List.mem_of_getElem? hjget)
      obtain ⟨hsampled, hfound⟩ := htagged _ _ (attach_under hformed.ordered hrest hj) hjget
      obtain ⟨hnew, hinherits⟩ := newActivity_inherits hsdk hparent hjget hvalid hsampled
      refine ⟨hnew, ?_⟩
      rw [tenantAttribute_eq] at hfound ⊢
      rw [hinherits, findRootAttributes_baggage hvalid.distinct hfound]
      exact (mem_extractBaggage hvalid.distinct).mpr hfound
    · exact absurd hi (Nat.ne_of_lt hlt)

theorem step_attributed (hsdk : sdk.Lawful) (hs : Attributed sdk r t s) (hkeeps : Keeps sdk r t s e)
    (h : step sdk s e = some s') : Attributed sdk r t s' := by
  have hformed := step_formed hsdk hs.formed h
  have hstepped := step_spans hsdk h
  refine ⟨hformed, ?_, ?_⟩
  · generalize s'.spans = spans at hstepped ⊢
    cases hstepped with
    | same => exact hs.root
    | wrote _ => simpa using hs.root
    | marked _ => simpa using hs.root
    | opened _ => simpa [openSpan, attach] using Nat.lt_succ_of_lt hs.root
    | started _ => simpa [startActivity, attach] using Nat.lt_succ_of_lt hs.root
  · intro i recorded hunder hget
    generalize s'.spans = spans at hstepped hunder hget
    cases hstepped with
    | same => exact hs.tagged i recorded hunder hget
    | wrote hwritten =>
      have hbefore := updateSpan_under hunder
      rcases updateSpan_get hget with hold | ⟨old, hold, rfl, _, rfl⟩
      · exact hs.tagged i recorded hbefore hold
      · obtain ⟨hsampled, htenant⟩ := hs.tagged _ old hbefore hold
        refine ⟨hsampled, setProperty_tagged hsdk htenant ?_ (hkeeps.room _ _ _ old hwritten hbefore hold)⟩
        rintro rfl
        exact hkeeps.tenant _ _ hwritten hbefore
    | marked hsame =>
      have hbefore := updateSpan_under hunder
      rcases updateSpan_get hget with hold | ⟨old, hold, rfl, _, rfl⟩
      · exact hs.tagged i recorded hbefore hold
      · obtain ⟨hsampled, htenant⟩ := hs.tagged _ old hbefore hold
        refine ⟨hsampled, ?_⟩
        dsimp only
        rw [hsame]
        exact htenant
    | opened _ =>
      rcases attach_get hget with ⟨rfl, rfl⟩ | ⟨hi, hold⟩
      · cases hunder with
        | root => exact absurd hs.root (Nat.lt_irrefl _)
        | activity hself hactivity _ _ =>
          cases hself.symm.trans hget
          cases hactivity
      · exact hs.tagged i recorded (attach_under hs.formed.ordered hunder hi) hold
    | started _ =>
      rcases attach_get hget with ⟨hi, _⟩ | ⟨hi, hold⟩
      · exact startActivity_tagged hsdk hs hunder hget hi
      · exact hs.tagged i recorded (attach_under hs.formed.ordered hunder hi) hold

/-- The exporter reads the tenant of a span from its baggage. -/
theorem spanItem_tagged {exporter : Exporter} {span : Span} {item : Item} (ht : t ≠ "")
    (hkeys : (span.attributes.map Prod.fst).Nodup) (htagged : (tenantAttribute, .str t) ∈ span.attributes)
    (h : spanItem exporter span = .ok item) : item.1 = .str t := by
  have hlookup : (extractBaggageFromSpan span).lookup "TenantId" = some (.str t) :=
    Dict.lookup_of_mem (extractBaggage_nodup span) ((mem_extractBaggage hkeys).mpr htagged)
  have hitem : item.1 = spanTenant (extractBaggageFromSpan span) := by
    unfold spanItem at h
    obtain ⟨doc, _, hitem⟩ := bind_ok_iff.mp h
    cases hitem
    rfl
  have htruthy : AttributeValue.truthy (.str t) = true := by simpa [AttributeValue.truthy] using ht
  rw [hitem, spanTenant, hlookup]
  dsimp only
  rw [if_pos htruthy]

/-- A tagged span that nothing is under yet. -/
theorem attributed_start {root : Recorded} (hformed : Formed sdk s) (hroot : s.spans[r]? = some root)
    (htagged : Tagged t root) (hfresh : ∀ recorded ∈ s.spans, recorded.under ≠ some r) : Attributed sdk r t s := by
  have hself : ∀ i, Under s.spans r i → i = r := by
    intro i hunder
    induction hunder with
    | root => rfl
    | activity hfound _ hparent _ ih =>
      rw [ih] at hparent
      exact absurd hparent (hfresh _ (List.mem_of_getElem? hfound))
  refine ⟨hformed, (List.getElem?_eq_some_iff.mp hroot).1, fun i recorded hunder hget => ?_⟩
  have he := hself i hunder
  subst he
  cases hroot.symm.trans hget
  exact htagged

theorem Attributed.exported {exporter : Exporter} {recorded : Recorded} {item : Item} (ht : t ≠ "")
    (hs : Attributed sdk r t s) (hunder : Under s.spans r i) (hget : s.spans[i]? = some recorded)
    (hitem : spanItem exporter recorded.span = .ok item) : item.1 = .str t ∧ item.2.tenantId = .str t := by
  have hkeys := (hs.formed.ordered.attributes recorded (List.mem_of_getElem? hget)).distinct
  have htenant := spanItem_tagged ht hkeys (hs.tagged i recorded hunder hget).tenant hitem
  exact ⟨htenant, (spanItem_tenant hitem).trans htenant⟩

theorem keeps_of_silent (h : written s e = none) : Keeps sdk r t s e := by
  constructor
  · intro i value hwritten
    rw [h] at hwritten
    cases hwritten
  · intro i key value recorded hwritten
    rw [h] at hwritten
    cases hwritten

end Runs

def printedExporter : Exporter where
  serviceName := "blocks_ai_api"
  batchSize := 1000
  queueSize := 10000
  fromNanos := fun n => .ok ⟨toString n⟩
  millis := fun n => ⟨toString n, some n, n == 0⟩

/-- Two requests, each with its tenant on the span of the server. -/
def twoRequests : List Event :=
  [.openFlow, .openFlow, .openSpan 0 "GET /api/orders" "SpanKind.SERVER" none 0,
    .openSpan 1 "GET /api/bills" "SpanKind.SERVER" none 1,
    .setCurrentProperty 1 tenantAttribute (.str "globex"), .setCurrentProperty 0 tenantAttribute (.str "acme")]

/-- Both read the cache; a task of the first does so too. -/
def twoReads : List Event :=
  [.start 0 "Redis::GetStringValue" 2, .start 1 "Redis::GetStringValue" 3, .copyFlow 0,
    .start 2 "Redis::GetHashValue" 4, .stop 0 2 5, .stop 1 3 6, .stop 2 4 7]

end BlocksGenesis.Lmt.Activity
