import BlocksGenesis.Lmt.Span
import Mathlib.Data.List.Nodup

/-! The tracing SDK under the package, by what is known of it. -/

namespace BlocksGenesis.Lmt
open Python

inductive StatusCode where
  | ok
  | error
deriving DecidableEq, Repr

/-- `str(status_code)`. -/
def StatusCode.name : StatusCode → String
  | .ok => "StatusCode.OK"
  | .error => "StatusCode.ERROR"

def unsetStatus : String := "StatusCode.UNSET"

/-! ## Values that go through JSON -/

def scalarJson : Scalar → Json
  | .str s => .str s
  | .bool b => .bool b
  | .int n => .int n
  | .float x => .float x

def attributeJson : AttributeValue → Json
  | .one value => scalarJson value
  | .many values => .arr (values.map scalarJson)

/-! ## What the package relies on -/

/-- What is known of a span where another is started under it. -/
structure SpanContext where
  traceId : Nat
  spanId : Nat
  sampled : Bool
deriving DecidableEq, Repr

/-- The SDK as it is set up. A span is started with its parent, if it has one, a name, a kind and the time, the number
is how many there were before, and whether the span is sampled comes with it. `taken` is what `set_attribute` has of a
value that JSON was read as. -/
structure Sdk where
  attributeLimit : Nat
  accepts : AttributeValue → Bool
  taken : Json → Option AttributeValue
  startSpan : Nat → Option SpanContext → String → String → Int → Span × Bool
  setAttribute : Span → String → AttributeValue → Span
  setStatus : Span → StatusCode → String → Span
  endSpan : Span → Int → Span

namespace Sdk

/-- An attribute that is set pushes no other out. -/
def Room (sdk : Sdk) (span : Span) (key : String) : Prop :=
  key ∈ span.attributes.map Prod.fst ∨ span.attributes.length < sdk.attributeLimit

/-- Each attribute is there once, and they are no more than there may be, nor of other values. -/
structure Valid (sdk : Sdk) (span : Span) : Prop where
  distinct : (span.attributes.map Prod.fst).Nodup
  limited : span.attributes.length ≤ sdk.attributeLimit
  accepted : ∀ entry ∈ span.attributes, sdk.accepts entry.2 = true

/-- The default set-up: a span is sampled as its parent is, and one that has all the attributes it may have loses others
when it gets more. Which ones is left open. -/
structure Lawful (sdk : Sdk) : Prop where
  starts : ∀ number parent name kind time, ∃ traceId spanId, (sdk.startSpan number parent name kind time).1 = {
    attributes := []
    traceId := (parent.map SpanContext.traceId).getD traceId
    spanId
    parent := parent.map SpanContext.spanId
    name, kind
    startTime := some time
    endTime := none
    statusCode := unsetStatus
    statusDescription := none }
  parentBased : ∀ number parent name kind time,
    (sdk.startSpan number (some parent) name kind time).2 = parent.sampled
  acceptsOne : ∀ value, sdk.accepts (.one value) = true
  takesBack : ∀ value, sdk.accepts value = true → sdk.taken (attributeJson value) = some value
  onlyAttributes : ∀ span key value, ∃ attributes, sdk.setAttribute span key value = { span with attributes }
  oneMore : ∀ span key value, (sdk.setAttribute span key value).attributes.length ≤ span.attributes.length + 1
  valid : ∀ span key value, sdk.Valid span → sdk.Valid (sdk.setAttribute span key value)
  keeps : ∀ span key value other found, sdk.Room span key → other ≠ key →
    ((other, found) ∈ (sdk.setAttribute span key value).attributes ↔ (other, found) ∈ span.attributes)
  holds : ∀ span key value found, span.endTime = none → sdk.Room span key → key ≠ "" → sdk.accepts value = true →
    ((key, found) ∈ (sdk.setAttribute span key value).attributes ↔ found = value)
  onlyStatus : ∀ span code description, ∃ statusCode statusDescription,
    sdk.setStatus span code description = { span with statusCode, statusDescription }
  statusOk : ∀ span description, span.endTime = none → span.statusCode = unsetStatus →
    sdk.setStatus span .ok description = { span with statusCode := StatusCode.ok.name, statusDescription := none }
  statusError : ∀ span description, span.endTime = none → span.statusCode = unsetStatus →
    sdk.setStatus span .error description = { span with
      statusCode := StatusCode.error.name
      statusDescription := if description.isEmpty then none else some description }
  ends : ∀ span time, span.endTime = none → sdk.endSpan span time = { span with endTime := some time }
  ended : ∀ span time, span.endTime ≠ none → sdk.endSpan span time = span

theorem Valid.of_attributes {sdk : Sdk} {span span' : Span} (h : sdk.Valid span)
    (hsame : span'.attributes = span.attributes) : sdk.Valid span' := by
  obtain ⟨hdistinct, hlimited, haccepted⟩ := h
  rw [← hsame] at hdistinct hlimited haccepted
  exact ⟨hdistinct, hlimited, haccepted⟩

def setAttributes (sdk : Sdk) (span : Span) (entries : List (String × AttributeValue)) : Span :=
  entries.foldl (fun span entry => sdk.setAttribute span entry.1 entry.2) span

section Laws
variable {sdk : Sdk} {span : Span} {entries : List (String × AttributeValue)} {key : String} {value : AttributeValue}

theorem Lawful.startSpan_attributes (h : sdk.Lawful) (number : Nat) (parent : Option SpanContext)
    (name kind : String) (time : Int) : (sdk.startSpan number parent name kind time).1.attributes = [] := by
  obtain ⟨_, _, hstarts⟩ := h.starts number parent name kind time
  rw [hstarts]

theorem Lawful.startSpan_endTime (h : sdk.Lawful) (number : Nat) (parent : Option SpanContext)
    (name kind : String) (time : Int) : (sdk.startSpan number parent name kind time).1.endTime = none := by
  obtain ⟨_, _, hstarts⟩ := h.starts number parent name kind time
  rw [hstarts]

theorem Lawful.endSpan_attributes (h : sdk.Lawful) (span : Span) (time : Int) :
    (sdk.endSpan span time).attributes = span.attributes := by
  cases hend : span.endTime with
  | none => rw [h.ends span time hend]
  | some _ => rw [h.ended span time (by simp [hend])]

theorem Lawful.setStatus_attributes (h : sdk.Lawful) (span : Span) (code : StatusCode) (description : String) :
    (sdk.setStatus span code description).attributes = span.attributes := by
  obtain ⟨_, _, hstatus⟩ := h.onlyStatus span code description
  rw [hstatus]

theorem Lawful.setAttribute_endTime (h : sdk.Lawful) (span : Span) (key : String) (value : AttributeValue) :
    (sdk.setAttribute span key value).endTime = span.endTime := by
  obtain ⟨_, hset⟩ := h.onlyAttributes span key value
  rw [hset]

/-- Only the attributes of a span change with these. -/
theorem Lawful.setAttributes_only (h : sdk.Lawful) (span : Span) (entries : List (String × AttributeValue)) :
    ∃ attributes, sdk.setAttributes span entries = { span with attributes } := by
  induction entries generalizing span with
  | nil => exact ⟨_, rfl⟩
  | cons entry entries ih =>
    obtain ⟨_, hset⟩ := h.onlyAttributes span entry.1 entry.2
    obtain ⟨attributes, hrest⟩ := ih (sdk.setAttribute span entry.1 entry.2)
    refine ⟨attributes, hrest.trans ?_⟩
    rw [hset]

theorem Lawful.setAttributes_endTime (h : sdk.Lawful) (span : Span) (entries : List (String × AttributeValue)) :
    (sdk.setAttributes span entries).endTime = span.endTime := by
  obtain ⟨_, hset⟩ := h.setAttributes_only span entries
  rw [hset]

theorem setAttributes_append (sdk : Sdk) (span : Span) (entries later : List (String × AttributeValue)) :
    sdk.setAttributes span (entries ++ later) = sdk.setAttributes (sdk.setAttributes span entries) later :=
  List.foldl_append

theorem Lawful.setAttributes_valid (h : sdk.Lawful) (hspan : sdk.Valid span)
    (entries : List (String × AttributeValue)) : sdk.Valid (sdk.setAttributes span entries) := by
  induction entries generalizing span with
  | nil => exact hspan
  | cons entry entries ih => exact ih (h.valid span entry.1 entry.2 hspan)

theorem Lawful.setAttributes_length (h : sdk.Lawful) (span : Span) (entries : List (String × AttributeValue)) :
    (sdk.setAttributes span entries).attributes.length ≤ span.attributes.length + entries.length := by
  induction entries generalizing span with
  | nil => exact Nat.le_refl _
  | cons entry entries ih =>
    have hfirst := h.oneMore span entry.1 entry.2
    have hrest := ih (sdk.setAttribute span entry.1 entry.2)
    rw [List.length_cons]
    exact hrest.trans (by omega)

/-- Where there is room for all of them, a span has these attributes and keeps the others. -/
theorem Lawful.mem_setAttributes (h : sdk.Lawful) (hend : span.endTime = none) (hkeys : (entries.map Prod.fst).Nodup)
    (hentries : ∀ entry ∈ entries, entry.1 ≠ "" ∧ sdk.accepts entry.2 = true)
    (hroom : span.attributes.length + entries.length ≤ sdk.attributeLimit) :
    (key, value) ∈ (sdk.setAttributes span entries).attributes ↔
      (key, value) ∈ entries ∨ (key, value) ∈ span.attributes ∧ key ∉ entries.map Prod.fst := by
  induction entries generalizing span with
  | nil => simp [setAttributes]
  | cons entry entries ih =>
    obtain ⟨name, held⟩ := entry
    rw [List.length_cons] at hroom
    obtain ⟨hnew, hkeys⟩ := List.nodup_cons.mp hkeys
    obtain ⟨hname, haccepted⟩ := hentries (name, held) List.mem_cons_self
    have hone := h.oneMore span name held
    have hfree : sdk.Room span name := .inr (by omega)
    have hrest := ih ((h.setAttribute_endTime span name held).trans hend) hkeys
      (fun other hother => hentries other (List.mem_cons_of_mem _ hother)) (by omega)
    refine hrest.trans ?_
    rw [List.map_cons, List.mem_cons, List.mem_cons, not_or]
    dsimp only at hnew ⊢
    by_cases hk : key = name
    · subst hk
      rw [h.holds span key held value hend hfree hname haccepted]
      have hlater : (key, value) ∉ entries := fun hm => hnew (List.mem_map.mpr ⟨_, hm, rfl⟩)
      constructor
      · rintro (hm | ⟨rfl, _⟩)
        · exact absurd hm hlater
        · exact .inl (.inl rfl)
      · rintro ((he | hm) | ⟨_, hne, _⟩)
        · cases he
          exact .inr ⟨rfl, hnew⟩
        · exact absurd hm hlater
        · exact absurd rfl hne
    · rw [h.keeps span name held key value hfree hk]
      have hother : (key, value) ≠ (name, held) := fun he => hk (Prod.mk.inj he).1
      simp only [hother, hk, false_or, not_false_eq_true, true_and]

end Laws

end Sdk

/-! ## As it comes -/

def scalarOf : Json → Option Scalar
  | .str s => some (.str s)
  | .bool b => some (.bool b)
  | .int n => some (.int n)
  | .float x => some (.float x)
  | _ => none

/-- `isinstance(other, type(first))`. -/
def isInstance : (first other : Scalar) → Bool
  | .str _, .str _ | .bool _, .bool _ | .int _, .int _ | .int _, .bool _ | .float _, .float _ => true
  | _, _ => false

/-- The values of a sequence are of the type of the first. -/
def uniform : AttributeValue → Bool
  | .one _ => true
  | .many [] => true
  | .many (value :: values) => values.all (isInstance value)

def attributeOf : Json → Option AttributeValue
  | .arr vs => ((vs.mapM scalarOf).map AttributeValue.many).filter uniform
  | v => (scalarOf v).map .one

/-- A new attribute is the last one, and where there are as many as there may be, the first one goes. -/
def boundedSet (limit : Nat) (attributes : Dict String AttributeValue) (key : String) (value : AttributeValue) :
    Dict String AttributeValue :=
  if key ∈ attributes.map Prod.fst then attributes.pop key ++ [(key, value)]
  else if attributes.length < limit then attributes ++ [(key, value)]
  else attributes.tail ++ [(key, value)]

def defaultSdk : Sdk where
  attributeLimit := 128
  accepts := uniform
  taken := attributeOf
  startSpan number parent name kind time :=
    ({ attributes := []
       traceId := (parent.map SpanContext.traceId).getD number
       spanId := number
       parent := parent.map SpanContext.spanId
       name, kind
       startTime := some time
       endTime := none
       statusCode := unsetStatus
       statusDescription := none },
      (parent.map SpanContext.sampled).getD true)
  setAttribute span key value :=
    if span.endTime.isSome || key.isEmpty || !uniform value then span
    else { span with attributes := boundedSet 128 span.attributes key value }
  setStatus span code description :=
    if span.endTime.isSome || span.statusCode == StatusCode.ok.name then span
    else { span with
      statusCode := code.name
      statusDescription := if code = .error && !description.isEmpty then some description else none }
  endSpan span time := if span.endTime.isSome then span else { span with endTime := some time }

section Default
variable {limit : Nat} {attributes : Dict String AttributeValue} {key other : String} {value found : AttributeValue}

theorem boundedSet_length (hlimit : 0 < limit) (h : attributes.length ≤ limit) :
    (boundedSet limit attributes key value).length ≤ limit := by
  unfold boundedSet
  split
  · rename_i hthere
    obtain ⟨entry, hentry, he⟩ := List.mem_map.mp hthere
    have hless : (attributes.pop key).length < attributes.length := by
      unfold Dict.pop
      exact List.length_filter_lt_length_iff_exists.mpr ⟨entry, hentry, by simp [he]⟩
    rw [List.length_append, List.length_singleton]
    omega
  · split
    · rw [List.length_append, List.length_singleton]
      omega
    · rw [List.length_append, List.length_tail, List.length_singleton]
      omega

theorem boundedSet_oneMore : (boundedSet limit attributes key value).length ≤ attributes.length + 1 := by
  have hpop : (attributes.pop key).length ≤ attributes.length := List.length_filter_le _ _
  unfold boundedSet
  split
  · simp [hpop]
  · split
    · simp
    · simp

theorem boundedSet_nodup (h : (attributes.map Prod.fst).Nodup) :
    ((boundedSet limit attributes key value).map Prod.fst).Nodup := by
  have happend : ∀ {old : Dict String AttributeValue}, (old.map Prod.fst).Nodup → key ∉ old.map Prod.fst →
      ((old ++ [(key, value)]).map Prod.fst).Nodup := by
    intro old hold hnew
    rw [List.map_append]
    refine List.nodup_append.mpr ⟨hold, List.nodup_singleton _, ?_⟩
    rintro a ha b hb rfl
    rw [List.mem_singleton.mp hb] at ha
    exact hnew ha
  unfold boundedSet
  split
  · refine happend (Dict.nodup_pop h key) ?_
    rw [Dict.keys_pop]
    simp
  · rename_i hnew
    split
    · exact happend h hnew
    · have htail := (List.tail_sublist attributes).map Prod.fst
      exact happend (h.sublist htail) (fun hm => hnew (htail.subset hm))

theorem boundedSet_keeps (hroom : key ∈ attributes.map Prod.fst ∨ attributes.length < limit) (hne : other ≠ key) :
    (other, found) ∈ boundedSet limit attributes key value ↔ (other, found) ∈ attributes := by
  have hnew : (other, found) ≠ (key, value) := fun he => hne (Prod.mk.inj he).1
  unfold boundedSet
  split
  · simp [Dict.mem_pop, hne, hnew]
  · rename_i hthere
    rw [if_pos (hroom.resolve_left hthere)]
    simp [hnew]

theorem boundedSet_holds (hroom : key ∈ attributes.map Prod.fst ∨ attributes.length < limit) :
    (key, found) ∈ boundedSet limit attributes key value ↔ found = value := by
  unfold boundedSet
  split
  · simp [Dict.mem_pop]
  · rename_i hthere
    have hnone : (key, found) ∉ attributes := fun hm => hthere (List.mem_map.mpr ⟨_, hm, rfl⟩)
    rw [if_pos (hroom.resolve_left hthere)]
    simp [hnone]

theorem boundedSet_mem {entry : String × AttributeValue} (h : entry ∈ boundedSet limit attributes key value) :
    entry ∈ attributes ∨ entry = (key, value) := by
  unfold boundedSet at h
  split at h
  · rcases List.mem_append.mp h with hold | hnew
    · exact .inl (Dict.mem_pop.mp hold).1
    · exact .inr (List.mem_singleton.mp hnew)
  · split at h
    · rcases List.mem_append.mp h with hold | hnew
      · exact .inl hold
      · exact .inr (List.mem_singleton.mp hnew)
    · rcases List.mem_append.mp h with hold | hnew
      · exact .inl (List.mem_of_mem_tail hold)
      · exact .inr (List.mem_singleton.mp hnew)

theorem attributeOf_attributeJson (h : uniform value = true) : attributeOf (attributeJson value) = some value := by
  have hscalar : ∀ v, scalarOf (scalarJson v) = some v := by
    intro v
    cases v <;> rfl
  cases value with
  | one v => cases v <;> rfl
  | many values =>
    have hread : (values.map scalarJson).mapM scalarOf = some values := by
      clear h
      induction values with
      | nil => rfl
      | cons v values ih =>
        rw [List.map_cons, List.mapM_cons, hscalar, ih]
        rfl
    rw [attributeJson, attributeOf, hread]
    simp [h]

theorem defaultSdk_lawful : defaultSdk.Lawful where
  starts number _ _ _ _ := ⟨number, number, rfl⟩
  parentBased _ _ _ _ _ := rfl
  acceptsOne _ := rfl
  takesBack _ := attributeOf_attributeJson
  onlyAttributes span key value := by
    dsimp only [defaultSdk]
    split
    · exact ⟨_, rfl⟩
    · exact ⟨_, rfl⟩
  oneMore span key value := by
    dsimp only [defaultSdk]
    split
    · exact Nat.le_succ _
    · exact boundedSet_oneMore
  valid span key value h := by
    obtain ⟨hdistinct, hlimited, haccepted⟩ := h
    dsimp only [defaultSdk] at hlimited haccepted ⊢
    split
    · exact ⟨hdistinct, hlimited, haccepted⟩
    · rename_i hset
      simp only [Bool.or_eq_true, not_or, Bool.not_eq_true, Bool.not_eq_false'] at hset
      refine ⟨boundedSet_nodup hdistinct, boundedSet_length (by omega) hlimited, fun entry hentry => ?_⟩
      rcases boundedSet_mem hentry with hold | rfl
      · exact haccepted entry hold
      · exact hset.2
  keeps span key value other found hroom hne := by
    dsimp only [defaultSdk]
    split
    · exact Iff.rfl
    · exact boundedSet_keeps hroom hne
  holds span key value found hend hroom hkey haccepted := by
    have hset : (span.endTime.isSome || key.isEmpty || !uniform value) = false := by
      have huniform : uniform value = true := haccepted
      simp [hend, hkey, huniform]
    dsimp only [defaultSdk]
    rw [hset]
    exact boundedSet_holds hroom
  onlyStatus span code description := by
    dsimp only [defaultSdk]
    split
    · exact ⟨_, _, rfl⟩
    · exact ⟨_, _, rfl⟩
  statusOk span description hend hunset := by
    simp [defaultSdk, hend, hunset, unsetStatus, StatusCode.name]
  statusError span description hend hunset := by
    simp [defaultSdk, hend, hunset, unsetStatus, StatusCode.name]
  ends span time hend := by simp [defaultSdk, hend]
  ended span time hend := by simp [defaultSdk, Option.isSome_iff_ne_none, hend]

end Default

end BlocksGenesis.Lmt
