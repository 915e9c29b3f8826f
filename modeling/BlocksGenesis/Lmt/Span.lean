import BlocksGenesis.Python.Dict
import BlocksGenesis.Python.Value

/-! The document a finished span becomes, and documents gathered by their tenant. -/

namespace BlocksGenesis.Lmt
open Python

inductive Scalar where
  | str (s : String)
  | bool (b : Bool)
  | int (n : Int)
  | float (x : PyFloat)
deriving DecidableEq, Repr

/-- What an attribute of a span holds: one value, or a sequence of them. -/
inductive AttributeValue where
  | one (value : Scalar)
  | many (values : List Scalar)
deriving DecidableEq, Repr

abbrev AttributeValue.str (s : String) : AttributeValue := .one (.str s)

def AttributeValue.truthy : AttributeValue → Bool
  | .one (.str s) => !s.isEmpty
  | .one (.bool b) => b
  | .one (.int n) => n != 0
  | .one (.float x) => !x.zero
  | .many values => !values.isEmpty

/-- What the exporter reads of a finished span. The times are nanoseconds. -/
structure Span where
  attributes : Dict String AttributeValue
  traceId : Nat
  spanId : Nat
  parent : Option Nat
  name : String
  kind : String
  startTime : Option Int
  endTime : Option Int
  statusCode : String
  statusDescription : Option String

structure TraceDocument where
  timestamp : DateTime
  traceId : String
  spanId : String
  parentSpanId : String
  parentId : String
  operationName : String
  kind : String
  startTime : DateTime
  endTime : DateTime
  duration : PyFloat
  attributes : Dict String AttributeValue
  baggage : Dict String AttributeValue
  status : String
  statusDescription : Option String
  serviceName : String
  tenantId : AttributeValue
deriving DecidableEq

/-- `format(n, "032x")`, for any width. -/
def hex (width n : Nat) : String :=
  let digits := Nat.toDigits 16 n
  String.ofList (List.replicate (width - digits.length) '0' ++ digits)

/-- What the exporter was built with, and the two readings of the clock's numbers that are left
open: a date from nanoseconds, and a span of them in milliseconds. -/
structure Exporter where
  serviceName : String
  batchSize : Int
  queueSize : Int
  fromNanos : Int → Except Exc DateTime
  millis : Int → PyFloat

def baggagePrefix : String := "baggage."

def extractBaggageFromSpan (span : Span) : Dict String AttributeValue :=
  (span.attributes.filter (fun entry => startsWith entry.1 baggagePrefix)).foldl
    (fun items entry => items.set (dropChars 8 entry.1) entry.2) []

def spanTenant (baggageItems : Dict String AttributeValue) : AttributeValue :=
  match baggageItems.lookup "TenantId" with
  | some tenant => if tenant.truthy then tenant else .str "miscellaneous"
  | none => .str "miscellaneous"

def readNanos (time : Option Int) : Except Exc Int :=
  match time with
  | some nanos => .ok nanos
  | none => .error (.typeError "unsupported operand type(s) for /: 'NoneType' and 'int'")

def buildDocument (exporter : Exporter) (span : Span) (baggageItems : Dict String AttributeValue)
    (tenantId : AttributeValue) : Except Exc TraceDocument := do
  let parentSpanId := match span.parent with
    | some parent => hex 16 parent
    | none => "0000000000000000"
  let parentId := match span.parent with
    | some _ => "00-" ++ hex 32 span.traceId ++ "-" ++ parentSpanId ++ "-01"
    | none => ""
  let ended ← readNanos span.endTime
  let timestamp ← exporter.fromNanos ended
  let started ← readNanos span.startTime
  let startTime ← exporter.fromNanos started
  return {
    timestamp
    traceId := hex 32 span.traceId
    spanId := hex 16 span.spanId
    parentSpanId
    parentId
    operationName := span.name
    kind := span.kind
    startTime
    endTime := timestamp
    duration := exporter.millis (ended - started)
    attributes := span.attributes.filter (fun entry => !startsWith entry.1 baggagePrefix)
    baggage := baggageItems
    status := span.statusCode
    statusDescription := span.statusDescription
    serviceName := exporter.serviceName
    tenantId }

/-- What goes on the queue: a document and the tenant it is for. -/
abbrev Item := AttributeValue × TraceDocument

def spanItem (exporter : Exporter) (span : Span) : Except Exc Item := do
  let baggageItems := extractBaggageFromSpan span
  let tenantId := spanTenant baggageItems
  let doc ← buildDocument exporter span baggageItems tenantId
  return (tenantId, doc)

theorem spanItem_tenant {exporter : Exporter} {span : Span} {item : Item}
    (h : spanItem exporter span = .ok item) : item.2.tenantId = item.1 := by
  unfold spanItem at h
  obtain ⟨doc, hdoc, hitem⟩ := bind_ok_iff.mp h
  cases hitem
  unfold buildDocument at hdoc
  obtain ⟨ended, _, hdoc⟩ := bind_ok_iff.mp hdoc
  obtain ⟨timestamp, _, hdoc⟩ := bind_ok_iff.mp hdoc
  obtain ⟨started, _, hdoc⟩ := bind_ok_iff.mp hdoc
  obtain ⟨startTime, _, hdoc⟩ := bind_ok_iff.mp hdoc
  cases hdoc
  rfl

/-! ## Batches -/

section Batches
variable {κ α : Type} [DecidableEq κ]

abbrev Batches (κ α : Type) := Dict κ (List α)

/-- `batches.setdefault(key, []).append(value)`. -/
def Batches.push (batches : Batches κ α) (key : κ) (value : α) : Batches κ α :=
  match batches with
  | [] => [(key, [value])]
  | (other, values) :: rest =>
    if other = key then (other, values ++ [value]) :: rest else (other, values) :: push rest key value

/-- What the batches hold, each value with the key of its batch. -/
def Batches.items (batches : Batches κ α) : List (κ × α) :=
  batches.flatMap (fun entry => entry.2.map (fun value => (entry.1, value)))

omit [DecidableEq κ] in
@[simp] theorem Batches.items_cons (entry : κ × List α) (rest : Batches κ α) :
    Batches.items (entry :: rest) = entry.2.map (fun value => (entry.1, value)) ++ Batches.items rest := rfl

theorem Batches.items_push (batches : Batches κ α) (key : κ) (value : α) :
    (batches.push key value).items.Perm ((key, value) :: batches.items) := by
  induction batches with
  | nil => exact List.Perm.refl _
  | cons entry rest ih =>
    obtain ⟨other, values⟩ := entry
    unfold push
    by_cases hk : other = key
    · subst hk
      rw [if_pos rfl, items_cons, items_cons, List.map_append, List.append_assoc]
      exact List.perm_middle
    · rw [if_neg hk, items_cons, items_cons]
      exact (ih.append_left _).trans List.perm_middle

/-- `sum(len(docs) for docs in batches.values())`. -/
def Batches.total : Batches κ α → Nat
  | [] => 0
  | entry :: rest => entry.2.length + Batches.total rest

omit [DecidableEq κ] in
theorem Batches.items_length (batches : Batches κ α) : batches.items.length = batches.total := by
  induction batches with
  | nil => rfl
  | cons entry rest ih =>
    rw [items_cons, List.length_append, List.length_map, ih]
    rfl

end Batches

end BlocksGenesis.Lmt
