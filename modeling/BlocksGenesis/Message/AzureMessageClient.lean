import BlocksGenesis.Asyncio.Standing
import BlocksGenesis.Python.Dict
import BlocksGenesis.Python.Value

/-! Sends to Azure Service Bus: the senders all callers share, and the lock each destination has. -/

namespace BlocksGenesis.Message.AzureMessageClient
open Python Asyncio

inductive Kind where
  | queue
  | topic
deriving DecidableEq, Repr

structure Sender where
  kind : Kind
  name : String
deriving DecidableEq, Repr

/-- A sender of the kind this destination was configured as. -/
def buildSender (queues : List String) (name : String) : Sender := ⟨if queues.contains name then .queue else .topic, name⟩

/-- How something that was awaited ends. A cancellation is no `Exception`. -/
inductive Outcome where
  | returned
  | raised (e : Exc)
  | cancelled

def Outcome.isReturned : Outcome → Bool
  | .returned => true
  | .raised _ | .cancelled => false

def cancelledError : Exc := .other "CancelledError"

/-- How far a call of `_send_to_azure_bus_async` is: it makes its message, it waits for the lock of its
destination, or it is inside a sender, which is known by when it was built. -/
inductive Progress where
  | preparing
  | waiting
  | sending (sender : Nat)
  | closing (sender : Nat)
  | resending (sender : Nat)
  | returned (result : Except Exc Bool)

/-- What it has attempted so far, and whether an attempt returned normally, is noted for the proofs alone. -/
structure Call where
  name : String
  progress : Progress := .preparing
  attempts : Nat := 0
  rebuilds : Nat := 0
  delivered : Bool := false

/-- The client. All senders that were ever built are kept, with those that were ever told to close. -/
structure State where
  objects : List Sender := []
  senders : Dict String Nat := []
  closed : List Nat := []
  locks : String → Lock := fun _ => {}
  calls : List Call := []

/-- The outcome of building a sender stands beside whatever may have to build one. -/
inductive Event where
  | sendToAzureBus (name : String)
  | prepared (call : Nat) (message : Except Exc Unit) (built : Except Exc Unit)
  | enterLock (call : Nat) (built : Except Exc Unit)
  | sendEnds (call : Nat) (outcome : Outcome) (built : Except Exc Unit)
  | closeEnds (call : Nat) (outcome : Outcome) (built : Except Exc Unit)
  | cancel (call : Nat)

def State.build (s : State) (queues : List String) (name : String) : State :=
  { s with
    objects := s.objects ++ [buildSender queues name]
    senders := s.senders.set name s.objects.length }

def initializeSenders (queues topics : List String) : State :=
  (queues ++ topics).foldl (fun s name => s.build queues name) {}

def getSender (queues : List String) (s : State) (name : String) (built : Except Exc Unit) : Except Exc (State × Nat) :=
  match s.senders.lookup name with
  | some sender => .ok (s, sender)
  | none =>
    match built with
    | .error e => .error e
    | .ok () => .ok (s.build queues name, s.objects.length)

def State.setCall (s : State) (i : Nat) (call : Call) : State := { s with calls := s.calls.set i call }

def State.setLock (s : State) (name : String) (lock : Lock) : State :=
  { s with locks := Function.update s.locks name lock }

/-- A call that ends inside the lock of its destination. -/
def State.leave (s : State) (i : Nat) (call : Call) : State :=
  (s.setCall i call).setLock call.name (s.locks call.name).release

def Call.raises (call : Call) (e : Exc) : Call := { call with progress := .returned (.error e) }

def Call.succeeds (call : Call) : Call := { call with progress := .returned (.ok true) }

/-- What became of an attempt, whatever the call makes of it. -/
def Call.attempted (call : Call) (outcome : Outcome) : Call :=
  { call with delivered := call.delivered || outcome.isReturned }

/-- A send on the destination's sender, with the lock held. -/
def attempt (queues : List String) (s : State) (i : Nat) (call : Call) (inside : Nat → Progress)
    (built : Except Exc Unit) : State :=
  match getSender queues s call.name built with
  | .error e => s.leave i (call.raises e)
  | .ok (next, sender) =>
    next.setCall i { call with progress := inside sender, attempts := call.attempts + 1 }

/-- Drop the sender whose link failed, and close it. -/
def replaceSender (queues : List String) (s : State) (i : Nat) (call : Call) (built : Except Exc Unit) : State :=
  match s.senders.lookup call.name with
  | some stale =>
    { s with senders := s.senders.pop call.name, closed := stale :: s.closed }.setCall i
      { call with progress := .closing stale, rebuilds := call.rebuilds + 1 }
  | none => attempt queues s i { call with rebuilds := call.rebuilds + 1 } .resending built

def prepared (queues : List String) (s : State) (i : Nat) (message built : Except Exc Unit) : Option State :=
  match s.calls[i]? with
  | some call =>
    match call.progress with
    | .preparing =>
      match message with
      | .error e => some (s.setCall i (call.raises e))
      | .ok () =>
        let asked := s.setLock call.name ((s.locks call.name).acquire i)
        if (asked.locks call.name).holder = some i then some (attempt queues asked i call .sending built)
        else some (asked.setCall i { call with progress := .waiting })
    | _ => none
  | none => none

def enterLock (queues : List String) (s : State) (i : Nat) (built : Except Exc Unit) : Option State :=
  match s.calls[i]? with
  | some call =>
    match call.progress with
    | .waiting =>
      ((s.locks call.name).wake i).map (fun lock =>
        attempt queues (s.setLock call.name lock) i call .sending built)
    | _ => none
  | none => none

/-- The first attempt is made again on a fresh sender if it raised, the second is not. -/
def sendEnds (queues : List String) (s : State) (i : Nat) (outcome : Outcome) (built : Except Exc Unit) :
    Option State :=
  match s.calls[i]? with
  | some call =>
    let attempted := call.attempted outcome
    match call.progress, outcome with
    | .sending _, .raised _ => some (replaceSender queues s i attempted built)
    | .resending _, .raised e => some (s.leave i (attempted.raises e))
    | .sending _, .returned | .resending _, .returned => some (s.leave i attempted.succeeds)
    | .sending _, .cancelled | .resending _, .cancelled => some (s.leave i (attempted.raises cancelledError))
    | _, _ => none
  | none => none

/-- An error on closing the old sender is ignored. -/
def closeEnds (queues : List String) (s : State) (i : Nat) (outcome : Outcome) (built : Except Exc Unit) :
    Option State :=
  match s.calls[i]? with
  | some call =>
    match call.progress, outcome with
    | .closing _, .cancelled => some (s.leave i (call.raises cancelledError))
    | .closing _, _ => some (attempt queues s i call .resending built)
    | _, _ => none
  | none => none

/-- A call that is cancelled before it is inside a sender. -/
def cancel (s : State) (i : Nat) : Option State :=
  match s.calls[i]? with
  | some call =>
    match call.progress with
    | .preparing => some (s.setCall i (call.raises cancelledError))
    | .waiting =>
      some ((s.setLock call.name ((s.locks call.name).cancel i)).setCall i (call.raises cancelledError))
    | _ => none
  | none => none

def step (queues : List String) (s : State) : Event → Option State
  | .sendToAzureBus name => some { s with calls := s.calls ++ [{ name }] }
  | .prepared i message built => prepared queues s i message built
  | .enterLock i built => enterLock queues s i built
  | .sendEnds i outcome built => sendEnds queues s i outcome built
  | .closeEnds i outcome built => closeEnds queues s i outcome built
  | .cancel i => cancel s i

end BlocksGenesis.Message.AzureMessageClient
