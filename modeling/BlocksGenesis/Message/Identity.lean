import BlocksGenesis.Auth.Request
import BlocksGenesis.Delegation.Grant

namespace BlocksGenesis.Message
open Python BlocksGenesis.Auth BlocksGenesis.Delegation

/-! ## The identity a message carries -/

def readSecurityContext (rt : Runtime) : Json → Except Exc (Option BlocksContext)
  | .str raw => rt.loads raw >>= fromTransport rt
  | _ => .error (.typeError "the JSON object must be str, bytes or bytearray")

/-- Restore the security context from a header value, if present. A value that cannot be read
leaves the context as it is. -/
def restoreSecurityContext (rt : Runtime) (raw : Json) (ambient : Ambient) : Ambient :=
  if !raw.truthy then ambient
  else match readSecurityContext rt raw with
    | .ok context => { ambient with context }
    | .error _ => ambient

/-- `DelegatedTokenContext.set`: a malformed id is treated as absent. What is not a string has no
`startswith`, and raises. -/
def setDelegatedToken (delegationGrant : Json) (ambient : Ambient) : Except Exc Ambient :=
  match delegationGrant with
  | .str id => .ok { ambient with grant := if isWellFormed id then some id else none }
  | v =>
    if v.truthy then .error (.attributeError "object has no attribute 'startswith'")
    else .ok { ambient with grant := none }

structure Clear (ambient : Ambient) : Prop where
  context : ambient.context = none
  grant : ambient.grant = none

/-! ## Dispatch -/

/-- An event handler: any function of the payload, which may also change what is in the flow. -/
abbrev Handler := Json → Ambient → Except Exc Unit × Ambient

/-- What became of a message: what its handler saw, if one ran, how the processing ended, and the
flow afterwards. -/
structure Handled where
  seen : Option (Option BlocksContext × Option String)
  result : Except Exc Unit
  ambient : Ambient

def Handled.failed (e : Exc) (ambient : Ambient) : Handled := ⟨none, .error e, ambient⟩

def Handled.andThen (handled : Handled) (next : Except Exc Unit) : Handled :=
  match handled.result with
  | .ok _ => { handled with result := next }
  | .error _ => handled

/-- `EventMessage(**payload)`: the type and the body, both strings and both required. -/
def readEventMessage : Json → Except Exc (String × String)
  | .obj fields => do
    let body ← readStr "body" (Fields.get fields "body")
    let type ← readStr "type" (Fields.get fields "type")
    return (type, body)
  | _ => .error (.typeError "argument after ** must be a mapping")

def processMessage (rt : Runtime) (resolve : String → Except Exc Handler) (type body : String)
    (ambient : Ambient) : Handled :=
  match resolve type with
  | .error e => .failed e ambient
  | .ok handler =>
    match rt.loads body with
    | .error e => .failed e ambient
    | .ok payload =>
      let (result, after) := handler payload ambient
      ⟨some (ambient.context, ambient.grant), result, after⟩

theorem processMessage_seen {rt : Runtime} {resolve : String → Except Exc Handler} {type body : String}
    {ambient : Ambient} {seen : Option BlocksContext × Option String}
    (h : (processMessage rt resolve type body ambient).seen = some seen) :
    seen = (ambient.context, ambient.grant) := by
  unfold processMessage at h
  split at h
  · cases h
  · split at h
    · cases h
    · exact (Option.some.inj h).symm

@[simp] theorem Handled.andThen_seen (handled : Handled) (next : Except Exc Unit) :
    (handled.andThen next).seen = handled.seen := by
  unfold Handled.andThen
  split
  · rfl
  · rfl

end BlocksGenesis.Message
