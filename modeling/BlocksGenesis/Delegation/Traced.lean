import BlocksGenesis.Delegation.Factory
import BlocksGenesis.Python.Dict
import BlocksGenesis.Telemetry.Program

/-! The cache client, the grant store and the grant factory with their spans and log lines. -/

namespace BlocksGenesis.Traced
open Python Telemetry BlocksGenesis.Auth BlocksGenesis.Delegation

/-- What the code calls of its libraries and this development leaves open. -/
structure World where
  rt : Runtime
  str : Exc → String
  dumps : Json → String

/-- The Redis database by its raw texts, and the grant ids handed out so far. -/
structure State where
  redis : Dict String String := []
  created : List String := []

/-- The flow an operation is made in, and the attributes of the span around it. -/
structure Flow where
  ambient : Ambient := {}
  span : Attributes := []

/-! ## Activities -/

/-- What a span hands on: what it holds as baggage, else all it holds. -/
def rootAttributes (span : Attributes) : Attributes :=
  let root := (span.filter (fun entry => startsWith entry.1 "baggage.")).map
    (fun entry => (dropChars 8 entry.1, entry.2))
  if root.isEmpty then span else root

/-- `with Activity(name) as activity`, with the properties that are set before anything else. -/
def activity {α : Type} (w : World) (name : String) (flow : Flow) (properties : Attributes)
    (body : Flow → Program State α) : Program State α :=
  let inherited := (rootAttributes flow.span).map (fun entry => ("baggage." ++ entry.1, entry.2))
  Program.span w.str name (do
    Program.setProperties (inherited ++ properties)
    body { flow with span := (inherited ++ properties).foldl (fun span entry => span.set entry.1 entry.2) [] })

/-! ## The cache client -/

def tenantProperty (ambient : Ambient) : Json :=
  .str ((ambient.context.map BlocksContext.tenantId).getD "miscellaneous")

def activityProperties (flow : Flow) (key operation : String) : Attributes :=
  [("key", .str key), ("operation", .str operation), ("baggage.TenantId", tenantProperty flow.ambient)]

/-- A command inside its activity: what is set before it, what it does to the database unless Redis
gives an error, and what is set about its answer. -/
def redisCommand {α : Type} (w : World) (flow : Flow) (key operation : String) (outage : Option Exc)
    (before : Attributes) (command : Dict String String → α × Dict String String) (after : α → Attributes) :
    Program State α :=
  activity w ("Redis::" ++ operation) flow (activityProperties flow key operation) (fun _ => do
    Program.setProperties before
    match outage with
    | some e =>
      Program.setProperties [("error", .bool true), ("error_message", .str (w.str e))]
      Program.write [.status false (w.str e)]
      Program.raise e
    | none =>
      let answer ← Program.update (fun s =>
        let (answer, redis) := command s.redis
        (answer, { s with redis }))
      Program.setProperties (after answer)
      return answer)

def addStringValue (w : World) (flow : Flow) (key value : String) (lifetime : Int) (outage : Option Exc) :
    Program State Unit :=
  redisCommand w flow key "AddStringValue" outage [("value_length", .int value.length), ("ttl", .int lifetime)]
    (fun redis => ((), redis.set key value)) (fun _ => [("success", .bool true)])

def getStringValue (w : World) (flow : Flow) (key : String) (outage : Option Exc) :
    Program State (Option String) :=
  redisCommand w flow key "GetStringValue" outage [] (fun redis => (redis.lookup key, redis)) (fun raw =>
    ("found", .bool raw.isSome) :: match given raw with
      | some raw => [("value_length", .int raw.length)]
      | none => [])

def removeKey (w : World) (flow : Flow) (key : String) (outage : Option Exc) : Program State Unit :=
  redisCommand w flow key "RemoveKey" outage [] (fun redis => ((redis.lookup key).isSome, redis.pop key))
    (fun deleted => [("deleted", .bool deleted)]) >>= fun _ => return ()

/-! ## The grant store -/

/-- The id is made of a random token, and handed out when the record is written. -/
def writeGrant (w : World) (flow : Flow) (random : GrantToken) (record : DelegationGrantRecord)
    (ttlSeconds : Option Int) (outage : Option Exc) : Program State String := do
  let delegationId := newGrantId random
  let lifetime := grantLifetime ttlSeconds
  addStringValue w flow (grantKey delegationId) (w.dumps record.toWireJson) lifetime outage
  Program.log .debug
    ("Delegation grant created for tenant " ++ record.tenantId ++ " with a " ++ toString lifetime ++ "s lifetime")
  Program.update (fun s => (delegationId, { s with created := s.created ++ [delegationId] }))

def createGrant (w : World) (flow : Flow) (random : GrantToken) (context : Option BlocksContext)
    (tokenVersion securityStamp : String) (ttlSeconds : Option Int) (outage : Option Exc) :
    Program State String :=
  match context.filter (fun context => !(context.tenantId.isEmpty || context.userId.isEmpty)) with
  | some context => writeGrant w flow random (userRecord context tokenVersion securityStamp) ttlSeconds outage
  | none => Program.raise (.valueError "A delegation grant requires both a tenant and an authenticated user.")

def createGrantForClient (w : World) (flow : Flow) (random : GrantToken) (tenantId clientId organizationId : String)
    (ttlSeconds : Option Int) (outage : Option Exc) : Program State String :=
  if tenantId.isEmpty || clientId.isEmpty then
    Program.raise (.valueError "A client delegation grant requires both a tenant and a client id.")
  else writeGrant w flow random (clientRecord tenantId clientId organizationId) ttlSeconds outage

def deleteGrant (w : World) (flow : Flow) (delegationId : Option String) (outage : Option Exc) :
    Program State Unit :=
  match delegationId.filter isWellFormed with
  | none => pure ()
  | some id =>
    (removeKey w flow (grantKey id) outage).handle (fun e =>
      Program.log .warning ("Failed to delete a delegation grant; the TTL will remove it: " ++ w.str e))

def getGrant (w : World) (flow : Flow) (delegationId : Option String) (outage : Option Exc) :
    Program State (Option DelegationGrantRecord) :=
  match delegationId.filter isWellFormed with
  | none => pure none
  | some id => do
    match given (← getStringValue w flow (grantKey id) outage) with
    | none => return none
    | some raw =>
      match w.rt.loads raw >>= DelegationGrantRecord.ofWireJson with
      | .ok record => return some record
      | .error e =>
        Program.log .warning ("Stored delegation grant could not be deserialized: " ++ w.str e)
        return none

/-! ## The grant factory -/

def readHeldGrant (w : World) (flow : Flow) (tenantId : String) (outage : Outage) :
    Program State (Option DelegationGrantRecord) :=
  match given flow.ambient.grant with
  | none => pure none
  | some heldGrantId => do
    match ← getGrant w flow (some heldGrantId) outage.read with
    | none => return none
    | some record =>
      if record.tenantId != tenantId then
        Program.log .warning
          "The held delegation grant belongs to a different tenant than the current context; not chaining it."
        return none
      else return some record

def readFromHeldGrant (w : World) (flow : Flow) (context : BlocksContext) (outage : Outage) :
    Program State (Option String × Option String) := do
  match ← readHeldGrant w flow context.tenantId outage with
  | none => return (none, none)
  | some record =>
    if record.isClientGrant then return (none, none)
    else if record.userId != context.userId || record.organizationId != context.organizationId then
      Program.log .warning
        "The held delegation grant names a different user or organization than the current context; not chaining it."
      return (none, none)
    else return (some record.tokenVersion, some record.securityStamp)

/-- A grant that cannot be written is said so, and the message goes out without one. -/
def grantOrNone (w : World) (create : Program State String) : Program State (Option String) :=
  (some <$> create).handle (fun e => do
    Program.log .error ("Could not create a delegation grant; the message is sent without one: " ++ w.str e)
    return none)

def sendMaterial (w : World) (flow : Flow) (context : BlocksContext) (outage : Outage) :
    Program State (Option String × Option String) :=
  let material := versionMaterial w.rt flow.ambient.authClaims
  if (given material.1).isNone && (given material.2).isNone then readFromHeldGrant w flow context outage
  else pure material

def createForUser (w : World) (flow : Flow) (random : GrantToken) (context : BlocksContext)
    (ttlSeconds : Option Int) (outage : Outage) : Program State (Option String) := do
  let material ← sendMaterial w flow context outage
  match given material.1, given material.2 with
  | some tokenVersion, some securityStamp =>
    grantOrNone w (createGrant w flow random (some context) tokenVersion securityStamp ttlSeconds outage.write)
  | _, _ =>
    Program.log .debug
      "No token_version/security_stamp available for the current flow; sending without a delegation grant."
    return none

/-- The client a send may name: the one of the validated claims, else that of the held client grant. -/
def sendClient (w : World) (flow : Flow) (context : BlocksContext) (outage : Outage) :
    Program State (Option (String × String)) :=
  let clientId := claimsClientId flow.ambient
  if clientId.truthy then pure (some (clientId.toStr w.rt, context.organizationId))
  else do
    match (← readHeldGrant w flow context.tenantId outage).filter DelegationGrantRecord.isClientGrant with
    | none =>
      Program.log .debug "Client context with no validated client token and no held client grant; sending without a delegation grant."
      return none
    | some held =>
      if held.clientId != context.clientId then
        Program.log .warning
          "The held client delegation grant names a different client than the current context; not chaining it."
        return none
      else return some (held.clientId, held.organizationId)

def createForClient (w : World) (flow : Flow) (random : GrantToken) (context : BlocksContext)
    (ttlSeconds : Option Int) (outage : Outage) : Program State (Option String) := do
  match ← sendClient w flow context outage with
  | none => return none
  | some (clientId, organizationId) =>
    grantOrNone w
      (createGrantForClient w flow random context.tenantId clientId organizationId ttlSeconds outage.write)

def createForSend (w : World) (flow : Flow) (random : GrantToken) (ttlSeconds : Option Int) (outage : Outage) :
    Program State (Option String) :=
  match flow.ambient.context.filter (fun context => context.isAuthenticated && !context.tenantId.isEmpty) with
  | none => do
    Program.log .debug "No authenticated caller in context; sending without a delegation grant."
    return none
  | some context =>
    if !context.userId.isEmpty then createForUser w flow random context ttlSeconds outage
    else if !context.clientId.isEmpty then createForClient w flow random context ttlSeconds outage
    else do
      Program.log .debug
        "The caller in context names neither a user nor a client; sending without a delegation grant."
      return none

end BlocksGenesis.Traced
