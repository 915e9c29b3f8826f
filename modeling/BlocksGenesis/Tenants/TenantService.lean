import BlocksGenesis.Auth.Request
import BlocksGenesis.Machine.Run
import BlocksGenesis.Python.Dict

namespace BlocksGenesis.Tenants
open Python BlocksGenesis.Auth

/-! ## Records and copies -/

/-- A document of the Tenants collection: its `_id`, its content, and whether `Tenant(**document)`
takes it. -/
structure TenantDocument where
  id : String
  tenant : Tenant
  parses : Bool := true

/-- A tenant object, and when it was read from the database. One that came with a notification
was not. -/
structure Copy where
  tenant : Tenant
  readAt : Option Nat
deriving DecidableEq

/-- A domain as the lookup compares it: trimmed, in lower case, without a protocol. -/
def normalizeTenantDomain (rt : Runtime) (domain : String) : String :=
  let d := rt.lower (strip domain)
  if startsWith d "http://" then dropChars 7 d
  else if startsWith d "https://" then dropChars 8 d
  else d

def hasDomain (rt : Runtime) (normalized : String) (tenant : Tenant) : Bool :=
  tenant.applications.any (fun app =>
    (given app.domain).any (fun domain => normalizeTenantDomain rt domain == normalized))

/-! ## Notifications -/

structure TenantCacheUpdateMessage where
  tenant : Option Tenant := none
  tenantId : Option String := none
  action : String := "upsert"

def updateAction (rt : Runtime) (update : TenantCacheUpdateMessage) : String := rt.lower (strip update.action)

def resolveTenantId (update : TenantCacheUpdateMessage) : Option String :=
  match update.tenantId.filter (fun id => !blank id) with
  | some id => some id
  | none => (update.tenant.bind Tenant.tenantId).filter (fun id => !blank id)

def normalizeCacheUpdate (rt : Runtime) (update : TenantCacheUpdateMessage) :
    Option TenantCacheUpdateMessage :=
  if updateAction rt update == "remove" then
    (resolveTenantId update).map (fun id => { update with action := "remove", tenantId := some id })
  else if updateAction rt update == "upsert" then
    (update.tenant.bind (given ·.tenantId)).map
      (fun id => { update with action := "upsert", tenantId := some id })
  else none

/-- The tenant whose cache entry an update is about. -/
def updateTarget (rt : Runtime) (update : TenantCacheUpdateMessage) : Option String :=
  if updateAction rt update == "remove" then given update.tenantId
  else update.tenant.bind (given ·.tenantId)

abbrev Cache := Dict (Option String) Copy

def applyUpdateMessage (rt : Runtime) (cache : Cache) (update : TenantCacheUpdateMessage) : Cache :=
  if updateAction rt update == "remove" then
    match given update.tenantId with
    | some id => cache.pop (some id)
    | none => cache
  else match update.tenant with
    | none => cache
    | some tenant =>
      match given tenant.tenantId with
      | none => cache
      | some id => if tenant.isDisabled then cache.pop (some id) else cache.set (some id) ⟨tenant, none⟩

/-! ## The service -/

/-- A load of one tenant: the query is out, the document is read, or the task has its result. -/
inductive Load where
  | reading (tenantId : String)
  | read (result : Option Copy)
  | done (result : Option Copy)

/-- Where a call of `get_tenant` or `get_tenant_by_domain` is suspended. -/
inductive Caller where
  | locking (tenantId : String)
  | awaiting (tenantId : String) (task : Nat)
  | closing (tenantId : String) (task : Nat) (result : Option Copy)
  | querying (normalized : String)
  | queried (result : Option Copy)
  | returned (result : Option Copy)

/-- The service, the database behind it, and the time of the last notification applied for each
tenant. The clock counts the steps. -/
structure State where
  database : List TenantDocument
  cache : Cache := []
  inProgress : Dict String Nat := []
  tasks : List Load := []
  callers : List Caller := []
  clock : Nat := 0
  notified : String → Option Nat := fun _ => none

/-- One step of anything: the database changes, a call starts or goes on where it was
suspended, the database answers, a task ends, or a notification is handled. -/
inductive Event where
  | write (database : List TenantDocument)
  | getTenant (tenantId : String)
  | enterLoadLock (caller : Nat)
  | answerLoad (task : Nat) (fails : Bool)
  | finishLoad (task : Nat)
  | resumeGetTenant (caller : Nat)
  | finishGetTenant (caller : Nat)
  | getTenantByDomain (domain : String)
  | answerByDomain (caller : Nat) (fails : Bool)
  | finishByDomain (caller : Nat)
  | handleUpdate (message : Option TenantCacheUpdateMessage)

def cachedTenant (s : State) (tenantId : String) : Option Copy := s.cache.lookup (some tenantId)

def findOne (s : State) (isMatch : TenantDocument → Bool) : Option Copy :=
  (s.database.find? isMatch).bind (fun document =>
    if document.parses then some ⟨document.tenant, some s.clock⟩ else none)

def storeTenant (cache : Cache) : Option Copy → Cache
  | some copy => cache.set copy.tenant.tenantId copy
  | none => cache

def getTenant (s : State) (tenantId : String) : State :=
  let caller :=
    if tenantId.isEmpty then .returned none
    else match cachedTenant s tenantId with
      | some copy => .returned (some copy)
      | none => .locking tenantId
  { s with callers := s.callers ++ [caller] }

/-- Inside the load lock: join the load in progress, or start one. -/
def enterLoadLock (s : State) (caller : Nat) : Option State :=
  match s.callers[caller]? with
  | some (.locking tenantId) =>
    match s.inProgress.lookup tenantId with
    | some task => some { s with callers := s.callers.set caller (.awaiting tenantId task) }
    | none =>
      some { s with
        callers := s.callers.set caller (.awaiting tenantId s.tasks.length)
        tasks := s.tasks ++ [.reading tenantId]
        inProgress := s.inProgress.set tenantId s.tasks.length }
  | _ => none

/-- The database answers a load with the document as it is now. An error is caught there. -/
def answerLoad (s : State) (task : Nat) (fails : Bool) : Option State :=
  match s.tasks[task]? with
  | some (.reading tenantId) =>
    let result := if fails then none
      else findOne s (fun document => document.id == tenantId || document.tenant.tenantId == some tenantId)
    some { s with tasks := s.tasks.set task (.read result) }
  | _ => none

def finishLoad (s : State) (task : Nat) : Option State :=
  match s.tasks[task]? with
  | some (.read result) => some { s with tasks := s.tasks.set task (.done result) }
  | _ => none

def resumeGetTenant (s : State) (caller : Nat) : Option State :=
  match s.callers[caller]? with
  | some (.awaiting tenantId task) =>
    match s.tasks[task]? with
    | some (.done result) => some { s with callers := s.callers.set caller (.closing tenantId task result) }
    | _ => none
  | _ => none

/-- Inside the lock again: forget the load if it is still the one in progress, then store. -/
def finishGetTenant (s : State) (caller : Nat) : Option State :=
  match s.callers[caller]? with
  | some (.closing tenantId task result) =>
    some { s with
      callers := s.callers.set caller (.returned result)
      inProgress :=
        if s.inProgress.lookup tenantId = some task then s.inProgress.pop tenantId else s.inProgress
      cache := storeTenant s.cache result }
  | _ => none

def getTenantByDomain (rt : Runtime) (s : State) (domain : String) : State :=
  let normalized := normalizeTenantDomain rt domain
  let caller :=
    if blank domain then .returned none
    else match s.cache.find? (fun entry => hasDomain rt normalized entry.2.tenant) with
      | some entry => .returned (some entry.2)
      | none => .querying normalized
  { s with callers := s.callers ++ [caller] }

def answerByDomain (s : State) (caller : Nat) (fails : Bool) : Option State :=
  match s.callers[caller]? with
  | some (.querying normalized) =>
    let result := if fails then none
      else findOne s (fun document => document.tenant.applications.any (fun app =>
        app.domain == some ("http://" ++ normalized) || app.domain == some ("https://" ++ normalized)))
    some { s with callers := s.callers.set caller (.queried result) }
  | _ => none

def finishByDomain (s : State) (caller : Nat) : Option State :=
  match s.callers[caller]? with
  | some (.queried result) =>
    some { s with
      callers := s.callers.set caller (.returned result)
      cache := storeTenant s.cache result }
  | _ => none

/-- A message that does not parse, or names no action and tenant, is passed over. -/
def handleUpdate (rt : Runtime) (s : State) (message : Option TenantCacheUpdateMessage) : State :=
  match message.bind (normalizeCacheUpdate rt) with
  | none => s
  | some update =>
    { s with
      cache := applyUpdateMessage rt s.cache update
      notified := fun t => if updateTarget rt update = some t then some s.clock else s.notified t }

def act (rt : Runtime) (s : State) : Event → Option State
  | .write database => some { s with database }
  | .getTenant tenantId => some (getTenant s tenantId)
  | .enterLoadLock caller => enterLoadLock s caller
  | .answerLoad task fails => answerLoad s task fails
  | .finishLoad task => finishLoad s task
  | .resumeGetTenant caller => resumeGetTenant s caller
  | .finishGetTenant caller => finishGetTenant s caller
  | .getTenantByDomain domain => some (getTenantByDomain rt s domain)
  | .answerByDomain caller fails => answerByDomain s caller fails
  | .finishByDomain caller => finishByDomain s caller
  | .handleUpdate message => some (handleUpdate rt s message)

def step (rt : Runtime) (s : State) (e : Event) : Option State :=
  (act rt s e).map (fun next => { next with clock := s.clock + 1 })

end BlocksGenesis.Tenants
