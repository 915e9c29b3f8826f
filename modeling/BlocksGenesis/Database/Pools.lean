import BlocksGenesis.Database.MongoContext
import Mathlib.Data.List.Dedup
import Mathlib.Data.List.Nodup
import Mathlib.Data.List.Perm.Subperm
import Mathlib.Data.Set.Basic

/-! The Mongo clients of one process: those of the root database and those of the tenants. -/

namespace BlocksGenesis.Pools
open Python BlocksGenesis.Auth

structure BlocksSecret where
  databaseConnectionString : String
  rootDatabaseName : String
deriving DecidableEq, Repr

/-- The driver refuses some database names, once it has the client. -/
structure Driver where
  refuses : String → Option Exc

/-- `_database` of the provider store: a handle it was made with, or one of a client of its own. -/
inductive RootDatabase where
  | handed
  | opened (client : Nat)
deriving DecidableEq, Repr

/-- A request in the `authorize` dependency, with the client its tenant service has opened. -/
inductive Stage where
  | authenticating (client : Nat) (bypassAuthorization : Bool)
  | checking (client : Nat)
  | returned
  | raised (e : Exc)
deriving DecidableEq, Repr

/-- What the modules of the process hold. `roots` counts the clients of the root database that were
ever constructed; a tenant service is known by its own. -/
structure State where
  secret : Option BlocksSecret := none
  cacheClient : Bool := false
  tenantService : Option Nat := none
  store : Option (Option RootDatabase) := none
  provider : Bool := false
  roots : Nat := 0
  tenants : MongoContext.State := {}
  requests : List Stage := []

inductive Event where
  | loadSecrets (secret : BlocksSecret)
  | setCacheClient
  | initializeTenantService (failure : Option Exc)
  | initializeProviderStore (handed : Bool)
  | setProvider
  | authorize (bypassAuthorization : Bool) (failure : Option Exc)
  | authenticated (request : Nat) (answer : Except Exc (Option BlocksContext))
  | accessChecked (request : Nat) (hasAccess : Bool)
  | loadProviders (failure : Option Exc)
  | database (event : MongoContext.Event)

/-! ## Opening the root database -/

/-- `AsyncIOMotorClient(...)[...]`. The client may fail to construct; its database may be refused
when it is already there. -/
def openRoot (driver : Driver) (secret : BlocksSecret) (s : State) :
    Option Exc → Except Exc Nat × State
  | some e => (.error e, s)
  | none =>
    let constructed := { s with roots := s.roots + 1 }
    match driver.refuses secret.rootDatabaseName with
    | some e => (.error e, constructed)
    | none => (.ok s.roots, constructed)

/-- `TenantService()`. -/
def newTenantService (driver : Driver) (s : State) (failure : Option Exc) : Except Exc Nat × State :=
  match s.secret with
  | none => (.error (.runtimeError "Secrets not loaded"), s)
  | some secret =>
    if s.cacheClient then openRoot driver secret s failure
    else (.error (.runtimeError "Cache client not initialized"), s)

/-- `initialize_tenant_service`. -/
def initializeTenantService (driver : Driver) (s : State) (failure : Option Exc) : State :=
  match s.tenantService with
  | some _ => s
  | none =>
    match newTenantService driver s failure with
    | (.ok client, s) => { s with tenantService := some client }
    | (.error _, s) => s

/-- `_root_database` of the provider store, in the load of a tenant's providers. -/
def rootDatabase (driver : Driver) (s : State) (failure : Option Exc) : State :=
  match s.store, s.secret with
  | some none, some secret =>
    match openRoot driver secret s failure with
    | (.ok client, s) => { s with store := some (some (.opened client)) }
    | (.error _, s) => s
  | _, _ => s

/-- `authorize.dependency` up to where it awaits `authenticate`. -/
def dependency (driver : Driver) (s : State) (bypassAuthorization : Bool) (failure : Option Exc) : State :=
  match newTenantService driver s failure with
  | (.error e, s) => { s with requests := s.requests ++ [.raised e] }
  | (.ok client, s) =>
    let stage : Stage :=
      if s.provider then .authenticating client bypassAuthorization
      else .raised (.runtimeError "No MongoDbContextProvider registered.")
    { s with requests := s.requests ++ [stage] }

/-- What follows `authenticate`, which may raise or leave no context. -/
def afterAuthenticate (client : Nat) (bypassAuthorization : Bool) : Except Exc (Option BlocksContext) → Stage
  | .error e => .raised e
  | .ok none => .raised (.http 401 "Missing context")
  | .ok (some _) => if bypassAuthorization then .returned else .checking client

/-- The secrets are loaded once. A provider is made with the tenant service. -/
def step (driver : Driver) (s : State) : Event → Option State
  | .loadSecrets secret => some { s with secret := s.secret.or (some secret) }
  | .setCacheClient => some { s with cacheClient := true }
  | .initializeTenantService failure => some (initializeTenantService driver s failure)
  | .initializeProviderStore handed =>
    some { s with store := s.store.or (some (if handed then some .handed else none)) }
  | .setProvider => some { s with provider := s.provider || s.tenantService.isSome }
  | .authorize bypassAuthorization failure => some (dependency driver s bypassAuthorization failure)
  | .authenticated i answer =>
    match s.requests[i]? with
    | some (.authenticating client bypassAuthorization) =>
      some { s with requests := s.requests.set i (afterAuthenticate client bypassAuthorization answer) }
    | _ => none
  | .accessChecked i hasAccess =>
    match s.requests[i]? with
    | some (.checking _) =>
      let stage : Stage := if hasAccess then .returned else .raised (.http 403 "Insufficient permissions")
      some { s with requests := s.requests.set i stage }
    | _ => none
  | .loadProviders failure => if s.store.isSome then some (rootDatabase driver s failure) else none
  | .database event =>
    if s.provider then (MongoContext.step s.tenants event).map (fun tenants => { s with tenants }) else none

/-! ## What is kept of the clients of the root database -/

/-- All clients the process has constructed. -/
def State.clients (s : State) : Nat := s.roots + s.tenants.created.length

/-- The clients of the root database that the process holds on to. -/
def State.keptRoots (s : State) : Nat :=
  (if s.tenantService.isSome then 1 else 0) +
    match s.store with
    | some (some (.opened _)) => 1
    | _ => 0

/-- `TenantService()` would construct a client. -/
def State.ready (s : State) : Bool := s.secret.isSome && s.cacheClient

def State.refused (driver : Driver) (s : State) : Bool :=
  match s.secret with
  | some secret => (driver.refuses secret.rootDatabaseName).isSome
  | none => false

/-- The step constructs a client of the root database that nothing holds on to: one for a single
request, or one whose database the driver refuses. -/
def spare (driver : Driver) (s : State) : Event → Bool
  | .authorize _ none => s.ready
  | .initializeTenantService none => s.tenantService.isNone && s.ready && s.refused driver
  | .loadProviders none => s.store = some none && s.refused driver
  | _ => false

def spareCost (driver : Driver) (s : State) (e : Event) : Nat := if spare driver s e then 1 else 0

section Roots
variable {driver : Driver} {s s' : State} {secret : BlocksSecret} {failure : Option Exc}
  {answer : Except Exc Nat}

theorem openRoot_changes (h : openRoot driver secret s failure = (answer, s')) :
    s' = { s with roots := s.roots + if failure.isNone then 1 else 0 } ∧
      answer.toBool = (failure.isNone && (driver.refuses secret.rootDatabaseName).isNone) := by
  cases failure with
  | some e =>
    cases h
    exact ⟨rfl, rfl⟩
  | none =>
    simp only [openRoot] at h
    split at h
    · rename_i e hrefused
      cases h
      exact ⟨rfl, by rw [hrefused]; rfl⟩
    · rename_i hrefused
      cases h
      exact ⟨rfl, by rw [hrefused]; rfl⟩

theorem newTenantService_changes (h : newTenantService driver s failure = (answer, s')) :
    s' = { s with roots := s.roots + if s.ready && failure.isNone then 1 else 0 } ∧
      answer.toBool = (s.ready && failure.isNone && !s.refused driver) := by
  unfold newTenantService at h
  split at h
  · rename_i hsecret
    have hready : s.ready = false := by simp [State.ready, hsecret]
    cases h
    simp [hready, Except.toBool]
  · rename_i secret hsecret
    split at h
    · rename_i hcache
      obtain ⟨hs, hanswer⟩ := openRoot_changes h
      simp [State.ready, State.refused, hsecret, hcache, hs, hanswer, Option.not_isSome]
    · rename_i hcache
      have hready : s.ready = false := by simp [State.ready, hcache]
      cases h
      simp [hready, Except.toBool]

/-- Of the clients of the root database that a step constructs, those the process does not hold on
to afterwards are the spare ones. -/
def Balanced (driver : Driver) (s : State) (e : Event) (s' : State) : Prop :=
  s'.roots + s.keptRoots = s.roots + s'.keptRoots + spareCost driver s e

/-- A step that leaves the holders and the count alone. -/
theorem Balanced.unchanged {e : Event} (hroots : s'.roots = s.roots) (hservice : s'.tenantService = s.tenantService)
    (hstore : s'.store = s.store) (hspare : spare driver s e = false) : Balanced driver s e s' := by
  simp [Balanced, State.keptRoots, spareCost, hroots, hservice, hstore, hspare]

theorem initializeTenantService_balanced :
    Balanced driver s (.initializeTenantService failure) (initializeTenantService driver s failure) := by
  unfold initializeTenantService
  split
  · rename_i hservice
    apply Balanced.unchanged rfl rfl rfl
    cases failure <;> simp [spare, hservice]
  · rename_i hservice
    split
    · rename_i client s' hnew
      obtain ⟨rfl, hanswer⟩ := newTenantService_changes hnew
      have hok : s.ready = true ∧ failure = none ∧ s.refused driver = false := by
        simpa [Except.toBool, and_assoc] using hanswer.symm
      obtain ⟨hready, rfl, haccepted⟩ := hok
      simp [Balanced, State.keptRoots, spareCost, spare, hservice, hready, haccepted]
      omega
    · rename_i e s' hnew
      obtain ⟨rfl, hanswer⟩ := newTenantService_changes hnew
      cases failure with
      | some e => exact Balanced.unchanged (by simp) rfl rfl rfl
      | none =>
        cases hready : s.ready with
        | false => exact Balanced.unchanged (by simp) rfl rfl (by simp [spare, hready])
        | true =>
          have hrefused : s.refused driver = true := by simpa [Except.toBool, hready] using hanswer
          simp [Balanced, State.keptRoots, spareCost, spare, hservice, hready, hrefused]
          omega

theorem rootDatabase_balanced :
    Balanced driver s (.loadProviders failure) (rootDatabase driver s failure) := by
  unfold rootDatabase
  split
  · rename_i secret hstore hsecret
    split
    · rename_i client s' hopen
      obtain ⟨rfl, hanswer⟩ := openRoot_changes hopen
      have hok : failure = none ∧ driver.refuses secret.rootDatabaseName = none := by
        simpa [Except.toBool] using hanswer.symm
      obtain ⟨rfl, haccepted⟩ := hok
      simp [Balanced, State.keptRoots, spareCost, spare, State.refused, hstore, hsecret, haccepted]
      omega
    · rename_i e s' hopen
      obtain ⟨rfl, hanswer⟩ := openRoot_changes hopen
      cases failure with
      | some e => exact Balanced.unchanged (by simp) rfl rfl rfl
      | none =>
        have hrefused : (driver.refuses secret.rootDatabaseName).isSome = true := by
          simpa [Except.toBool, Option.isSome_iff_ne_none] using hanswer
        simp [Balanced, State.keptRoots, spareCost, spare, State.refused, hstore, hsecret, hrefused]
        omega
  · rename_i hnot
    apply Balanced.unchanged rfl rfl rfl
    cases failure with
    | some e => rfl
    | none =>
      cases hsecret : s.secret with
      | none => simp [spare, State.refused, hsecret]
      | some secret =>
        have hstore : s.store ≠ some none := fun hstore => hnot secret hstore hsecret
        simp [spare, hstore]

theorem dependency_balanced {bypass : Bool} :
    Balanced driver s (.authorize bypass failure) (dependency driver s bypass failure) := by
  have hcost : spareCost driver s (.authorize bypass failure) = if s.ready && failure.isNone then 1 else 0 := by
    cases failure with
    | none => cases hready : s.ready <;> simp [spareCost, spare, hready]
    | some e => simp [spareCost, spare]
  unfold dependency
  split
  · rename_i e s' hnew
    obtain ⟨rfl, _⟩ := newTenantService_changes hnew
    simp only [Balanced, State.keptRoots, hcost]
    omega
  · rename_i client s' hnew
    obtain ⟨rfl, _⟩ := newTenantService_changes hnew
    simp only [Balanced, State.keptRoots, hcost]
    omega

theorem step_balanced {e : Event} (h : step driver s e = some s') : Balanced driver s e s' := by
  cases e with
  | loadSecrets secret =>
    cases h
    exact .unchanged rfl rfl rfl rfl
  | setCacheClient =>
    cases h
    exact .unchanged rfl rfl rfl rfl
  | initializeTenantService failure =>
    cases h
    exact initializeTenantService_balanced
  | initializeProviderStore handed =>
    cases h
    cases hstore : s.store with
    | some database => exact .unchanged rfl rfl (by simp [hstore]) rfl
    | none => cases handed <;> simp [Balanced, State.keptRoots, spareCost, spare, hstore]
  | setProvider =>
    cases h
    exact .unchanged rfl rfl rfl rfl
  | authorize bypass failure =>
    cases h
    exact dependency_balanced
  | authenticated i answer =>
    simp only [step] at h
    split at h
    · cases h
      exact .unchanged rfl rfl rfl rfl
    · cases h
  | accessChecked i hasAccess =>
    simp only [step] at h
    split at h
    · cases h
      exact .unchanged rfl rfl rfl rfl
    · cases h
  | loadProviders failure =>
    simp only [step] at h
    split at h
    · cases h
      exact rootDatabase_balanced
    · cases h
  | database event =>
    simp only [step] at h
    split at h
    · obtain ⟨tenants, _, rfl⟩ := Option.map_eq_some_iff.mp h
      exact .unchanged rfl rfl rfl rfl
    · cases h

theorem keptRoots_le_two : s.keptRoots ≤ 2 := by
  refine @Nat.add_le_add _ 1 _ 1 ?_ ?_
  · split
    · exact Nat.le_refl 1
    · exact Nat.zero_le 1
  · split
    · exact Nat.le_refl 1
    · exact Nat.zero_le 1

end Roots

/-! ## The connection strings of the tenants -/

/-- The connection string that a call uses. -/
def connectionOf (call : MongoContext.Call) : Option String :=
  match call.progress with
  | .working key _ => some key.1
  | _ => none

/-- The distinct connection strings seen. -/
def State.connections (s : State) : List String := (s.tenants.calls.filterMap connectionOf).dedup

/-- A client is only created for a connection string that a call uses. -/
def Seen (s : MongoContext.State) : Prop := s.created ⊆ s.calls.filterMap connectionOf

section Connections
variable {s s' : MongoContext.State}

theorem Seen.push (h : Seen s) (call : MongoContext.Call) : Seen { s with calls := s.calls ++ [call] } := by
  intro connection hcreated
  change connection ∈ (s.calls ++ [call]).filterMap connectionOf
  rw [List.filterMap_append]
  exact List.mem_append_left _ (h hcreated)

/-- Another stage of a call shows the connection that it had. -/
theorem Seen.setCall {i : Nat} {old call : MongoContext.Call} (h : Seen s) (hold : s.calls[i]? = some old)
    (hsame : ∀ connection, connectionOf old = some connection → connectionOf call = some connection) :
    Seen (s.setCall i call) := by
  intro connection hcreated
  exact Machine.mem_shown_set hold (hsame connection) (h hcreated)

theorem stageStep_seen {i : Nat} {key : MongoContext.Key} {failure : Option Exc} {stage next : MongoContext.Stage}
    {tenantId : Option String} {placement : Option (Option String × Option String)} (h : Seen s)
    (hcall : s.calls[i]? = some ⟨tenantId, placement, .working key stage⟩)
    (he : MongoContext.stageStep s i key failure stage = some (next, s')) :
    Seen s' ∧ s'.calls = s.calls := by
  cases stage <;> simp only [MongoContext.stageStep] at he
  case creating =>
    split at he
    · cases he
      exact ⟨h, rfl⟩
    · cases he
      refine ⟨?_, rfl⟩
      intro connection hcreated
      rcases List.mem_append.mp hcreated with hold | hnew
      · exact h hold
      · rw [List.mem_singleton.mp hnew]
        exact List.mem_filterMap.mpr ⟨_, List.mem_of_getElem? hcall, rfl⟩
  all_goals repeat' first | split at he | cases he
  all_goals exact ⟨h, rfl⟩

theorem mongoStep_seen {e : MongoContext.Event} (h : Seen s) (he : MongoContext.step s e = some s') : Seen s' := by
  cases e with
  | getDatabase tenantId flow =>
    cases he
    exact h.push _
  | getDatabaseByConnection connection name =>
    cases he
    exact h.push _
  | place i answer =>
    simp only [MongoContext.step] at he
    split at he
    · rename_i hcall
      cases he
      apply h.setCall hcall
      intro connection hnone
      cases hnone
    · cases he
  | advance i failure =>
    simp only [MongoContext.step] at he
    split at he
    · rename_i hcall
      obtain ⟨⟨next, moved⟩, hstage, rfl⟩ := Option.map_eq_some_iff.mp he
      obtain ⟨hseen, hcalls⟩ := stageStep_seen h hcall hstage
      rw [← hcalls] at hcall
      exact hseen.setCall hcall (fun _ hkey => hkey)
    · cases he

/-- No connection string has two clients. -/
theorem created_nodup (h : MongoContext.Kept s) : s.created.Nodup := by
  rw [List.nodup_iff_injective_get]
  intro client client' hsame
  apply Fin.ext
  apply h.single (s.created.get client) client client'
  · exact List.getElem?_eq_getElem client.isLt
  · rw [hsame]
    exact List.getElem?_eq_getElem client'.isLt

end Connections

/-! ## Every run -/

/-- A run of the process from its start. -/
structure Trace (driver : Driver) where
  events : List Event
  state : State
  run : Machine.Run (step driver) (fun _ _ => True) {} events state

structure Kept (s : State) : Prop where
  roots : s.keptRoots ≤ s.roots
  tenants : MongoContext.Kept s.tenants
  seen : Seen s.tenants

theorem initial_kept : Kept {} := ⟨Nat.le_refl 0, MongoContext.initial_kept, List.nil_subset _⟩

section Traces
variable {driver : Driver} {s s' : State} {e : Event}

theorem initializeTenantService_tenants {failure : Option Exc} :
    (initializeTenantService driver s failure).tenants = s.tenants := by
  unfold initializeTenantService
  split
  · rfl
  · split
    · rename_i hnew
      rw [(newTenantService_changes hnew).1]
    · rename_i hnew
      rw [(newTenantService_changes hnew).1]

theorem rootDatabase_tenants {failure : Option Exc} : (rootDatabase driver s failure).tenants = s.tenants := by
  unfold rootDatabase
  split
  · split
    · rename_i hopen
      rw [(openRoot_changes hopen).1]
    · rename_i hopen
      rw [(openRoot_changes hopen).1]
  · rfl

theorem dependency_tenants {bypass : Bool} {failure : Option Exc} :
    (dependency driver s bypass failure).tenants = s.tenants := by
  unfold dependency
  split
  · rename_i hnew
    rw [(newTenantService_changes hnew).1]
  · rename_i hnew
    rw [(newTenantService_changes hnew).1]

/-- Only the calls on the database touch the tenants' clients. -/
theorem step_tenants (h : step driver s e = some s') :
    s'.tenants = s.tenants ∨ ∃ event, MongoContext.step s.tenants event = some s'.tenants := by
  cases e with
  | database event =>
    simp only [step] at h
    split at h
    · obtain ⟨tenants, htenants, rfl⟩ := Option.map_eq_some_iff.mp h
      exact .inr ⟨event, htenants⟩
    · cases h
  | initializeTenantService failure =>
    cases h
    exact .inl initializeTenantService_tenants
  | authorize bypass failure =>
    cases h
    exact .inl dependency_tenants
  | loadProviders failure =>
    simp only [step] at h
    split at h
    · cases h
      exact .inl rootDatabase_tenants
    · cases h
  | _ =>
    simp only [step] at h
    repeat' first | split at h | cases h
    all_goals exact .inl rfl

theorem step_kept (h : Kept s) (he : step driver s e = some s') : Kept s' := by
  have hbalanced : Balanced driver s e s' := step_balanced he
  have hroots := h.roots
  unfold Balanced at hbalanced
  rcases step_tenants he with hsame | ⟨event, htaken⟩
  · exact ⟨by omega, hsame ▸ h.tenants, hsame ▸ h.seen⟩
  · exact ⟨by omega, MongoContext.step_kept h.tenants htaken, mongoStep_seen h.seen htaken⟩

/-- How often the run constructs a client that nothing holds on to. -/
def Trace.spares (t : Trace driver) : Nat := Machine.tally (step driver) (spareCost driver) {} t.events

theorem Trace.kept (t : Trace driver) : Kept t.state :=
  t.run.invariant initial_kept (fun hkept _ hstep => step_kept hkept hstep)

theorem Trace.roots_eq (t : Trace driver) : t.state.roots = t.state.keptRoots + t.spares := by
  have hgrown : t.state.roots - t.state.keptRoots = 0 + t.spares := by
    apply t.run.tally_eq (fun s => s.roots - s.keptRoots) initial_kept
    intro s e s' hkept hstep
    refine ⟨step_kept hkept hstep, ?_⟩
    have hbalanced : Balanced driver s e s' := step_balanced hstep
    have hroots := hkept.roots
    unfold Balanced at hbalanced
    omega
  have hroots := t.kept.roots
  omega

/-- The number of distinct connection strings for which there is a client. -/
def State.connected (s : State) : Nat := s.tenants.created.dedup.length

theorem Trace.connected_eq (t : Trace driver) : t.state.connected = t.state.tenants.created.length := by
  rw [State.connected, (created_nodup t.kept.tenants).dedup]

theorem Trace.connected_le (t : Trace driver) : t.state.connected ≤ t.state.connections.length := by
  apply List.Subperm.length_le
  apply List.Nodup.subperm (List.nodup_dedup _)
  intro connection hcreated
  exact List.mem_dedup.mpr (t.kept.seen (List.mem_dedup.mp hcreated))

/-- Every client is one the process holds for the root database, a spare one or the one of its
connection string. -/
theorem Trace.clients_eq (t : Trace driver) :
    t.state.clients = t.state.keptRoots + t.spares + t.state.connected := by
  rw [State.clients, t.roots_eq, t.connected_eq]

/-- The clients of these runs are at most some constant number and one for each connection. -/
def Bounded (traces : Set (Trace driver)) (connections : State → Nat) : Prop :=
  ∃ constant, ∀ t ∈ traces, t.state.clients ≤ constant + connections t.state

def FewSpares (traces : Set (Trace driver)) : Prop := ∃ most, ∀ t ∈ traces, t.spares ≤ most

theorem FewSpares.bounded {traces : Set (Trace driver)} (h : FewSpares traces) :
    Bounded traces State.connected := by
  obtain ⟨most, hmost⟩ := h
  refine ⟨2 + most, ?_⟩
  intro t ht
  have hspares := hmost t ht
  have hkept : t.state.keptRoots ≤ 2 := keptRoots_le_two
  rw [t.clients_eq]
  omega

theorem Bounded.fewSpares {traces : Set (Trace driver)} (h : Bounded traces State.connected) :
    FewSpares traces := by
  obtain ⟨constant, hconstant⟩ := h
  refine ⟨constant, ?_⟩
  intro t ht
  have hclients := hconstant t ht
  rw [t.clients_eq] at hclients
  omega

/-- Runs of any length keep to one client for each connection and a constant number more exactly
if they construct at most a constant number of spare ones. -/
theorem pools_bounded_iff (traces : Set (Trace driver)) :
    (Bounded traces State.connected ↔ FewSpares traces) ∧
      (FewSpares traces → Bounded traces (fun s => s.connections.length)) := by
  refine ⟨⟨Bounded.fewSpares, FewSpares.bounded⟩, ?_⟩
  intro hfew
  obtain ⟨constant, hconstant⟩ := hfew.bounded
  refine ⟨constant, ?_⟩
  intro t ht
  exact Nat.le_trans (hconstant t ht) (Nat.add_le_add_left t.connected_le constant)

/-- Each request through `authorize` constructs a client. -/
theorem authorize_constructs {secret : BlocksSecret} (hsecret : s.secret = some secret)
    (hcache : s.cacheClient = true) (n : Nat) :
    ∃ s', Machine.Run (step driver) (fun _ _ => True) s (List.replicate n (.authorize false none)) s' ∧
      s'.roots = s.roots + n ∧ s'.tenants = s.tenants := by
  have hready : s.ready = true := by simp [State.ready, hsecret, hcache]
  induction n generalizing s with
  | zero => exact ⟨s, .nil, rfl, rfl⟩
  | succ n ih =>
    let next := dependency driver s false none
    have hnext : ∃ requests, next = { s with roots := s.roots + 1, requests } := by
      cases hnew : newTenantService driver s none with
      | mk answer constructed =>
        obtain ⟨rfl, _⟩ := newTenantService_changes hnew
        cases answer <;> exact ⟨_, by simp only [next, dependency, hnew, hready]; rfl⟩
    obtain ⟨requests, hnext⟩ := hnext
    obtain ⟨s', hrun, hroots, htenants⟩ := @ih next (by rw [hnext]; exact hsecret) (by rw [hnext]; exact hcache)
      (by rw [hnext]; exact hready)
    refine ⟨s', .cons trivial rfl hrun, ?_, ?_⟩
    · have hnextRoots : next.roots = s.roots + 1 := by rw [hnext]
      omega
    · rw [htenants, hnext]

end Traces

/-- A process that has started up. -/
def startup : List Event :=
  [.loadSecrets ⟨"mongodb://root", "Blocks"⟩, .setCacheClient, .initializeTenantService none,
    .initializeProviderStore false, .setProvider]

/-- A process that only serves requests on protected endpoints. Not one tenant's database is used. -/
theorem requests_construct_clients :
    ¬ Bounded {t : Trace ⟨fun _ => none⟩ | ∃ n, t.events = startup ++ List.replicate n (.authorize false none)}
      (fun s => s.connections.length) := by
  rintro ⟨constant, hconstant⟩
  have hstart : ∃ s, Machine.Run (step ⟨fun _ => none⟩) (fun _ _ => True) {} startup s ∧ s.roots = 1 ∧
      s.tenants = {} ∧ s.secret = some ⟨"mongodb://root", "Blocks"⟩ ∧ s.cacheClient = true :=
    ⟨_, Machine.Run.of_exec (fun _ _ _ => trivial) rfl, rfl, rfl, rfl, rfl⟩
  obtain ⟨s, hstart, hroots, htenants, hsecret, hcache⟩ := hstart
  obtain ⟨s', hrun, hroots', htenants'⟩ := authorize_constructs hsecret hcache constant
  have hclients := hconstant ⟨_, s', hstart.append hrun⟩ ⟨constant, rfl⟩
  have hconnections : s'.connections.length = 0 := by
    rw [State.connections, htenants', htenants]
    rfl
  have hfew : s'.roots + s'.tenants.created.length ≤ constant + s'.connections.length := hclients
  rw [hroots', hroots, hconnections] at hfew
  omega

end BlocksGenesis.Pools
