import BlocksGenesis.Auth.Request
import BlocksGenesis.Machine.Run
import BlocksGenesis.Machine.Slots
import BlocksGenesis.Python.Dict

namespace BlocksGenesis.MongoContext
open Python BlocksGenesis.Auth

/-! ## The shared maps and the calls on them -/

/-- A connection string and a database name. -/
abbrev Key := String × String

/-- What `client[name]` gives. Clients are numbered as they are created. -/
structure Database where
  client : Nat
  name : String
deriving DecidableEq, Repr

/-- Where `get_database_by_connection` is: each stage is one access to a shared map, one use of the
lock or one call of the driver. -/
inductive Stage where
  | reading
  | locking
  | rechecking
  | findingClient
  | creating
  | storingClient (client : Nat)
  | opening (client : Nat)
  | storingDatabase (database : Database)
  | releasing (result : Except Exc Database)
  | returned (result : Except Exc Database)

inductive Progress where
  | placing (tenantId : String)
  | nothing
  | raised (e : Exc)
  | working (key : Key) (stage : Stage)

/-- One call, of `get_database` if it has a tenant. `placement` is what `get_db_connection` gave
in it: a name and a connection. -/
structure Call where
  tenantId : Option String
  placement : Option (Option String × Option String)
  progress : Progress

/-- `_databases`, `_clients` and `_lock`, with the connection of each client ever created. -/
structure State where
  databases : Dict Key Database := []
  clients : Dict String Nat := []
  lock : Option Nat := none
  created : List String := []
  calls : List Call := []

inductive Event where
  | getDatabase (tenantId : Option String) (flow : Ambient)
  | place (call : Nat) (answer : Except Exc (Option String × Option String))
  | getDatabaseByConnection (connection name : String)
  | advance (call : Nat) (failure : Option Exc)

/-- Neither the connection nor the name may be empty. -/
def begin (connection name : String) : Progress :=
  if connection.isEmpty then .raised (.valueError "Connection string cannot be empty or None.")
  else if name.isEmpty then .raised (.valueError "Database name cannot be empty or None.")
  else .working (connection, name) .reading

/-- `get_database` up to where it asks for the placement. -/
def getDatabase (tenantId : Option String) (flow : Ambient) : Call :=
  match (given tenantId).or (given (flow.context.map BlocksContext.tenantId)) with
  | none => ⟨tenantId, none, .nothing⟩
  | some id => ⟨some id, none, .placing id⟩

/-- The placement of the tenant is known, or could not be had. -/
def placed (tenantId : String) : Except Exc (Option String × Option String) → Call
  | .error e => ⟨some tenantId, none, .raised e⟩
  | .ok (name, connection) =>
    let progress :=
      match given connection, given name with
      | some connection, some name => begin connection name
      | _, _ => .raised (.valueError ("Missing connection info for tenant " ++ tenantId))
    ⟨some tenantId, some (name, connection), progress⟩

def State.setCall (s : State) (i : Nat) (call : Call) : State := { s with calls := s.calls.set i call }

/-- The next stage of a call, if it can go on, and what the stage does. The driver may fail to
create a client or to open a database. -/
def stageStep (s : State) (i : Nat) (key : Key) (failure : Option Exc) : Stage → Option (Stage × State)
  | .reading =>
    match s.databases.lookup key with
    | some database => some (.returned (.ok database), s)
    | none => some (.locking, s)
  | .locking => if s.lock = none then some (.rechecking, { s with lock := some i }) else none
  | .rechecking =>
    match s.databases.lookup key with
    | some database => some (.releasing (.ok database), s)
    | none => some (.findingClient, s)
  | .findingClient =>
    match s.clients.lookup key.1 with
    | some client => some (.opening client, s)
    | none => some (.creating, s)
  | .creating =>
    match failure with
    | some e => some (.releasing (.error e), s)
    | none => some (.storingClient s.created.length, { s with created := s.created ++ [key.1] })
  | .storingClient client => some (.opening client, { s with clients := s.clients.set key.1 client })
  | .opening client =>
    match failure with
    | some e => some (.releasing (.error e), s)
    | none => some (.storingDatabase ⟨client, key.2⟩, s)
  | .storingDatabase database =>
    some (.releasing (.ok database), { s with databases := s.databases.set key database })
  | .releasing result => some (.returned result, { s with lock := none })
  | .returned _ => none

def step (s : State) : Event → Option State
  | .getDatabase tenantId flow => some { s with calls := s.calls ++ [getDatabase tenantId flow] }
  | .getDatabaseByConnection connection name =>
    some { s with calls := s.calls ++ [⟨none, none, begin connection name⟩] }
  | .place i answer =>
    match s.calls[i]? with
    | some ⟨_, _, .placing tenantId⟩ => some (s.setCall i (placed tenantId answer))
    | _ => none
  | .advance i failure =>
    match s.calls[i]? with
    | some ⟨tenantId, placement, .working key stage⟩ =>
      (stageStep s i key failure stage).map
        (fun next => next.2.setCall i ⟨tenantId, placement, .working key next.1⟩)
    | _ => none

/-! ## What holds at each stage -/

/-- The handle is this database of a client that was created for this connection. -/
def IsDatabase (s : State) (key : Key) (database : Database) : Prop :=
  database.name = key.2 ∧ s.created[database.client]? = some key.1

/-- Every stage from the recheck on is behind the lock. -/
def AtStage (s : State) (i : Nat) (key : Key) : Stage → Prop
  | .reading | .locking => True
  | .rechecking | .findingClient => s.lock = some i
  | .creating => s.lock = some i ∧ s.clients.lookup key.1 = none
  | .storingClient client | .opening client => s.lock = some i ∧ s.created[client]? = some key.1
  | .storingDatabase database => s.lock = some i ∧ IsDatabase s key database
  | .releasing result => s.lock = some i ∧ ∀ database, result = .ok database → IsDatabase s key database
  | .returned result => ∀ database, result = .ok database → IsDatabase s key database

structure CallKept (s : State) (i : Nat) (call : Call) : Prop where
  stage : ∀ key stage, call.progress = .working key stage → AtStage s i key stage
  placed : ∀ key stage tenantId, call.progress = .working key stage → call.tenantId = some tenantId →
    call.placement = some (some key.2, some key.1)

/-- The call is about to register the client it has created. -/
def Registering (s : State) (connection : String) (client : Nat) : Prop :=
  ∃ (i : Nat) (call : Call) (name : String), s.calls[i]? = some call ∧
    call.progress = .working (connection, name) (.storingClient client)

structure Kept (s : State) : Prop where
  databases : ∀ key database, s.databases.lookup key = some database → IsDatabase s key database
  clients : ∀ connection client, s.clients.lookup connection = some client →
    s.created[client]? = some connection
  registered : ∀ connection (client : Nat), s.created[client]? = some connection →
    s.clients.lookup connection = some client ∨ Registering s connection client
  single : ∀ connection (client client' : Nat), s.created[client]? = some connection →
    s.created[client']? = some connection → client = client'
  calls : ∀ (i : Nat) call, s.calls[i]? = some call → CallKept s i call

section Frame
variable {s s' : State} {i j : Nat} {key : Key} {stage : Stage} {call : Call} {database : Database}

/-- What one call may change under the others: the lock if it is free or its own, and with the lock
held the clients. Clients are only ever added. -/
structure Ahead (s s' : State) (i : Nat) : Prop where
  lock : s'.lock = s.lock ∨ s.lock = none ∨ s.lock = some i
  created : ∃ more, s'.created = s.created ++ more
  clients : s'.clients = s.clients ∨ s.lock = some i
  calls : s'.calls = s.calls

theorem Ahead.client {client : Nat} {connection : String} (h : Ahead s s' i)
    (hc : s.created[client]? = some connection) : s'.created[client]? = some connection := by
  obtain ⟨more, he⟩ := h.created
  obtain ⟨hlt, _⟩ := List.getElem?_eq_some_iff.mp hc
  rw [he, List.getElem?_append_left hlt, hc]

theorem IsDatabase.kept (h : Ahead s s' i) (hd : IsDatabase s key database) : IsDatabase s' key database :=
  ⟨hd.1, h.client hd.2⟩

/-- A call behind the lock is not disturbed by another one. -/
theorem AtStage.other (hat : AtStage s j key stage) (h : Ahead s s' i) (hne : j ≠ i) :
    AtStage s' j key stage := by
  have hlock : s.lock = some j → s'.lock = some j ∧ s'.clients = s.clients := by
    intro hj
    have hnot : s.lock ≠ some i := by
      rw [hj]
      exact fun he => hne (Option.some.inj he)
    refine ⟨?_, h.clients.resolve_right hnot⟩
    rcases h.lock with hsame | hfree | hown
    · exact hsame.trans hj
    · rw [hj] at hfree
      cases hfree
    · exact absurd hown hnot
  cases stage with
  | reading => trivial
  | locking => trivial
  | rechecking => exact (hlock hat).1
  | findingClient => exact (hlock hat).1
  | creating =>
    obtain ⟨hheld, hsame⟩ := hlock hat.1
    refine ⟨hheld, ?_⟩
    rw [hsame]
    exact hat.2
  | storingClient client => exact ⟨(hlock hat.1).1, h.client hat.2⟩
  | opening client => exact ⟨(hlock hat.1).1, h.client hat.2⟩
  | storingDatabase database => exact ⟨(hlock hat.1).1, hat.2.kept h⟩
  | releasing result => exact ⟨(hlock hat.1).1, fun database hr => (hat.2 database hr).kept h⟩
  | returned result => exact fun database hr => (hat database hr).kept h

/-- A call changes to another one that is kept. The others stay where they are. -/
theorem Kept.setCall (h : Kept s) (hahead : Ahead s s' i) (hcall : CallKept s' i call)
    (hdatabases : ∀ key database, s'.databases.lookup key = some database → IsDatabase s' key database)
    (hclients : ∀ connection client, s'.clients.lookup connection = some client →
      s'.created[client]? = some connection)
    (hregistered : ∀ connection (client : Nat), s'.created[client]? = some connection →
      s'.clients.lookup connection = some client ∨ Registering (s'.setCall i call) connection client)
    (hsingle : ∀ connection (client client' : Nat), s'.created[client]? = some connection →
      s'.created[client']? = some connection → client = client') : Kept (s'.setCall i call) where
  databases := hdatabases
  clients := hclients
  registered := hregistered
  single := hsingle
  calls j other hj := by
    rcases Machine.slot_of_set hj with ⟨rfl, rfl⟩ | ⟨hne, hold⟩
    · exact ⟨hcall.stage, hcall.placed⟩
    · rw [hahead.calls] at hold
      have hkept := h.calls j other hold
      refine ⟨?_, hkept.placed⟩
      intro key stage hprogress
      have hat : AtStage s' j key stage := (hkept.stage key stage hprogress).other hahead hne
      exact hat

/-- Who is about to register a client still is when another call changes. -/
theorem Registering.kept {connection : String} {client : Nat} {old : Call}
    (h : Registering s connection client) (hcalls : s'.calls = s.calls) (hold : s.calls[i]? = some old)
    (hnot : ∀ name, old.progress ≠ .working (connection, name) (.storingClient client)) :
    Registering (s'.setCall i call) connection client := by
  obtain ⟨j, storing, name, hj, hprogress⟩ := h
  have hne : i ≠ j := by
    rintro rfl
    rw [hold] at hj
    cases hj
    exact hnot name hprogress
  refine ⟨j, storing, name, ?_, hprogress⟩
  change (s'.calls.set i call)[j]? = some storing
  rw [hcalls, List.getElem?_set_ne hne, hj]

/-- Where only the lock and the call change, and the call was not about to register a client. -/
theorem Kept.advance {old : Call} (h : Kept s) (hold : s.calls[i]? = some old)
    (hnot : ∀ key client, old.progress ≠ .working key (.storingClient client)) (lock : Option Nat)
    (hlock : lock = s.lock ∨ s.lock = none ∨ s.lock = some i) (hcall : CallKept { s with lock } i call) :
    Kept (State.setCall { s with lock } i call) := by
  have hahead : Ahead s { s with lock } i := ⟨hlock, ⟨[], (List.append_nil _).symm⟩, .inl rfl, rfl⟩
  apply h.setCall hahead hcall h.databases h.clients _ h.single
  intro connection client hcreated
  rcases h.registered connection client hcreated with hfound | hstoring
  · exact .inl hfound
  · exact .inr (hstoring.kept rfl hold (fun name => hnot (connection, name) client))

theorem Kept.push (h : Kept s) (hcall : CallKept s s.calls.length call) :
    Kept { s with calls := s.calls ++ [call] } where
  databases := h.databases
  clients := h.clients
  registered connection client hcreated := by
    rcases h.registered connection client hcreated with hfound | ⟨j, storing, name, hj, hprogress⟩
    · exact .inl hfound
    · exact .inr ⟨j, storing, name, Machine.slot_append_left hj, hprogress⟩
  single := h.single
  calls j other hj := by
    rcases Machine.slot_of_append hj with ⟨rfl, rfl⟩ | ⟨_, hold⟩
    · exact ⟨hcall.stage, hcall.placed⟩
    · exact ⟨(h.calls j other hold).stage, (h.calls j other hold).placed⟩

end Frame

/-! ## Every step -/

section Steps
variable {s s' : State} {i : Nat} {key : Key} {stage next : Stage} {tenantId : Option String}
  {placement : Option (Option String × Option String)}

/-- The call goes on under the same key. -/
theorem CallKept.goOn (h : CallKept s i ⟨tenantId, placement, .working key stage⟩)
    (hat : AtStage s' i key next) : CallKept s' i ⟨tenantId, placement, .working key next⟩ where
  stage key' stage' he := by
    cases he
    exact hat
  placed key' stage' tenant he htenant := by
    cases he
    exact h.placed key stage tenant rfl htenant

/-- While a call creates a client, there is none for its connection. -/
theorem Kept.creating_first (h : Kept s)
    (hcall : s.calls[i]? = some ⟨tenantId, placement, .working key .creating⟩) (client : Nat) :
    s.created[client]? ≠ some key.1 := by
  intro hcreated
  have hat := (h.calls i _ hcall).stage key .creating rfl
  rcases h.registered key.1 client hcreated with hfound | ⟨j, storing, name, hj, hprogress⟩
  · exact nomatch hat.2.symm.trans hfound
  · have hat' := (h.calls j storing hj).stage _ _ hprogress
    have he : i = j := Option.some.inj (hat.1.symm.trans hat'.1)
    subst he
    rw [hcall] at hj
    cases hj
    exact nomatch (Progress.working.inj hprogress).2

theorem Kept.created (h : Kept s)
    (hcall : s.calls[i]? = some ⟨tenantId, placement, .working key .creating⟩) :
    Kept (State.setCall { s with created := s.created ++ [key.1] } i
      ⟨tenantId, placement, .working key (.storingClient s.created.length)⟩) := by
  have hkept := h.calls i _ hcall
  have hat := hkept.stage key .creating rfl
  have hahead : Ahead s { s with created := s.created ++ [key.1] } i := ⟨.inl rfl, ⟨_, rfl⟩, .inl rfl, rfl⟩
  refine h.setCall hahead (hkept.goOn ⟨hat.1, List.getElem?_concat_length⟩) ?_ ?_ ?_ ?_
  · exact fun key database hl => (h.databases key database hl).kept hahead
  · exact fun connection client hl => hahead.client (h.clients connection client hl)
  · intro connection client hcreated
    rcases Machine.slot_of_append hcreated with ⟨rfl, rfl⟩ | ⟨_, hcreated⟩
    · right
      refine ⟨i, _, key.2, Machine.slot_set_self hcall, rfl⟩
    · rcases h.registered connection client hcreated with hfound | hstoring
      · exact .inl hfound
      · exact .inr (hstoring.kept rfl hcall (fun _ hp => nomatch hp))
  · intro connection client client' hcreated hcreated'
    rcases Machine.slot_of_append hcreated with ⟨rfl, rfl⟩ | ⟨_, hcreated⟩
    · rcases Machine.slot_of_append hcreated' with ⟨rfl, _⟩ | ⟨_, hcreated'⟩
      · rfl
      · exact absurd hcreated' (h.creating_first hcall client')
    · rcases Machine.slot_of_append hcreated' with ⟨rfl, rfl⟩ | ⟨_, hcreated'⟩
      · exact absurd hcreated (h.creating_first hcall client)
      · exact h.single connection client client' hcreated hcreated'

theorem Kept.storedClient {client : Nat} (h : Kept s)
    (hcall : s.calls[i]? = some ⟨tenantId, placement, .working key (.storingClient client)⟩) :
    Kept (State.setCall { s with clients := s.clients.set key.1 client } i
      ⟨tenantId, placement, .working key (.opening client)⟩) := by
  have hkept := h.calls i _ hcall
  have hat := hkept.stage key (.storingClient client) rfl
  have hahead : Ahead s { s with clients := s.clients.set key.1 client } i :=
    ⟨.inl rfl, ⟨[], (List.append_nil _).symm⟩, .inr hat.1, rfl⟩
  refine h.setCall hahead (hkept.goOn hat) h.databases ?_ ?_ h.single
  · intro connection other hl
    rcases Dict.lookup_of_set hl with ⟨rfl, rfl⟩ | ⟨_, hold⟩
    · exact hat.2
    · exact h.clients connection other hold
  · intro connection other hcreated
    by_cases hc : connection = key.1
    · subst hc
      rw [h.single key.1 other client hcreated hat.2]
      exact .inl Dict.lookup_set_self
    · rcases h.registered connection other hcreated with hfound | hstoring
      · exact .inl ((Dict.lookup_set_of_ne hc).trans hfound)
      · refine .inr (hstoring.kept rfl hcall ?_)
        intro name hp
        cases hp
        exact hc rfl

theorem Kept.storedDatabase {database : Database} (h : Kept s)
    (hcall : s.calls[i]? = some ⟨tenantId, placement, .working key (.storingDatabase database)⟩) :
    Kept (State.setCall { s with databases := s.databases.set key database } i
      ⟨tenantId, placement, .working key (.releasing (.ok database))⟩) := by
  have hkept := h.calls i _ hcall
  have hat := hkept.stage key (.storingDatabase database) rfl
  have hahead : Ahead s { s with databases := s.databases.set key database } i :=
    ⟨.inl rfl, ⟨[], (List.append_nil _).symm⟩, .inl rfl, rfl⟩
  refine h.setCall hahead (hkept.goOn ⟨hat.1, ?_⟩) ?_ h.clients ?_ h.single
  · intro stored hresult
    cases hresult
    exact hat.2
  · intro other stored hl
    rcases Dict.lookup_of_set hl with ⟨rfl, rfl⟩ | ⟨_, hold⟩
    · exact hat.2
    · exact h.databases other stored hold
  · intro connection client hcreated
    rcases h.registered connection client hcreated with hfound | hstoring
    · exact .inl hfound
    · exact .inr (hstoring.kept rfl hcall (fun _ hp => nomatch hp))

/-- Where only the lock and the stage of the call change. -/
theorem Kept.move (h : Kept s) (hcall : s.calls[i]? = some ⟨tenantId, placement, .working key stage⟩)
    (hnot : ∀ client, stage ≠ .storingClient client) (lock : Option Nat)
    (hlock : lock = s.lock ∨ s.lock = none ∨ s.lock = some i) (hat : AtStage { s with lock } i key next) :
    Kept (State.setCall { s with lock } i ⟨tenantId, placement, .working key next⟩) := by
  apply h.advance hcall _ lock hlock ((h.calls i _ hcall).goOn hat)
  intro other client hp
  exact hnot client (Progress.working.inj hp).2

theorem Kept.found {database : Database} (h : Kept s) (hfound : s.databases.lookup key = some database) :
    ∀ answer, (.ok database : Except Exc Database) = .ok answer → IsDatabase s key answer := by
  intro answer hresult
  cases hresult
  exact h.databases key database hfound

theorem stageStep_kept {failure : Option Exc} (h : Kept s)
    (hcall : s.calls[i]? = some ⟨tenantId, placement, .working key stage⟩)
    (he : stageStep s i key failure stage = some (next, s')) :
    Kept (s'.setCall i ⟨tenantId, placement, .working key next⟩) := by
  have hat := (h.calls i _ hcall).stage key stage rfl
  cases stage with
  | reading =>
    simp only [stageStep] at he
    split at he
    · rename_i database hfound
      cases he
      exact h.move hcall (fun _ => nofun) s.lock (.inl rfl) (h.found hfound)
    · cases he
      exact h.move hcall (fun _ => nofun) s.lock (.inl rfl) trivial
  | locking =>
    simp only [stageStep] at he
    split at he
    · rename_i hfree
      cases he
      exact h.move hcall (fun _ => nofun) (some i) (.inr (.inl hfree)) rfl
    · cases he
  | rechecking =>
    simp only [stageStep] at he
    split at he
    · rename_i database hfound
      cases he
      exact h.move hcall (fun _ => nofun) s.lock (.inl rfl) ⟨hat, h.found hfound⟩
    · cases he
      exact h.move hcall (fun _ => nofun) s.lock (.inl rfl) hat
  | findingClient =>
    simp only [stageStep] at he
    split at he
    · rename_i client hfound
      cases he
      exact h.move hcall (fun _ => nofun) s.lock (.inl rfl) ⟨hat, h.clients key.1 client hfound⟩
    · rename_i hnone
      cases he
      exact h.move hcall (fun _ => nofun) s.lock (.inl rfl) ⟨hat, hnone⟩
  | creating =>
    simp only [stageStep] at he
    split at he
    · cases he
      exact h.move hcall (fun _ => nofun) s.lock (.inl rfl) ⟨hat.1, fun _ => nofun⟩
    · cases he
      exact h.created hcall
  | storingClient client =>
    cases he
    exact h.storedClient hcall
  | opening client =>
    simp only [stageStep] at he
    split at he
    · cases he
      exact h.move hcall (fun _ => nofun) s.lock (.inl rfl) ⟨hat.1, fun _ => nofun⟩
    · cases he
      exact h.move hcall (fun _ => nofun) s.lock (.inl rfl) ⟨hat.1, rfl, hat.2⟩
  | storingDatabase database =>
    cases he
    exact h.storedDatabase hcall
  | releasing result =>
    cases he
    exact h.move hcall (fun _ => nofun) none (.inr (.inr hat.1)) hat.2
  | returned result => cases he

theorem callKept_idle {call : Call} (h : ∀ key stage, call.progress ≠ .working key stage) : CallKept s i call where
  stage key stage hp := absurd hp (h key stage)
  placed key stage _ hp := absurd hp (h key stage)

theorem callKept_begin {connection name : String} (tenantId : Option String)
    (hplaced : ∀ tenant, tenantId = some tenant → placement = some (some name, some connection)) :
    CallKept s i ⟨tenantId, placement, begin connection name⟩ := by
  unfold begin
  split
  · exact callKept_idle (fun _ _ hp => nomatch hp)
  · split
    · exact callKept_idle (fun _ _ hp => nomatch hp)
    · constructor
      · intro key stage hp
        cases hp
        trivial
      · intro key stage tenant hp htenant
        cases hp
        exact hplaced tenant htenant

theorem callKept_placed (tenantId : String) (answer : Except Exc (Option String × Option String)) :
    CallKept s i (placed tenantId answer) := by
  cases answer with
  | error e => exact callKept_idle (fun _ _ hp => nomatch hp)
  | ok answer =>
    obtain ⟨name, connection⟩ := answer
    simp only [placed]
    split
    · rename_i connection' name' hconnection hname
      rw [given_some hconnection, given_some hname]
      exact callKept_begin _ (fun _ _ => rfl)
    · exact callKept_idle (fun _ _ hp => nomatch hp)

theorem callKept_getDatabase (tenantId : Option String) (flow : Ambient) :
    CallKept s i (getDatabase tenantId flow) := by
  unfold getDatabase
  split
  · exact callKept_idle (fun _ _ hp => nomatch hp)
  · exact callKept_idle (fun _ _ hp => nomatch hp)

theorem step_kept {e : Event} (h : Kept s) (he : step s e = some s') : Kept s' := by
  cases e with
  | getDatabase tenantId flow =>
    cases he
    exact h.push (callKept_getDatabase tenantId flow)
  | getDatabaseByConnection connection name =>
    cases he
    exact h.push (callKept_begin none (fun _ hnone => nomatch hnone))
  | place i answer =>
    simp only [step] at he
    split at he
    · rename_i hcall
      cases he
      exact h.advance hcall (fun _ _ hp => nomatch hp) s.lock (.inl rfl) (callKept_placed _ answer)
    · cases he
  | advance i failure =>
    simp only [step] at he
    split at he
    · rename_i hcall
      obtain ⟨⟨next, moved⟩, hstage, rfl⟩ := Option.map_eq_some_iff.mp he
      exact stageStep_kept h hcall hstage
    · cases he

theorem initial_kept : Kept {} where
  databases key database h := by cases h
  clients connection client h := by cases h
  registered connection client h := by cases h
  single connection client client' h := by cases h
  calls i call h := by cases h

end Steps

/-! ## Every run -/

/-- The handles that are cached and handed out are of the one client of their connection. -/
structure NeverCross (s : State) : Prop where
  cached : ∀ connection name database, s.databases.lookup (connection, name) = some database →
    database.name = name ∧ s.created[database.client]? = some connection
  oneClient : ∀ connection (client client' : Nat), s.created[client]? = some connection →
    s.created[client']? = some connection → client = client'
  handedOut : ∀ (i : Nat) tenantId placement connection name database,
    s.calls[i]? = some ⟨tenantId, placement, .working (connection, name) (.returned (.ok database))⟩ →
    database.name = name ∧ s.created[database.client]? = some connection ∧
      ∀ tenant, tenantId = some tenant → placement = some (some name, some connection)

theorem Kept.neverCross {s : State} (h : Kept s) : NeverCross s where
  cached connection name database hl := h.databases (connection, name) database hl
  oneClient := h.single
  handedOut i tenantId placement connection name database hi := by
    have hkept := h.calls i _ hi
    obtain ⟨hname, hclient⟩ := hkept.stage _ _ rfl database rfl
    exact ⟨hname, hclient, fun tenant htenant => hkept.placed _ _ tenant rfl htenant⟩

theorem handles_never_cross {events : List Event} {s : State}
    (h : Machine.Run step (fun _ _ => True) {} events s) : NeverCross s :=
  (h.invariant initial_kept (fun hkept _ hstep => step_kept hkept hstep)).neverCross

/-- Two clusters with a database of one name, used for the first time at once. -/
theorem handles_never_cross_blocksdb :
    ∃ s, Machine.Run step (fun _ _ => True) {}
        ([.getDatabase (some "ABC001") {}, .place 0 (.ok (some "blocksdb", some "dev")),
          .getDatabaseByConnection "main" "blocksdb", .advance 0 none, .advance 1 none] ++
          List.replicate 8 (.advance 0 none) ++ List.replicate 8 (.advance 1 none)) s ∧
      s.databases = [(("dev", "blocksdb"), ⟨0, "blocksdb"⟩), (("main", "blocksdb"), ⟨1, "blocksdb"⟩)] ∧
      NeverCross s := by
  have hrun : ∃ s, Machine.Run step (fun _ _ => True) {}
      ([.getDatabase (some "ABC001") {}, .place 0 (.ok (some "blocksdb", some "dev")),
        .getDatabaseByConnection "main" "blocksdb", .advance 0 none, .advance 1 none] ++
        List.replicate 8 (.advance 0 none) ++ List.replicate 8 (.advance 1 none)) s ∧
      s.databases = [(("dev", "blocksdb"), ⟨0, "blocksdb"⟩), (("main", "blocksdb"), ⟨1, "blocksdb"⟩)] :=
    ⟨_, Machine.Run.of_exec (fun _ _ _ => trivial) rfl, rfl⟩
  obtain ⟨s, hrun, hdatabases⟩ := hrun
  exact ⟨s, hrun, hdatabases, handles_never_cross hrun⟩

end BlocksGenesis.MongoContext
