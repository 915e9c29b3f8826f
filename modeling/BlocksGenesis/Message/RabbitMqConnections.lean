import BlocksGenesis.Asyncio.Lock
import BlocksGenesis.Machine.Run
import BlocksGenesis.Machine.Slots
import BlocksGenesis.Message.Delivery

/-! The connections of a RabbitMQ client, as its initialisations and its closes leave them. -/

namespace BlocksGenesis.Message.RabbitMq
open Python

structure ConsumerSubscription where
  queueName : String
  exchangeName : String := ""
  prefetchCount : Int := 5
  exchangeType : String := "fanout"
  routingKey : String := ""
  durable : Bool := true
deriving DecidableEq, Repr

/-- The subscriptions of the RabbitMQ configuration, if there is one, and what `ExchangeType` raises
for a name. -/
structure Configuration where
  consumerSubscriptions : Option (List ConsumerSubscription)
  exchangeType : String → Option Exc

/-- What is awaited on the channel for a subscription. -/
inductive Declaration where
  | queue (name : String) (durable : Bool)
  | exchange (name type : String) (durable : Bool)
  | binding (queue exchange routingKey : String)
  | qos (prefetchCount : Int)
deriving DecidableEq, Repr

def ConsumerSubscription.declarations (subscription : ConsumerSubscription) : List Declaration :=
  let exchange : List Declaration :=
    if subscription.exchangeName = "" then []
    else [.exchange subscription.exchangeName subscription.exchangeType subscription.durable,
      .binding subscription.queueName subscription.exchangeName subscription.routingKey]
  .queue subscription.queueName subscription.durable :: exchange ++ [.qos subscription.prefetchCount]

def Configuration.declarations (config : Configuration) : List Declaration :=
  (config.consumerSubscriptions.getD []).flatMap ConsumerSubscription.declarations

/-- An unknown type of exchange is refused before anything is awaited for it. -/
def Configuration.refused (config : Configuration) : Declaration → Option Exc
  | .exchange _ type _ => config.exchangeType type
  | _ => none

/-- What a call of `_ensure_initialized_async` or of `close` awaits. -/
inductive Stage where
  | waiting
  | connecting
  | openingChannel (connection : Nat)
  | declaring (rest : List Declaration)
  | closingChannel
  | closingConnection (connection : Nat)
  | finished (ending : Ending)

def Stage.closes : Stage → Bool
  | .closingConnection _ => true
  | _ => false

/-- The client with its service. Connections are numbered as they are opened, and each is open or
not; `shut` says that a `close()` has returned and no initialisation was asked for since. -/
structure RabbitMessageClient where
  initialized : Bool := false
  lock : Asyncio.Lock := {}
  connection : Option Nat := none
  channel : Bool := false
  connections : List Bool := []
  shut : Bool := false
  calls : List Stage := []

inductive Event where
  | ensureInitialized
  | wake (call : Nat)
  | advance (call : Nat) (ending : Ending)
  | close (channelOpen : Bool)

namespace RabbitMessageClient

def IsOpen (s : RabbitMessageClient) (connection : Nat) : Prop := s.connections[connection]? = some true

instance (s : RabbitMessageClient) (connection : Nat) : Decidable (s.IsOpen connection) :=
  inferInstanceAs (Decidable (_ = _))

/-- With the lock: another call may have initialised the client in the meantime. -/
def locked (s : RabbitMessageClient) : Stage × RabbitMessageClient :=
  if s.initialized then (.finished .returned, { s with lock := s.lock.release })
  else (.connecting, s)

/-- `_ensure_initialized_async` up to what it awaits first. -/
def beginEnsure (s : RabbitMessageClient) (i : Nat) : Stage × RabbitMessageClient :=
  if s.initialized then (.finished .returned, s)
  else
    let asked := { s with lock := s.lock.acquire i }
    if asked.lock.holder = some i then asked.locked else (.waiting, asked)

/-- The next declaration, or the end of the initialisation. -/
def declareNext (config : Configuration) (s : RabbitMessageClient) :
    List Declaration → Stage × RabbitMessageClient
  | [] => (.finished .returned, { s with initialized := true, lock := s.lock.release })
  | declaration :: rest =>
    match config.refused declaration with
    | some e => (.finished (.raised e), { s with lock := s.lock.release })
    | none => (.declaring (declaration :: rest), s)

def closeReturns (s : RabbitMessageClient) : Stage × RabbitMessageClient :=
  (.finished .returned, { s with initialized := false, shut := true })

/-- `close` once it is through with the channel. -/
def closeConnection (s : RabbitMessageClient) : Stage × RabbitMessageClient :=
  match s.connection with
  | none => s.closeReturns
  | some connection => if s.IsOpen connection then (.closingConnection connection, s) else s.closeReturns

def beginClose (s : RabbitMessageClient) (channelOpen : Bool) : Stage × RabbitMessageClient :=
  if s.channel && channelOpen then (.closingChannel, s) else s.closeConnection

/-- What is awaited has ended. A failed connect leaves no connection open. Errors of the two closes
are logged only; a connection whose close did not return stays open. -/
def stageStep (config : Configuration) (s : RabbitMessageClient) (i : Nat) :
    Stage → Ending → Option (Stage × RabbitMessageClient)
  | .waiting, .returned => none
  | .waiting, ending => some (.finished ending, { s with lock := s.lock.cancel i })
  | .connecting, .returned =>
    let opened := s.connections.length
    some (.openingChannel opened, { s with connections := s.connections ++ [true], connection := some opened })
  | .openingChannel _, .returned => some (declareNext config { s with channel := true } config.declarations)
  | .declaring (_ :: rest), .returned => some (declareNext config s rest)
  | .connecting, ending | .openingChannel _, ending | .declaring (_ :: _), ending =>
    some (.finished ending, { s with lock := s.lock.release })
  | .closingChannel, .interrupted => some (.finished .interrupted, s)
  | .closingChannel, _ => some s.closeConnection
  | .closingConnection connection, .returned =>
    some { s with connections := s.connections.set connection false }.closeReturns
  | .closingConnection _, .raised _ => some s.closeReturns
  | .closingConnection _, .interrupted => some (.finished .interrupted, s)
  | .declaring [], _ | .finished _, _ => none

def push (next : Stage × RabbitMessageClient) : RabbitMessageClient :=
  { next.2 with calls := next.2.calls ++ [next.1] }

def put (i : Nat) (next : Stage × RabbitMessageClient) : RabbitMessageClient :=
  { next.2 with calls := next.2.calls.set i next.1 }

def step (config : Configuration) (s : RabbitMessageClient) : Event → Option RabbitMessageClient
  | .ensureInitialized => some (push ({ s with shut := false }.beginEnsure s.calls.length))
  | .wake i =>
    match s.calls[i]?, s.lock.wake i with
    | some .waiting, some lock => some (put i { s with lock }.locked)
    | _, _ => none
  | .advance i ending => (s.calls[i]?.bind (fun stage => s.stageStep config i stage ending)).map (put i)
  | .close channelOpen => some (push (s.beginClose channelOpen))

/-! ## What is claimed between calls -/

def Quiet (s : RabbitMessageClient) : Prop := ∀ stage ∈ s.calls, ∃ ending, stage = .finished ending

theorem quiet_of_finished {s : RabbitMessageClient} {endings : List Ending}
    (h : s.calls = endings.map .finished) : s.Quiet := by
  intro stage hstage
  rw [h] at hstage
  obtain ⟨ending, _, he⟩ := List.mem_map.mp hstage
  exact ⟨ending, he.symm⟩

structure NothingLeaked (s : RabbitMessageClient) : Prop where
  atMostOne : s.Quiet → ∀ connection other, s.IsOpen connection → s.IsOpen other → connection = other
  held : s.Quiet → ∀ connection, s.IsOpen connection → s.connection = some connection
  closed : s.Quiet → s.shut = true → ∀ connection, ¬ s.IsOpen connection

/-- A connection is opened only when the client holds none that is open, no `close()` is closing one
and none has returned since the last initialisation was asked for. Closing a connection does not
raise. -/
def InOrder (s : RabbitMessageClient) : Event → Prop
  | .advance i .returned => s.calls[i]? = some .connecting →
    s.shut = false ∧ (∀ connection, s.connection = some connection → ¬ s.IsOpen connection) ∧
      ∀ (j : Nat) connection, s.calls[j]? ≠ some (.closingConnection connection)
  | .advance i (.raised _) => ∀ connection, s.calls[i]? ≠ some (.closingConnection connection)
  | _ => True

/-- The same, as a check. -/
def inOrder (s : RabbitMessageClient) : Event → Bool
  | .advance i .returned =>
    match s.calls[i]? with
    | some .connecting =>
      !s.shut && s.connection.all (fun connection => !decide (s.IsOpen connection)) &&
        s.calls.all (fun stage => !stage.closes)
    | _ => true
  | .advance i (.raised _) =>
    match s.calls[i]? with
    | some (.closingConnection _) => false
    | _ => true
  | _ => true

theorem inOrder_iff (s : RabbitMessageClient) (e : Event) : s.inOrder e = true ↔ s.InOrder e := by
  cases e with
  | ensureInitialized => simp [inOrder, InOrder]
  | wake i => simp [inOrder, InOrder]
  | close channelOpen => simp [inOrder, InOrder]
  | advance i ending =>
    cases ending with
    | interrupted => simp [inOrder, InOrder]
    | raised e =>
      simp only [inOrder, InOrder]
      split
      · rename_i connection hstage
        simp [hstage]
      · rename_i hnot
        simpa using fun connection => hnot connection
    | returned =>
      simp only [inOrder, InOrder]
      split
      · rename_i hstage
        have hnone : s.calls.all (fun stage => !stage.closes) = true ↔
            ∀ (j : Nat) connection, s.calls[j]? ≠ some (.closingConnection connection) := by
          rw [List.all_eq_true]
          constructor
          · intro hall j connection hj
            exact nomatch hall _ (List.mem_of_getElem? hj)
          · intro hnot stage hm
            obtain ⟨j, hj⟩ := List.mem_iff_getElem?.mp hm
            cases stage with
            | closingConnection connection => exact absurd hj (hnot j connection)
            | _ => rfl
        simp [hstage, hnone, Option.all_eq_true, and_assoc]
      · rename_i hnot
        simpa using fun hstage => absurd hstage hnot

instance (s : RabbitMessageClient) (e : Event) : Decidable (s.InOrder e) :=
  decidable_of_iff _ (s.inOrder_iff e)

/-! ## What a step does to the connections -/

/-- The connections are as before, and so is what the calls await. -/
structure Same (s s' : RabbitMessageClient) : Prop where
  connection : s'.connection = s.connection
  connections : s'.connections = s.connections
  calls : s'.calls = s.calls
  shut : s'.shut = true → s.shut = true

/-- What a call may do, and where it goes on: it turns to the connection the client holds in order to
close it, finds none to close, comes back from a close of its connection or opens another one. -/
inductive Next (s : RabbitMessageClient) : Event → Stage × RabbitMessageClient → Prop where
  | aside {e stage s'} : Same s s' → (∀ connection, stage ≠ .closingConnection connection) → Next s e (stage, s')
  | closing {e connection} : s.connection = some connection → Next s e (.closingConnection connection, s)
  | nothingToClose {e} : (∀ connection, s.connection = some connection → ¬ s.IsOpen connection) →
    Next s e s.closeReturns
  | closed {i connection} : s.calls[i]? = some (.closingConnection connection) →
    Next s (.advance i .returned) { s with connections := s.connections.set connection false }.closeReturns
  | notClosed {i e connection} : s.calls[i]? = some (.closingConnection connection) →
    Next s (.advance i (.raised e)) s.closeReturns
  | connected {i} : s.calls[i]? = some .connecting →
    Next s (.advance i .returned) (.openingChannel s.connections.length,
      { s with connections := s.connections ++ [true], connection := some s.connections.length })

section Steps
variable {config : Configuration} {s s' moved : RabbitMessageClient} {e : Event}
  {next : Stage × RabbitMessageClient} {i connection : Nat} {stage : Stage} {ending : Ending}

theorem locked_next (h : Same s moved) : Next s e moved.locked := by
  unfold locked
  split
  · exact .aside ⟨h.connection, h.connections, h.calls, h.shut⟩ (fun _ => nofun)
  · exact .aside h (fun _ => nofun)

theorem beginEnsure_next : Next s e ({ s with shut := false }.beginEnsure i) := by
  have hsame : Same s { s with shut := false } := ⟨rfl, rfl, rfl, fun hshut => nomatch hshut⟩
  unfold beginEnsure
  split
  · exact .aside hsame (fun _ => nofun)
  · simp only
    split
    · exact locked_next ⟨rfl, rfl, rfl, hsame.shut⟩
    · exact .aside ⟨rfl, rfl, rfl, hsame.shut⟩ (fun _ => nofun)

theorem declareNext_next (h : Same s moved) (rest : List Declaration) :
    Next s e (declareNext config moved rest) := by
  unfold declareNext
  split
  · exact .aside ⟨h.connection, h.connections, h.calls, h.shut⟩ (fun _ => nofun)
  · split
    · exact .aside ⟨h.connection, h.connections, h.calls, h.shut⟩ (fun _ => nofun)
    · exact .aside h (fun _ => nofun)

theorem closeConnection_next : Next s e s.closeConnection := by
  unfold closeConnection
  split
  · rename_i hnone
    exact .nothingToClose (fun connection hheld => nomatch hnone.symm.trans hheld)
  · rename_i held hheld
    split
    · exact .closing hheld
    · rename_i hclosed
      apply Next.nothingToClose
      intro connection hconnection
      cases hheld.symm.trans hconnection
      exact hclosed

theorem beginClose_next (channelOpen : Bool) : Next s e (s.beginClose channelOpen) := by
  unfold beginClose
  split
  · exact .aside ⟨rfl, rfl, rfl, id⟩ (fun _ => nofun)
  · exact closeConnection_next

theorem stageStep_next (hstage : s.calls[i]? = some stage) (he : s.stageStep config i stage ending = some next) :
    Next s (.advance i ending) next := by
  have hsame : Same s s := ⟨rfl, rfl, rfl, id⟩
  cases stage with
  | waiting =>
    cases ending <;> cases he
    all_goals exact .aside ⟨rfl, rfl, rfl, id⟩ (fun _ => nofun)
  | connecting =>
    cases ending <;> cases he
    · exact .connected hstage
    all_goals exact .aside ⟨rfl, rfl, rfl, id⟩ (fun _ => nofun)
  | openingChannel opened =>
    cases ending <;> cases he
    · have hopened : Same s { s with channel := true } := ⟨rfl, rfl, rfl, id⟩
      exact declareNext_next hopened _
    all_goals exact .aside ⟨rfl, rfl, rfl, id⟩ (fun _ => nofun)
  | declaring rest =>
    cases rest with
    | nil => cases ending <;> cases he
    | cons declaration rest =>
      cases ending <;> cases he
      · exact declareNext_next hsame rest
      all_goals exact .aside ⟨rfl, rfl, rfl, id⟩ (fun _ => nofun)
  | closingChannel =>
    cases ending <;> cases he
    · exact closeConnection_next
    · exact closeConnection_next
    · exact .aside hsame (fun _ => nofun)
  | closingConnection closing =>
    cases ending <;> cases he
    · exact .closed hstage
    · exact .notClosed hstage
    · exact .aside hsame (fun _ => nofun)
  | finished ended => cases ending <;> cases he

/-- The call of each step goes on, or a new call begins. -/
theorem step_cases (he : s.step config e = some s') :
    ∃ next, Next s e next ∧ ((∃ i, s' = put i next) ∨ s' = push next) := by
  cases e with
  | ensureInitialized =>
    cases he
    exact ⟨_, beginEnsure_next, .inr rfl⟩
  | wake i =>
    simp only [step] at he
    split at he
    · rename_i lock _ _
      cases he
      have hwoken : Same s { s with lock } := ⟨rfl, rfl, rfl, id⟩
      exact ⟨_, locked_next hwoken, .inl ⟨i, rfl⟩⟩
    · cases he
  | advance i ending =>
    obtain ⟨next, hnext, rfl⟩ := Option.map_eq_some_iff.mp he
    obtain ⟨stage, hstage, hnext⟩ := Option.bind_eq_some_iff.mp hnext
    exact ⟨next, stageStep_next hstage hnext, .inl ⟨i, rfl⟩⟩
  | close channelOpen =>
    cases he
    exact ⟨_, beginClose_next channelOpen, .inr rfl⟩

/-- After a step a call closes a connection only if it did before, or its own next is to. -/
theorem closing_of_step {j : Nat} (he : (∃ i, s' = put i next) ∨ s' = push next)
    (hstage : s'.calls[j]? = some (.closingConnection connection)) :
    next.1 = .closingConnection connection ∨ next.2.calls[j]? = some (.closingConnection connection) := by
  rcases he with ⟨i, rfl⟩ | rfl
  · rcases Machine.slot_of_set hstage with ⟨_, hnew⟩ | ⟨_, hold⟩
    · exact .inl hnew.symm
    · exact .inr hold
  · rcases Machine.slot_of_append hstage with ⟨_, hnew⟩ | ⟨_, hold⟩
    · exact .inl hnew.symm
    · exact .inr hold

theorem step_fields (he : (∃ i, s' = put i next) ∨ s' = push next) :
    s'.connection = next.2.connection ∧ s'.connections = next.2.connections ∧ s'.shut = next.2.shut := by
  rcases he with ⟨i, rfl⟩ | rfl
  · exact ⟨rfl, rfl, rfl⟩
  · exact ⟨rfl, rfl, rfl⟩

theorem isOpen_congr (h : s'.connections = s.connections) : s'.IsOpen connection ↔ s.IsOpen connection := by
  unfold IsOpen
  rw [h]

/-! ## Calls that come in order -/

structure Kept (s : RabbitMessageClient) : Prop where
  held : ∀ connection, s.IsOpen connection → s.connection = some connection
  closing : ∀ (j : Nat) connection, s.calls[j]? = some (.closingConnection connection) →
    s.connection = some connection
  shut : s.shut = true → ∀ connection, ¬ s.IsOpen connection

theorem initial_kept : Kept {} where
  held connection hopen := by cases hopen
  closing j connection hstage := by cases hstage
  shut hshut := by cases hshut

/-- Where a close returns, nothing is open. -/
theorem Kept.closeReturns (h : Kept s) (hnone : ∀ connection, ¬ s.IsOpen connection) :
    Kept s.closeReturns.2 := ⟨h.held, h.closing, fun _ => hnone⟩

theorem Kept.goesOn (h : Kept s) (horder : s.InOrder e) (hnext : Next s e next) :
    Kept next.2 ∧ ∀ connection, next.1 = .closingConnection connection → next.2.connection = some connection := by
  cases hnext with
  | aside hsame hstage =>
    refine ⟨⟨?_, ?_, ?_⟩, fun connection he => absurd he (hstage connection)⟩
    · intro connection hopen
      exact hsame.connection.trans (h.held connection ((isOpen_congr hsame.connections).mp hopen))
    · intro j connection hj
      exact hsame.connection.trans (h.closing j connection (hsame.calls ▸ hj))
    · intro hshut connection hopen
      exact h.shut (hsame.shut hshut) connection ((isOpen_congr hsame.connections).mp hopen)
  | closing hheld =>
    refine ⟨h, ?_⟩
    intro connection he
    cases he
    exact hheld
  | nothingToClose hclosed =>
    refine ⟨h.closeReturns ?_, fun _ he => nomatch he⟩
    exact fun connection hopen => hclosed connection (h.held connection hopen) hopen
  | closed hstage =>
    rename_i i closing
    -- The connection that is closed is the one held, and no other is open.
    have hnone : ∀ other, ¬ { s with connections := s.connections.set closing false }.IsOpen other := by
      intro other hopen
      rcases Machine.slot_of_set hopen with ⟨_, hfalse⟩ | ⟨hne, hold⟩
      · cases hfalse
      · exact hne (Option.some.inj ((h.held other hold).symm.trans (h.closing i closing hstage)))
    have hkept : Kept { s with connections := s.connections.set closing false } :=
      ⟨fun other hopen => absurd hopen (hnone other), h.closing, fun _ => hnone⟩
    exact ⟨hkept.closeReturns hnone, fun _ he => nomatch he⟩
  | notClosed hstage => exact absurd hstage (horder _)
  | connected hstage =>
    obtain ⟨hshut, hclosed, hclosing⟩ := horder hstage
    refine ⟨⟨?_, ?_, ?_⟩, fun _ he => nomatch he⟩
    · intro connection hopen
      rcases Machine.slot_of_append hopen with ⟨rfl, _⟩ | ⟨_, hold⟩
      · rfl
      · exact absurd hold (hclosed connection (h.held connection hold))
    · intro j connection hj
      exact absurd hj (hclosing j connection)
    · intro hs
      exact nomatch hshut.symm.trans hs

theorem step_kept (h : Kept s) (horder : s.InOrder e) (he : s.step config e = some s') : Kept s' := by
  obtain ⟨next, hnext, hwhere⟩ := step_cases he
  obtain ⟨hkept, hclosing⟩ := h.goesOn horder hnext
  obtain ⟨hconnection, hconnections, hshut⟩ := step_fields hwhere
  refine ⟨?_, ?_, ?_⟩
  · intro connection hopen
    exact hconnection.trans (hkept.held connection ((isOpen_congr hconnections).mp hopen))
  · intro j connection hj
    rcases closing_of_step hwhere hj with hnew | hold
    · exact hconnection.trans (hclosing connection hnew)
    · exact hconnection.trans (hkept.closing j connection hold)
  · intro hs connection hopen
    exact hkept.shut (hshut ▸ hs) connection ((isOpen_congr hconnections).mp hopen)

theorem Kept.nothingLeaked (h : Kept s) : s.NothingLeaked where
  atMostOne _ connection other hopen hother :=
    Option.some.inj ((h.held connection hopen).symm.trans (h.held other hother))
  held _ := h.held
  closed _ := h.shut

/-- While the calls come in order, failed starts leak nothing. -/
theorem nothing_leaked_in_order {events : List Event}
    (h : Machine.Run (step config) InOrder {} events s) : s.NothingLeaked :=
  (h.invariant initial_kept (fun hkept horder hstep => step_kept hkept horder hstep)).nothingLeaked

/-! ## A connection that was overwritten -/

/-- The connection is open, and neither the client nor a call knows of it any more. -/
structure Lost (connection : Nat) (s : RabbitMessageClient) : Prop where
  isOpen : s.IsOpen connection
  held : s.connection ≠ some connection
  closing : ∀ (j : Nat), s.calls[j]? ≠ some (.closingConnection connection)

theorem Lost.goesOn (h : Lost connection s) (hnext : Next s e next) :
    Lost connection next.2 ∧ next.1 ≠ .closingConnection connection := by
  cases hnext with
  | aside hsame hstage =>
    refine ⟨⟨(isOpen_congr hsame.connections).mpr h.isOpen, ?_, ?_⟩, hstage connection⟩
    · rw [hsame.connection]
      exact h.held
    · rw [hsame.calls]
      exact h.closing
  | closing hheld =>
    refine ⟨h, ?_⟩
    rintro ⟨⟩
    exact h.held hheld
  | nothingToClose hclosed => exact ⟨⟨h.isOpen, h.held, h.closing⟩, nofun⟩
  | closed hstage =>
    rename_i i closing
    have hne : closing ≠ connection := by
      rintro rfl
      exact h.closing i hstage
    refine ⟨⟨?_, h.held, h.closing⟩, nofun⟩
    exact (List.getElem?_set_ne hne).trans h.isOpen
  | notClosed hstage => exact ⟨⟨h.isOpen, h.held, h.closing⟩, nofun⟩
  | connected hstage =>
    obtain ⟨hlt, _⟩ := List.getElem?_eq_some_iff.mp h.isOpen
    refine ⟨⟨Machine.slot_append_left h.isOpen, ?_, h.closing⟩, nofun⟩
    rintro he
    exact Nat.ne_of_gt hlt (Option.some.inj he)

theorem step_lost (h : Lost connection s) (he : s.step config e = some s') : Lost connection s' := by
  obtain ⟨next, hnext, hwhere⟩ := step_cases he
  obtain ⟨hlost, hstage⟩ := h.goesOn hnext
  obtain ⟨hconnection, hconnections, _⟩ := step_fields hwhere
  refine ⟨(isOpen_congr hconnections).mpr hlost.isOpen, ?_, ?_⟩
  · rw [hconnection]
    exact hlost.held
  · intro j hj
    rcases closing_of_step hwhere hj with hnew | hold
    · exact hstage hnew
    · exact hlost.closing j hold

theorem Lost.leaks (h : Lost connection s) (hquiet : s.Quiet) : ¬ s.NothingLeaked :=
  fun hclean => h.held (hclean.held hquiet connection h.isOpen)

/-- A start that connects while the connection of a failed start is open, and nobody is closing it,
overwrites it: whatever is called later, it stays open and the client does not hold it. -/
theorem overwritten_connection_stays {events : List Event} (hopen : s.IsOpen connection)
    (hclosing : ∀ (j : Nat), s.calls[j]? ≠ some (.closingConnection connection))
    (hstage : s.calls[i]? = some .connecting) (he : s.step config (.advance i .returned) = some s')
    (h : Machine.Run (step config) (fun _ _ => True) s' events moved) :
    Lost connection moved ∧ (moved.Quiet → ¬ moved.NothingLeaked) := by
  have hlost : Lost connection s' := by
    obtain ⟨hlt, _⟩ := List.getElem?_eq_some_iff.mp hopen
    simp only [step, hstage, Option.bind_some, stageStep, Option.map_some] at he
    cases he
    refine ⟨Machine.slot_append_left hopen, ?_, ?_⟩
    · rintro hheld
      exact Nat.ne_of_gt hlt (Option.some.inj hheld)
    · intro j hj
      rcases Machine.slot_of_set hj with ⟨_, hnew⟩ | ⟨_, hold⟩
      · cases hnew
      · exact hclosing j hold
  have hlater : Lost connection moved := h.invariant hlost (fun hkept _ hstep => step_lost hkept hstep)
  exact ⟨hlater, hlater.leaks⟩

end Steps

/-- One queue, and every type of exchange is known. -/
def oneQueue : Configuration := ⟨some [{ queueName := "orders" }], fun _ => none⟩

/-- A start that fails when the queue is declared, a close, and a start that goes through. -/
def closedBeforeRetry : List Event :=
  [.ensureInitialized, .advance 0 .returned, .advance 0 .returned, .advance 0 (.raised (.other "ChannelClosed")),
    .close false, .advance 1 .returned,
    .ensureInitialized, .advance 2 .returned, .advance 2 .returned, .advance 2 .returned, .advance 2 .returned]

theorem nothing_leaked_closed_before_retry :
    ∃ s, Machine.Run (step oneQueue) InOrder {} closedBeforeRetry s ∧ s.connections = [false, true] ∧
      s.Quiet ∧ s.NothingLeaked := by
  have hrun : ∃ s, Machine.Run (step oneQueue) InOrder {} closedBeforeRetry s ∧ s.connections = [false, true] ∧
      s.calls = [.raised (.other "ChannelClosed"), .returned, .returned].map .finished :=
    ⟨_, Machine.Run.of_checked rfl, rfl, rfl⟩
  obtain ⟨s, hrun, hconnections, hcalls⟩ := hrun
  exact ⟨s, hrun, hconnections, quiet_of_finished hcalls, nothing_leaked_in_order hrun⟩

/-- The same start again without a close in between. After a close in the end, the first connection
is still open. -/
theorem failed_start_leaks :
    ∃ events s, Machine.Run (step oneQueue) (fun _ _ => True) {} events s ∧ s.Quiet ∧ s.shut = true ∧
      s.connections = [true, false] ∧ ¬ s.NothingLeaked := by
  have hrun : ∃ events s, Machine.Run (step oneQueue) (fun _ _ => True) {} events s ∧
      s.calls = [.raised (.other "ChannelClosed"), .returned, .returned].map .finished ∧ s.shut = true ∧
      s.connections = [true, false] := by
    exact ⟨[.ensureInitialized, .advance 0 .returned, .advance 0 .returned,
        .advance 0 (.raised (.other "ChannelClosed")), .ensureInitialized, .advance 1 .returned,
        .advance 1 .returned, .advance 1 .returned, .advance 1 .returned, .close false, .advance 2 .returned], _,
      Machine.Run.of_exec (fun _ _ _ => trivial) rfl, rfl, rfl, rfl⟩
  obtain ⟨events, s, hrun, hcalls, hshut, hconnections⟩ := hrun
  have hquiet : s.Quiet := quiet_of_finished hcalls
  refine ⟨events, s, hrun, hquiet, hshut, hconnections, ?_⟩
  intro hclean
  apply hclean.closed hquiet hshut 0
  rw [IsOpen, hconnections]
  rfl

end RabbitMessageClient

end BlocksGenesis.Message.RabbitMq
