import BlocksGenesis.Machine.Run
import BlocksGenesis.Machine.Slots
import BlocksGenesis.Python.Dict

/-! The replicas of a admin that set up its queues, topics and subscriptions when they start. -/

namespace BlocksGenesis.Message.ServiceBusConfig
open Python Machine

/-- Times are in seconds. -/
structure AzureServiceBusConfiguration where
  queues : List String := []
  topics : List String := []
  queueMaxSizeInMegabytes : Int := 1024
  queueMaxDeliveryCount : Int := 2
  queueDefaultMessageTimeToLive : Int := 604800
  topicMaxSizeInMegabytes : Int := 1024
  topicDefaultMessageTimeToLive : Int := 604800
  topicSubscriptionMaxDeliveryCount : Int := 2
  topicSubscriptionDefaultMessageTimeToLive : Int := 604800

structure MessageConfiguration where
  connection : Option String
  serviceName : Option String
  azureServiceBusConfiguration : Option AzureServiceBusConfiguration

def MessageConfiguration.getSubscriptionName (c : MessageConfiguration) (topicName : String) : String :=
  topicName ++ "_sub_" ++ c.serviceName.getD "None"

/-- The configuration of a replica that went past its first access to it. -/
def MessageConfiguration.azure (c : MessageConfiguration) : AzureServiceBusConfiguration :=
  c.azureServiceBusConfiguration.getD {}

/-! ## The admin admin -/

/-- Queues and topics share their names. -/
inductive Path where
  | entity (name : String)
  | subscription (topic name : String)
deriving DecidableEq, Repr

inductive Properties where
  | queue (maxSizeInMegabytes maxDeliveryCount defaultMessageTimeToLive lockDuration : Int)
  | topic (maxSizeInMegabytes defaultMessageTimeToLive : Int)
  | subscription (maxDeliveryCount defaultMessageTimeToLive lockDuration : Int)
deriving DecidableEq, Repr

inductive Kind where
  | queue
  | topic
  | subscription
deriving DecidableEq, Repr

def Properties.kind : Properties → Kind
  | .queue _ _ _ _ => .queue
  | .topic _ _ => .topic
  | .subscription _ _ _ => .subscription

/-- The admin admin of the bus. What a namespace `holds` is seen by whether a get for a kind `finds` a path, and by
what becomes of a `create`, which is refused for a path that is taken or for whatever other reason. The admin compares
names by their `sameName`, and the library reads a connection string or raises. -/
structure Admin where
  Namespace : Type
  sameName : String → String
  parses : Option String → Bool
  holds : Namespace → Path → Option Properties
  finds : Namespace → Kind → Path → Bool
  create : Namespace → Path → Properties → Option Namespace
  fits : Path → Properties → Bool

namespace Admin

/-- Whether what a path belongs to is there. -/
def hasParent (admin : Admin) (ns : admin.Namespace) : Path → Bool
  | .entity _ => true
  | .subscription topic _ => admin.finds ns .topic (.entity topic)

/-- What the admin is relied on for: a create gives a free path these properties and changes no other one. -/
structure Lawful (admin : Admin) : Prop where
  finds_iff : ∀ ns kind p, admin.finds ns kind p = true ↔ ∃ there, admin.holds ns p = some there ∧ there.kind = kind
  taken : ∀ ns p there wanted, admin.holds ns p = some there → admin.create ns p wanted = none
  created : ∀ ns p wanted ns', admin.create ns p wanted = some ns' → admin.holds ns' p = some wanted
  kept : ∀ ns p wanted ns', admin.create ns p wanted = some ns' → ∀ other, other ≠ p →
    admin.holds ns' other = admin.holds ns other

/-- No namespace is full, and no right is missing: a free path is refused for its name or its properties only. -/
def Roomy (admin : Admin) : Prop :=
  ∀ ns p wanted, admin.holds ns p = none → admin.hasParent ns p = true →
    (admin.create ns p wanted).isSome = admin.fits p wanted

end Admin

/-- What a replica wants to be there. -/
inductive Item where
  | queue (name : String)
  | topic (name : String)
  | subscription (topicName : String)
deriving DecidableEq, Repr

def Item.kind : Item → Kind
  | .queue _ => .queue
  | .topic _ => .topic
  | .subscription _ => .subscription

def Properties.isOf (there : Properties) (item : Item) : Bool := there.kind = item.kind

/-! ## The replicas -/

def path (admin : Admin) (config : MessageConfiguration) : Item → Path
  | .queue name | .topic name => .entity (admin.sameName name)
  | .subscription topicName =>
    .subscription (admin.sameName topicName) (admin.sameName (config.getSubscriptionName topicName))

/-- What an item is created with. -/
def properties (config : MessageConfiguration) : Item → Properties
  | .queue _ => .queue config.azure.queueMaxSizeInMegabytes config.azure.queueMaxDeliveryCount
      config.azure.queueDefaultMessageTimeToLive 300
  | .topic _ => .topic config.azure.topicMaxSizeInMegabytes config.azure.topicDefaultMessageTimeToLive
  | .subscription _ => .subscription config.azure.topicSubscriptionMaxDeliveryCount
      config.azure.topicSubscriptionDefaultMessageTimeToLive 300

/-- In the order of `_create_queues` and `_create_topics_and_subscriptions`. -/
def plan (config : MessageConfiguration) : List Item :=
  config.azure.queues.map .queue ++ config.azure.topics.flatMap (fun name => [.topic name, .subscription name])

/-- `_check_queue_exists`, `_check_topic_exists` and `_check_subscription_exists`, where the call is answered. -/
def found (admin : Admin) (ns : admin.Namespace) (config : MessageConfiguration) (item : Item) : Bool :=
  admin.finds ns item.kind (path admin config item)

/-- `create_queue`, `create_topic` and `create_subscription`. -/
def create (admin : Admin) (ns : admin.Namespace) (config : MessageConfiguration) (item : Item) :
    Option admin.Namespace :=
  admin.create ns (path admin config item) (properties config item)

inductive Phase where
  | checking (item : Item) (rest : List Item)
  | creating (item : Item) (rest : List Item)
  | returned
  | raised
deriving DecidableEq, Repr

def Phase.next : List Item → Phase
  | [] => .returned
  | item :: rest => .checking item rest

structure Replica where
  config : MessageConfiguration
  phase : Phase

structure Created where
  replica : Nat
  path : Path
  properties : Properties

/-- `created` is what happened so far: no replica has it. -/
structure State (admin : Admin) where
  entities : admin.Namespace
  replicas : List Replica := []
  created : List Created := []

/-- A call raises before the bus has it, or after. -/
inductive Answer where
  | answered
  | refused
  | lost
deriving DecidableEq, Repr

inductive Event where
  | start (config : MessageConfiguration)
  | call (replica : Nat) (answer : Answer)

def firstPhase (admin : Admin) (config : MessageConfiguration) : Phase :=
  if admin.parses config.connection && config.azureServiceBusConfiguration.isSome then .next (plan config)
  else .raised

def State.setPhase {admin : Admin} (s : State admin) (i : Nat) (replica : Replica) (phase : Phase) : State admin :=
  { s with replicas := s.replicas.set i { replica with phase } }

/-- A check that raises is a check that found nothing. -/
def call (admin : Admin) (s : State admin) (i : Nat) (replica : Replica) (answer : Answer) : Option (State admin) :=
  match replica.phase with
  | .checking item rest =>
    some (s.setPhase i replica
      (if answer = .answered && found admin s.entities replica.config item then .next rest else .creating item rest))
  | .creating item rest =>
    match if answer = .refused then none else create admin s.entities replica.config item with
    | none => some (s.setPhase i replica .raised)
    | some entities => some { s.setPhase i replica (if answer = .answered then .next rest else .raised) with
        entities
        created := s.created ++ [⟨i, path admin replica.config item, properties replica.config item⟩] }
  | .returned | .raised => none

def step (admin : Admin) (s : State admin) : Event → Option (State admin)
  | .start config => some { s with replicas := s.replicas ++ [⟨config, firstPhase admin config⟩] }
  | .call i answer => (s.replicas[i]?).bind (fun replica => call admin s i replica answer)

/-! ## What a step does -/

/-- How a replica goes on without a change to the bus. -/
def Goes (admin : Admin) (ns : admin.Namespace) (replica : Replica) (phase : Phase) : Prop :=
  phase = .raised ∨ ∃ item rest, replica.phase = .checking item rest ∧
    (phase = .creating item rest ∨ phase = .next rest ∧ found admin ns replica.config item = true)

/-- The forms of a step. -/
inductive Stepped (admin : Admin) (s : State admin) : State admin → Prop where
  | started {config : MessageConfiguration} {phase : Phase} : phase = .raised ∨ phase = .next (plan config) →
      Stepped admin s { s with replicas := s.replicas ++ [⟨config, phase⟩] }
  | moved {i : Nat} {replica : Replica} {phase : Phase} : s.replicas[i]? = some replica →
      Goes admin s.entities replica phase → Stepped admin s (s.setPhase i replica phase)
  | made {i : Nat} {replica : Replica} {item : Item} {rest : List Item} {entities : admin.Namespace}
      {phase : Phase} :
      s.replicas[i]? = some replica → replica.phase = .creating item rest →
      create admin s.entities replica.config item = some entities → phase = .raised ∨ phase = .next rest →
      Stepped admin s { s.setPhase i replica phase with
        entities
        created := s.created ++ [⟨i, path admin replica.config item, properties replica.config item⟩] }

section Steps
variable {admin : Admin} {s s' : State admin} {e : Event} {ns ns' : admin.Namespace} {config : MessageConfiguration}
  {item other : Item} {p : Path} {there : Properties} {i : Nat} {replica : Replica}

theorem step_cases (h : step admin s e = some s') : Stepped admin s s' := by
  cases e with
  | start config =>
    cases h
    refine .started ?_
    unfold firstPhase
    split
    · exact .inr rfl
    · exact .inl rfl
  | call i answer =>
    obtain ⟨replica, hget, hcall⟩ := Option.bind_eq_some_iff.mp h
    unfold call at hcall
    split at hcall
    · rename_i item rest hphase
      cases hcall
      refine .moved hget (.inr ⟨item, rest, hphase, ?_⟩)
      split
      · rename_i hfound
        exact .inr ⟨rfl, (Bool.and_eq_true_iff.mp hfound).2⟩
      · exact .inl rfl
    · rename_i item rest hphase
      split at hcall
      · cases hcall
        exact .moved hget (.inl rfl)
      · rename_i entities hmade
        cases hcall
        refine .made hget hphase (Option.ite_none_left_eq_some.mp hmade).2 ?_
        split
        · exact .inr rfl
        · exact .inl rfl
    · cases hcall
    · cases hcall

theorem properties_isOf (config : MessageConfiguration) (item : Item) : (properties config item).isOf item = true := by
  cases item with
  | queue name => rfl
  | topic name => rfl
  | subscription topicName => rfl

/-- The configuration has the same properties for all items of a kind. -/
theorem properties_eq (config : MessageConfiguration) (h : (properties config item).isOf other = true) :
    properties config item = properties config other := by
  cases item with
  | queue name =>
    cases other with
    | queue _ => rfl
    | topic _ => cases h
    | subscription _ => cases h
  | topic name =>
    cases other with
    | queue _ => cases h
    | topic _ => rfl
    | subscription _ => cases h
  | subscription topicName =>
    cases other with
    | queue _ => cases h
    | topic _ => cases h
    | subscription _ => rfl

theorem found_iff (hadmin : admin.Lawful) : found admin ns config item = true ↔
    ∃ there, admin.holds ns (path admin config item) = some there ∧ there.isOf item = true := by
  unfold found
  rw [hadmin.finds_iff]
  simp [Properties.isOf]

theorem create_free (hadmin : admin.Lawful) (h : create admin ns config item = some ns') :
    admin.holds ns (path admin config item) = none := by
  cases hheld : admin.holds ns (path admin config item) with
  | none => rfl
  | some there =>
    have hrefused := hadmin.taken ns _ there (properties config item) hheld
    rw [create, hrefused] at h
    cases h

/-- What a create leaves. -/
theorem create_holds (hadmin : admin.Lawful) (h : create admin ns config item = some ns') (p : Path) :
    admin.holds ns' p = (admin.holds ns p).or
      (if path admin config item = p then some (properties config item) else none) := by
  by_cases hp : path admin config item = p
  · rw [← hp, hadmin.created ns _ _ ns' h, create_free hadmin h, if_pos rfl, Option.none_or]
  · rw [hadmin.kept ns _ _ ns' h p (Ne.symm hp), if_neg hp, Option.or_none]

/-- What is there stays what it is. -/
theorem create_kept (hadmin : admin.Lawful) (h : create admin ns config item = some ns')
    (hheld : admin.holds ns p = some there) : admin.holds ns' p = some there := by
  rw [create_holds hadmin h, hheld]
  rfl

theorem found_created (hadmin : admin.Lawful) (h : create admin ns config item = some ns') :
    found admin ns' config item = true :=
  (found_iff hadmin).mpr ⟨properties config item, hadmin.created ns _ _ ns' h, properties_isOf config item⟩

end Steps

/-! ## Every run -/

/-- What a replica still has to see to. -/
def Phase.remaining : Phase → List Item
  | .checking item rest | .creating item rest => item :: rest
  | .returned | .raised => []

theorem next_remaining (items : List Item) : (Phase.next items).remaining = items := by
  cases items with
  | nil => rfl
  | cons item rest => rfl

/-- A replica that has not raised has seen to all items but the remaining ones. -/
structure Progress (admin : Admin) (ns : admin.Namespace) (replica : Replica) : Prop where
  planned : ∀ item ∈ replica.phase.remaining, item ∈ plan replica.config
  seen : replica.phase ≠ .raised → ∀ item ∈ plan replica.config,
    item ∈ replica.phase.remaining ∨ found admin ns replica.config item = true

structure Configured (admin : Admin) (initial : admin.Namespace) (s : State admin) : Prop where
  kept : ∀ p there, admin.holds initial p = some there → admin.holds s.entities p = some there
  grown : ∀ p there, admin.holds s.entities p = some there → admin.holds initial p = some there ∨
    ∃ made ∈ s.created, made.path = p ∧ made.properties = there
  made : ∀ made ∈ s.created, admin.holds initial made.path = none ∧
    admin.holds s.entities made.path = some made.properties
  once : (s.created.map Created.path).Nodup
  planned : ∀ made ∈ s.created, ∃ replica, s.replicas[made.replica]? = some replica ∧
    ∃ item ∈ plan replica.config, made.path = path admin replica.config item ∧
      made.properties = properties replica.config item
  progress : ∀ replica ∈ s.replicas, Progress admin s.entities replica

section Runs
variable {admin : Admin} {s s' : State admin} {e : Event} {ns ns' initial : admin.Namespace}
  {config : MessageConfiguration} {item : Item} {i : Nat} {replica : Replica} {events : List Event} {phase : Phase} {rest : List Item}

theorem Progress.grow (hadmin : admin.Lawful) (h : Progress admin ns replica)
    (hkept : ∀ p there, admin.holds ns p = some there → admin.holds ns' p = some there) :
    Progress admin ns' replica := by
  refine ⟨h.planned, fun hraised item hitem => (h.seen hraised item hitem).imp_right (fun hfound => ?_)⟩
  obtain ⟨there, hheld, hkind⟩ := (found_iff hadmin).mp hfound
  exact (found_iff hadmin).mpr ⟨there, hkept _ _ hheld, hkind⟩

theorem raised_progress (ns : admin.Namespace) (config : MessageConfiguration) : Progress admin ns ⟨config, .raised⟩ :=
  ⟨fun _ hm => absurd hm List.not_mem_nil, fun hraised => absurd rfl hraised⟩

theorem started_progress (ns : admin.Namespace) (config : MessageConfiguration) :
    Progress admin ns ⟨config, .next (plan config)⟩ := by
  constructor
  · intro item hitem
    rwa [next_remaining] at hitem
  · intro _ item hitem
    left
    rwa [next_remaining]

/-- The first of the remaining items is there. -/
theorem Progress.next (h : Progress admin ns replica) (hphase : replica.phase.remaining = item :: rest)
    (hraised : replica.phase ≠ .raised) (hfound : found admin ns replica.config item = true) :
    Progress admin ns { replica with phase := .next rest } := by
  obtain ⟨hplanned, hseen⟩ := h
  rw [hphase] at hplanned hseen
  constructor
  · intro other hother
    rw [next_remaining] at hother
    exact hplanned other (List.mem_cons_of_mem _ hother)
  · intro _ other hother
    rw [next_remaining]
    rcases hseen hraised other hother with hm | hthere
    · rcases List.mem_cons.mp hm with rfl | hm
      · exact .inr hfound
      · exact .inl hm
    · exact .inr hthere

theorem Goes.progress (h : Progress admin ns replica) (hgoes : Goes admin ns replica phase) :
    Progress admin ns { replica with phase } := by
  rcases hgoes with rfl | ⟨item, rest, hphase, rfl | ⟨rfl, hfound⟩⟩
  · exact raised_progress ns replica.config
  · refine ⟨fun other hother => h.planned other ?_, fun _ other hother => ?_⟩
    · rw [hphase]
      exact hother
    · have hseen := h.seen (by rw [hphase]; exact Phase.noConfusion) other hother
      rw [hphase] at hseen
      exact hseen
  · exact h.next (by rw [hphase]; rfl) (by rw [hphase]; exact Phase.noConfusion) hfound

/-- The replicas keep their configurations. -/
theorem planned_kept {made : Created} {next : Replica} (hget : s.replicas[i]? = some replica)
    (hconfig : next.config = replica.config)
    (h : ∃ replica, s.replicas[made.replica]? = some replica ∧ ∃ item ∈ plan replica.config,
      made.path = path admin replica.config item ∧ made.properties = properties replica.config item) :
    ∃ replica, (s.replicas.set i next)[made.replica]? = some replica ∧ ∃ item ∈ plan replica.config,
      made.path = path admin replica.config item ∧ made.properties = properties replica.config item := by
  obtain ⟨found, hfound, hmade⟩ := h
  by_cases hi : i = made.replica
  · subst hi
    cases hget.symm.trans hfound
    refine ⟨next, slot_set_self hget, ?_⟩
    rw [hconfig]
    exact hmade
  · exact ⟨found, (List.getElem?_set_ne hi).trans hfound, hmade⟩

theorem step_configured (hadmin : admin.Lawful) (hs : Configured admin initial s) (h : step admin s e = some s') :
    Configured admin initial s' := by
  obtain ⟨hkept, hgrown, hmades, honce, hplanned, hprogress⟩ := hs
  cases step_cases h with
  | @started config phase hphase =>
    refine ⟨hkept, hgrown, hmades, honce, fun made hmade => ?_, fun replica hm => ?_⟩
    · obtain ⟨replica, hget, hrest⟩ := hplanned made hmade
      exact ⟨replica, slot_append_left hget, hrest⟩
    · rcases List.mem_append.mp hm with hold | hnew
      · exact hprogress replica hold
      · rw [List.mem_singleton.mp hnew]
        rcases hphase with rfl | rfl
        · exact raised_progress _ config
        · exact started_progress _ config
  | @moved i replica phase hget hgoes =>
    refine ⟨hkept, hgrown, hmades, honce, fun made hmade => planned_kept hget rfl (hplanned made hmade),
      fun other hm => ?_⟩
    rcases List.mem_or_eq_of_mem_set hm with hold | rfl
    · exact hprogress other hold
    · exact hgoes.progress (hprogress replica (List.mem_of_getElem? hget))
  | @made i replica item rest entities phase hget hphase hcreate hnext =>
    have hbefore := hprogress replica (List.mem_of_getElem? hget)
    have hraised : replica.phase ≠ .raised := by
      rw [hphase]
      exact Phase.noConfusion
    have hfree := create_free hadmin hcreate
    have hstays : ∀ p there, admin.holds s.entities p = some there → admin.holds entities p = some there :=
      fun p there => create_kept hadmin hcreate
    have hnew : admin.holds entities (path admin replica.config item) = some (properties replica.config item) :=
      hadmin.created _ _ _ _ hcreate
    have hunheld : admin.holds initial (path admin replica.config item) = none := by
      cases hheld : admin.holds initial (path admin replica.config item) with
      | none => rfl
      | some there => exact absurd (hfree.symm.trans (hkept _ _ hheld)) (by simp)
    refine ⟨fun p there hheld => hstays p there (hkept p there hheld), fun p there hheld => ?_,
      fun made hmade => ?_, ?_, fun made hmade => ?_, fun other hm => ?_⟩
    · rw [create_holds hadmin hcreate] at hheld
      rcases Option.or_eq_some_iff.mp hheld with hold | ⟨_, hmade⟩
      · refine (hgrown p there hold).imp_right ?_
        rintro ⟨made, hmade, hrest⟩
        exact ⟨made, List.mem_append_left _ hmade, hrest⟩
      · obtain ⟨hp, hthere⟩ := Option.ite_none_right_eq_some.mp hmade
        exact .inr ⟨_, List.mem_append_right _ List.mem_cons_self, hp, Option.some.inj hthere⟩
    · rcases List.mem_append.mp hmade with hold | hlast
      · exact ⟨(hmades made hold).1, hstays _ _ (hmades made hold).2⟩
      · rw [List.mem_singleton.mp hlast]
        exact ⟨hunheld, hnew⟩
    · rw [List.map_append, List.nodup_append]
      refine ⟨honce, List.pairwise_singleton _ _, ?_⟩
      rintro p hp _ hlast rfl
      obtain ⟨made, hmade, rfl⟩ := List.mem_map.mp hp
      rw [List.map_singleton, List.mem_singleton] at hlast
      have hheld := (hmades made hmade).2
      rw [hlast, hfree] at hheld
      cases hheld
    · rcases List.mem_append.mp hmade with hold | hlast
      · exact planned_kept hget rfl (hplanned made hold)
      · rw [List.mem_singleton.mp hlast]
        refine ⟨_, slot_set_self hget, item, hbefore.planned item ?_, rfl, rfl⟩
        rw [hphase]
        exact List.mem_cons_self
    · rcases List.mem_or_eq_of_mem_set hm with hold | rfl
      · exact (hprogress other hold).grow hadmin hstays
      · rcases hnext with rfl | rfl
        · exact raised_progress _ replica.config
        · exact (hbefore.grow hadmin hstays).next (by rw [hphase]; rfl) hraised (found_created hadmin hcreate)

/-- However the calls of the replicas interleave, and whichever of them fail or are refused: what the namespace held it
holds as it was, and besides that what was created; nothing is created twice, or where something was; what is created is
what the configuration of its replica asks for; and a replica that returned has all that it asked for. -/
theorem replicas_configured (hadmin : admin.Lawful)
    (h : Run (step admin) (fun _ _ => True) { entities := initial } events s) :
    (∀ p there, admin.holds s.entities p = some there ↔ admin.holds initial p = some there ∨
      ∃ made ∈ s.created, made.path = p ∧ made.properties = there) ∧
    (s.created.map Created.path).Nodup ∧ (∀ made ∈ s.created, admin.holds initial made.path = none) ∧
    (∀ made ∈ s.created, ∃ replica, s.replicas[made.replica]? = some replica ∧ ∃ item ∈ plan replica.config,
      made.path = path admin replica.config item ∧ made.properties = properties replica.config item) ∧
    ∀ replica ∈ s.replicas, replica.phase = .returned →
      ∀ item ∈ plan replica.config, found admin s.entities replica.config item = true := by
  have hstart : Configured admin initial { entities := initial } :=
    ⟨fun _ _ hheld => hheld, fun _ _ hheld => .inl hheld, List.forall_mem_nil _, List.nodup_nil,
      List.forall_mem_nil _, List.forall_mem_nil _⟩
  obtain ⟨hkept, hgrown, hmades, honce, hplanned, hprogress⟩ :=
    h.invariant hstart (fun hs _ hstep => step_configured hadmin hs hstep)
  refine ⟨fun p there => ⟨hgrown p there, ?_⟩, honce, fun made hmade => (hmades made hmade).1, hplanned,
    fun replica hm hreturned item hitem => ?_⟩
  · rintro (hold | ⟨made, hmade, rfl, rfl⟩)
    · exact hkept p there hold
    · exact (hmades made hmade).2
  · have hseen := (hprogress replica hm).seen (by rw [hreturned]; exact Phase.noConfusion) item hitem
    rw [hreturned] at hseen
    exact hseen.resolve_left List.not_mem_nil

end Runs

def busFits : Path → Bool
  | .entity name => name.length ≤ 260
  | .subscription _ name => name.length ≤ 50

def busFinds (ns : Dict Path Properties) (kind : Kind) (p : Path) : Bool :=
  (ns.lookup p).any (fun there => there.kind = kind)

/-- Whether a name is free, its topic there if it has one, and not too long. -/
def busTakes (ns : Dict Path Properties) (p : Path) : Bool :=
  let parent := match p with
    | .entity _ => true
    | .subscription topic _ => busFinds ns .topic (.entity topic)
  (ns.lookup p).isNone && parent && busFits p

def busCreate (ns : Dict Path Properties) (p : Path) (wanted : Properties) : Option (Dict Path Properties) :=
  if busTakes ns p then some (ns ++ [(p, wanted)]) else none

/-- A bus that tells names apart by their letters only, as far as these names go, and takes them up to a length. -/
def busAdmin : Admin where
  Namespace := Dict Path Properties
  sameName := id
  parses := Option.isSome
  holds ns p := ns.lookup p
  finds := busFinds
  create := busCreate
  fits p _ := busFits p

section Bus
variable {ns ns' : Dict Path Properties} {kind : Kind} {p other : Path} {wanted there : Properties}

theorem busFinds_iff : busFinds ns kind p = true ↔ ∃ there, ns.lookup p = some there ∧ there.kind = kind := by
  unfold busFinds
  cases ns.lookup p with
  | none => simp
  | some there => simp

theorem busCreate_taken (h : ns.lookup p = some there) : busCreate ns p wanted = none := by
  simp [busCreate, busTakes, h]

theorem busCreate_lookup (h : busCreate ns p wanted = some ns') :
    ns'.lookup other = (ns.lookup other).or (if other = p then some wanted else none) := by
  obtain ⟨_, hns⟩ := Option.ite_none_right_eq_some.mp h
  cases hns
  rw [List.lookup_append]
  by_cases hp : other = p
  · rw [hp, List.lookup_cons_self, if_pos rfl]
  · rw [Dict.lookup_cons_of_ne _ hp, if_neg hp]
    rfl

theorem busCreate_created (h : busCreate ns p wanted = some ns') : ns'.lookup p = some wanted := by
  have hfree : ns.lookup p = none := by
    cases hl : ns.lookup p with
    | none => rfl
    | some there =>
      rw [busCreate_taken hl] at h
      cases h
  rw [busCreate_lookup h, hfree, if_pos rfl, Option.none_or]

theorem busCreate_kept (h : busCreate ns p wanted = some ns') (hother : other ≠ p) :
    ns'.lookup other = ns.lookup other := by
  rw [busCreate_lookup h, if_neg hother, Option.or_none]

theorem busAdmin_lawful : busAdmin.Lawful where
  finds_iff _ _ _ := busFinds_iff
  taken _ _ _ _ := busCreate_taken
  created _ _ _ _ := busCreate_created
  kept _ _ _ _ h _ := busCreate_kept h

theorem busCreate_isSome : (busCreate ns p wanted).isSome = busTakes ns p := by
  unfold busCreate
  split
  · rename_i htakes
    exact htakes.symm
  · rename_i htakes
    exact (Bool.eq_false_iff.mpr htakes).symm

theorem busAdmin_roomy : busAdmin.Roomy := by
  intro ns p wanted hfree hparent
  refine busCreate_isSome.trans ?_
  cases p with
  | entity name =>
    have hnone : List.lookup (.entity name) ns = none := hfree
    simp [busTakes, hnone, busAdmin]
  | subscription topic name =>
    have hnone : List.lookup (.subscription topic name) ns = none := hfree
    have htopic : busFinds ns .topic (.entity topic) = true := hparent
    simp [busTakes, hnone, htopic, busAdmin]

end Bus

def ordersConfiguration : MessageConfiguration where
  connection := some "Endpoint=sb://blocks.servicebus.windows.net/"
  serviceName := some "blocks_ai_api"
  azureServiceBusConfiguration := some { queues := ["orders"], topics := ["events"] }

/-- Both of two replicas miss the queue, and the later one is refused it. The other loses the answer for its topic.
A third one, started again, finds both and creates the subscription. -/
def startedThrice : List Event :=
  [.start ordersConfiguration, .start ordersConfiguration, .call 0 .answered, .call 1 .answered, .call 0 .answered,
    .call 1 .answered, .call 0 .refused, .call 0 .lost, .start ordersConfiguration, .call 2 .answered,
    .call 2 .answered, .call 2 .answered, .call 2 .answered]

theorem replicas_configured_started_thrice : ∃ s replica,
    Run (step busAdmin) (fun _ _ => True) { entities := [] } startedThrice s ∧
    s.replicas.map Replica.phase = [.raised, .raised, .returned] ∧ s.created.length = 3 ∧
    (s.created.map Created.path).Nodup ∧ s.replicas[2]? = some replica ∧
    ∀ item ∈ plan replica.config, found busAdmin s.entities replica.config item = true := by
  have hrun : ∃ s replica, Run (step busAdmin) (fun _ _ => True) { entities := [] } startedThrice s ∧
      s.replicas.map Replica.phase = [.raised, .raised, .returned] ∧ s.created.length = 3 ∧
      s.replicas[2]? = some replica ∧ replica.phase = .returned :=
    ⟨_, _, Run.of_exec (fun _ _ _ => trivial) rfl, rfl, rfl, rfl, rfl⟩
  obtain ⟨s, replica, hrun, hphases, hcreated, hget, hreturned⟩ := hrun
  obtain ⟨_, honce, _, _, hfound⟩ := replicas_configured busAdmin_lawful hrun
  exact ⟨s, replica, hrun, hphases, hcreated, honce, hget, hfound replica (List.mem_of_getElem? hget) hreturned⟩

/-! ## A replica on its own -/

/-- The same where no call fails and nobody else calls. -/
def ensure (admin : Admin) (config : MessageConfiguration) (ns : admin.Namespace) (item : Item) :
    Option admin.Namespace :=
  if found admin ns config item then some ns else create admin ns config item

def configureQueueAndTopic (admin : Admin) (config : MessageConfiguration) (ns : admin.Namespace) :
    Option admin.Namespace :=
  (plan config).foldlM (ensure admin config) ns

/-- No name is asked for, or there, as a queue and as a topic, and the service takes the names and properties of what is
missing. -/
def Compatible (admin : Admin) (ns : admin.Namespace) (config : MessageConfiguration) (items : List Item) : Prop :=
  ∀ item ∈ items,
    (∀ there, admin.holds ns (path admin config item) = some there → there.isOf item = true) ∧
    (admin.holds ns (path admin config item) = none →
      admin.fits (path admin config item) (properties config item) = true) ∧
    ∀ other ∈ items, path admin config item = path admin config other →
      (properties config item).isOf other = true

/-- Subscriptions come after their topics. -/
def Ready (known : List Item) : List Item → Prop
  | [] => True
  | item :: rest => (∀ topicName, item = .subscription topicName → .topic topicName ∈ known) ∧
      Ready (item :: known) rest

section Alone
variable {admin : Admin} {s s' : State admin} {ns ns' : admin.Namespace} {config : MessageConfiguration}
  {item : Item} {items known : List Item} {i : Nat} {p : Path}

theorem Ready.mono {more : List Item} (h : Ready known items) (hsub : ∀ item ∈ known, item ∈ more) :
    Ready more items := by
  induction items generalizing known more with
  | nil => trivial
  | cons item rest ih =>
    obtain ⟨hparent, hrest⟩ := h
    refine ⟨fun topicName he => hsub _ (hparent topicName he), ih hrest ?_⟩
    intro other hother
    rcases List.mem_cons.mp hother with rfl | hm
    · exact List.mem_cons_self
    · exact List.mem_cons_of_mem _ (hsub other hm)

theorem topics_ready (topics : List String) (known : List Item) :
    Ready known (topics.flatMap (fun name => [.topic name, .subscription name])) := by
  induction topics generalizing known with
  | nil => trivial
  | cons name topics ih =>
    refine ⟨fun topicName he => Item.noConfusion he, fun topicName he => ?_, ih _⟩
    cases he
    exact List.mem_cons_self

theorem plan_ready (config : MessageConfiguration) : Ready [] (plan config) := by
  have hqueues : ∀ (queues : List String) (known : List Item), Ready known (queues.map .queue ++
      config.azure.topics.flatMap (fun name => [.topic name, .subscription name])) := by
    intro queues
    induction queues with
    | nil => exact topics_ready _
    | cons name queues ih => exact fun known => ⟨fun topicName he => Item.noConfusion he, ih _⟩
  exact hqueues config.azure.queues []

/-- What an item that was seen to leaves: the item where it was missing. -/
theorem ensure_holds (hadmin : admin.Lawful) (h : ensure admin config ns item = some ns') (p : Path) :
    admin.holds ns' p = (admin.holds ns p).or
      (if path admin config item = p then some (properties config item) else none) := by
  unfold ensure at h
  split at h
  · rename_i hfound
    cases h
    obtain ⟨there, hheld, _⟩ := (found_iff hadmin).mp hfound
    split
    · rename_i hp
      rw [← hp, hheld]
      rfl
    · rw [Option.or_none]
  · exact create_holds hadmin h p

theorem ensureAll_holds (hadmin : admin.Lawful) (h : items.foldlM (ensure admin config) ns = some ns') (p : Path) :
    admin.holds ns' p = (admin.holds ns p).or
      ((items.find? (fun item => path admin config item = p)).map (properties config)) := by
  induction items generalizing ns with
  | nil =>
    cases h
    rw [List.find?_nil, Option.map_none, Option.or_none]
  | cons item items ih =>
    rw [List.foldlM_cons] at h
    obtain ⟨next, hensure, hrest⟩ := Option.bind_eq_some_iff.mp h
    rw [ih hrest, ensure_holds hadmin hensure, Option.or_assoc, List.find?_cons]
    congr 1
    by_cases hp : path admin config item = p
    · simp [hp]
    · simp [hp]

theorem ensure_found (hadmin : admin.Lawful) (h : ensure admin config ns item = some ns') :
    found admin ns' config item = true := by
  unfold ensure at h
  split at h
  · cases h
    assumption
  · exact found_created hadmin h

theorem found_of_ensure {other : Item} (hadmin : admin.Lawful) (h : ensure admin config ns item = some ns')
    (hfound : found admin ns config other = true) : found admin ns' config other = true := by
  obtain ⟨there, hheld, hkind⟩ := (found_iff hadmin).mp hfound
  refine (found_iff hadmin).mpr ⟨there, ?_, hkind⟩
  rw [ensure_holds hadmin h, hheld]
  rfl

theorem ensureAll_found (hadmin : admin.Lawful) (h : items.foldlM (ensure admin config) ns = some ns') :
    ∀ item, item ∈ items ∨ found admin ns config item = true → found admin ns' config item = true := by
  induction items generalizing ns with
  | nil =>
    cases h
    exact fun item hitem => hitem.resolve_left List.not_mem_nil
  | cons first items ih =>
    rw [List.foldlM_cons] at h
    obtain ⟨next, hensure, hrest⟩ := Option.bind_eq_some_iff.mp h
    rintro item (hm | hfound)
    · rcases List.mem_cons.mp hm with rfl | hm
      · exact ih hrest item (.inr (ensure_found hadmin hensure))
      · exact ih hrest item (.inl hm)
    · exact ih hrest item (.inr (found_of_ensure hadmin hensure hfound))

theorem Compatible.ensure {rest : List Item} (hadmin : admin.Lawful) (hc : Compatible admin ns config (item :: rest))
    (h : ensure admin config ns item = some ns') : Compatible admin ns' config rest := by
  intro other hother
  obtain ⟨hthere, hfits, hasked⟩ := hc other (List.mem_cons_of_mem _ hother)
  refine ⟨fun there hheld => ?_, fun hmissing => hfits ?_,
    fun third hthird => hasked third (List.mem_cons_of_mem _ hthird)⟩
  · rw [ensure_holds hadmin h] at hheld
    rcases Option.or_eq_some_iff.mp hheld with hold | ⟨_, hnew⟩
    · exact hthere there hold
    · obtain ⟨hp, he⟩ := Option.ite_none_right_eq_some.mp hnew
      cases he
      exact (hc item List.mem_cons_self).2.2 other (List.mem_cons_of_mem _ hother) hp
  · rw [ensure_holds hadmin h] at hmissing
    exact (Option.or_eq_none_iff.mp hmissing).1

theorem ensure_of_compatible {rest : List Item} (hadmin : admin.Lawful) (hroomy : admin.Roomy)
    (hc : Compatible admin ns config (item :: rest)) (hparent : admin.hasParent ns (path admin config item) = true) :
    ∃ ns', ensure admin config ns item = some ns' := by
  obtain ⟨hthere, hfits, _⟩ := hc item List.mem_cons_self
  unfold ensure
  split
  · exact ⟨ns, rfl⟩
  · rename_i hmissing
    have hfree : admin.holds ns (path admin config item) = none := by
      cases hheld : admin.holds ns (path admin config item) with
      | none => rfl
      | some there => exact absurd ((found_iff hadmin).mpr ⟨there, hheld, hthere there hheld⟩) hmissing
    exact Option.isSome_iff_exists.mp ((hroomy ns _ _ hfree hparent).trans (hfits hfree))

/-- The topic of a subscription has been seen to. -/
theorem ready_parent {rest : List Item} (hready : Ready known (item :: rest))
    (hknown : ∀ item ∈ known, found admin ns config item = true) :
    admin.hasParent ns (path admin config item) = true := by
  cases item with
  | queue name => rfl
  | topic name => rfl
  | subscription topicName => exact hknown _ (hready.1 topicName rfl)

theorem known_ensured (hadmin : admin.Lawful) (h : ensure admin config ns item = some ns')
    (hknown : ∀ item ∈ known, found admin ns config item = true) :
    ∀ other ∈ item :: known, found admin ns' config other = true := by
  intro other hother
  rcases List.mem_cons.mp hother with rfl | hm
  · exact ensure_found hadmin h
  · exact found_of_ensure hadmin h (hknown other hm)

theorem ensureAll_of_compatible (hadmin : admin.Lawful) (hroomy : admin.Roomy)
    (hc : Compatible admin ns config items) (hready : Ready known items)
    (hknown : ∀ item ∈ known, found admin ns config item = true) :
    ∃ ns', items.foldlM (ensure admin config) ns = some ns' := by
  induction items generalizing ns known with
  | nil => exact ⟨ns, rfl⟩
  | cons item rest ih =>
    obtain ⟨next, hensure⟩ := ensure_of_compatible hadmin hroomy hc (ready_parent hready hknown)
    obtain ⟨ns', hrest⟩ := ih (hc.ensure hadmin hensure) hready.2 (known_ensured hadmin hensure hknown)
    refine ⟨ns', ?_⟩
    rw [List.foldlM_cons, hensure]
    exact hrest

/-- What serves as one of two items of one path serves as the other. -/
theorem isOf_trans {there : Properties} {other : Item} (h : there.isOf item = true)
    (hother : there.isOf other = true) : (properties config item).isOf other = true := by
  have hkind := of_decide_eq_true (properties_isOf config item)
  exact decide_eq_true (hkind.trans ((of_decide_eq_true h).symm.trans (of_decide_eq_true hother)))

/-- Items of one path that were both seen to are of one kind. -/
theorem same_kind {other : Item} (hadmin : admin.Lawful) (h : items.foldlM (ensure admin config) ns = some ns')
    (hitem : item ∈ items) (hother : other ∈ items) (hp : path admin config item = path admin config other) :
    (properties config item).isOf other = true := by
  obtain ⟨there, hheld, hkind⟩ := (found_iff hadmin).mp (ensureAll_found hadmin h item (.inl hitem))
  obtain ⟨there', hheld', hkind'⟩ := (found_iff hadmin).mp (ensureAll_found hadmin h other (.inl hother))
  rw [← hp, hheld] at hheld'
  cases hheld'
  exact isOf_trans hkind hkind'

/-- What was missing was taken, either itself or as another item of its path. -/
theorem ensureAll_fits (hadmin : admin.Lawful) (hroomy : admin.Roomy)
    (h : items.foldlM (ensure admin config) ns = some ns') (hready : Ready known items)
    (hknown : ∀ item ∈ known, found admin ns config item = true) :
    ∀ item ∈ items, admin.holds ns (path admin config item) = none →
      admin.fits (path admin config item) (properties config item) = true := by
  induction items generalizing ns known with
  | nil => exact List.forall_mem_nil _
  | cons first rest ih =>
    intro item hitem hfree
    have hall := h
    rw [List.foldlM_cons] at h
    obtain ⟨next, hensure, hrest⟩ := Option.bind_eq_some_iff.mp h
    by_cases hp : path admin config first = path admin config item
    · have hkinds := same_kind hadmin hall List.mem_cons_self hitem hp
      rw [← hp] at hfree ⊢
      rw [← properties_eq config hkinds]
      have hmissing : ¬ found admin ns config first = true := by
        intro hfound
        obtain ⟨there, hheld, _⟩ := (found_iff hadmin).mp hfound
        rw [hfree] at hheld
        cases hheld
      rw [ensure, if_neg hmissing, create] at hensure
      rw [← hroomy ns _ _ hfree (ready_parent hready hknown), hensure]
      rfl
    · have hlater : item ∈ rest := (List.mem_cons.mp hitem).resolve_left (fun he => hp (by rw [he]))
      refine ih hrest hready.2 (known_ensured hadmin hensure hknown) item hlater ?_
      rw [ensure_holds hadmin hensure, hfree, if_neg hp]
      rfl

theorem compatible_of_ensureAll (hadmin : admin.Lawful) (hroomy : admin.Roomy)
    (h : items.foldlM (ensure admin config) ns = some ns') (hready : Ready [] items) :
    Compatible admin ns config items := by
  intro item hitem
  refine ⟨fun old hold => ?_, ensureAll_fits hadmin hroomy h hready (List.forall_mem_nil _) item hitem,
    fun other => same_kind hadmin h hitem⟩
  obtain ⟨there, hheld, hkind⟩ := (found_iff hadmin).mp (ensureAll_found hadmin h item (.inl hitem))
  rw [ensureAll_holds hadmin h, hold] at hheld
  cases hheld
  exact hkind

theorem configureQueueAndTopic_isSome (hadmin : admin.Lawful) (hroomy : admin.Roomy) :
    (∃ ns', configureQueueAndTopic admin config ns = some ns') ↔ Compatible admin ns config (plan config) := by
  constructor
  · rintro ⟨ns', h⟩
    exact compatible_of_ensureAll hadmin hroomy h (plan_ready config)
  · intro hc
    exact ensureAll_of_compatible hadmin hroomy hc (plan_ready config) (List.forall_mem_nil _)

/-- Where the replica is after its calls. -/
def after {admin : Admin} (outcome : Option admin.Namespace) : Phase := if outcome.isSome then .returned else .raised

theorem call_found {rest : List Item} (hget : s.replicas[i]? = some ⟨config, .checking item rest⟩)
    (hfound : found admin s.entities config item = true) :
    step admin s (.call i .answered) = some (s.setPhase i ⟨config, .checking item rest⟩ (.next rest)) := by
  simp [step, hget, call, hfound]

theorem call_missing {rest : List Item} (hget : s.replicas[i]? = some ⟨config, .checking item rest⟩)
    (hmissing : ¬ found admin s.entities config item = true) :
    step admin s (.call i .answered) = some (s.setPhase i ⟨config, .checking item rest⟩ (.creating item rest)) := by
  simp [step, hget, call, hmissing]

theorem call_refused {rest : List Item} (hget : s.replicas[i]? = some ⟨config, .creating item rest⟩)
    (hcreate : create admin s.entities config item = none) :
    ∃ s', step admin s (.call i .answered) = some s' ∧ s'.replicas[i]? = some ⟨config, .raised⟩ := by
  refine ⟨s.setPhase i ⟨config, .creating item rest⟩ .raised, ?_, slot_set_self hget⟩
  simp [step, hget, call, hcreate]

theorem call_created {rest : List Item} (hget : s.replicas[i]? = some ⟨config, .creating item rest⟩)
    (hcreate : create admin s.entities config item = some ns') :
    ∃ s', step admin s (.call i .answered) = some s' ∧ s'.replicas[i]? = some ⟨config, .next rest⟩ ∧
      s'.entities = ns' := by
  refine ⟨{ s.setPhase i ⟨config, .creating item rest⟩ (.next rest) with
    entities := ns'
    created := s.created ++ [⟨i, path admin config item, properties config item⟩] }, ?_, slot_set_self hget, rfl⟩
  simp [step, hget, call, hcreate]

/-- A replica that goes on alone, with every call answered, does what the plain code does. -/
theorem alone_calls (hget : s.replicas[i]? = some ⟨config, .next items⟩) :
    ∃ calls ≤ 2 * items.length, ∃ s', (List.replicate calls (Event.call i .answered)).foldlM (step admin) s = some s' ∧
      s'.replicas[i]? = some ⟨config, after (items.foldlM (ensure admin config) s.entities)⟩ ∧
      ∀ ns', items.foldlM (ensure admin config) s.entities = some ns' → s'.entities = ns' := by
  induction items generalizing s with
  | nil => exact ⟨0, Nat.le_refl 0, s, rfl, hget, fun ns' h => Option.some.inj h⟩
  | cons item items ih =>
    rw [List.foldlM_cons, List.length_cons]
    by_cases hfound : found admin s.entities config item = true
    · have hensure : ensure admin config s.entities item = some s.entities := if_pos hfound
      obtain ⟨calls, hcalls, s', hrun, hrest⟩ :=
        ih (s := s.setPhase i ⟨config, .checking item items⟩ (.next items)) (slot_set_self hget)
      rw [hensure]
      refine ⟨calls + 1, by omega, s', ?_, hrest⟩
      rw [List.replicate_succ, List.foldlM_cons, call_found hget hfound]
      exact hrun
    · have hensure : ensure admin config s.entities item = create admin s.entities config item := if_neg hfound
      have hcreating : (s.setPhase i ⟨config, .checking item items⟩ (.creating item items)).replicas[i]? =
          some ⟨config, .creating item items⟩ := slot_set_self hget
      rw [hensure]
      cases hcreate : create admin s.entities config item with
      | none =>
        obtain ⟨failed, hcall, hraised⟩ := call_refused hcreating hcreate
        refine ⟨2, by omega, failed, ?_, hraised, fun ns' h => ?_⟩
        · rw [List.replicate_succ, List.foldlM_cons, call_missing hget hfound, Option.bind_eq_bind, Option.bind_some,
            List.replicate_succ, List.foldlM_cons, hcall]
          rfl
        · cases h
      | some next =>
        obtain ⟨made, hcall, hnext, hentities⟩ := call_created hcreating hcreate
        obtain ⟨calls, hcalls, s', hrun, hrest⟩ := ih hnext
        rw [hentities] at hrest
        refine ⟨calls + 2, by omega, s', ?_, hrest⟩
        rw [List.replicate_succ, List.foldlM_cons, call_missing hget hfound, Option.bind_eq_bind, Option.bind_some,
          List.replicate_succ, List.foldlM_cons, hcall]
        exact hrun

/-- Whatever earlier starts left behind: a replica that starts when no other calls, and whose calls are answered,
returns if and only if no name is wanted, or there, both as a queue and as a topic, and the service takes the names and
properties of all that is missing. It then has created what was missing, with its own configuration, and nothing
else. -/
theorem lone_replica_configured (hadmin : admin.Lawful) (hroomy : admin.Roomy)
    (hparses : admin.parses config.connection = true) (hazure : config.azureServiceBusConfiguration.isSome = true) :
    ∃ calls ≤ 2 * (plan config).length, ∃ s' phase,
      (Event.start config :: List.replicate calls (.call s.replicas.length .answered)).foldlM (step admin) s = some s' ∧
      s'.replicas[s.replicas.length]? = some ⟨config, phase⟩ ∧ (phase = .returned ∨ phase = .raised) ∧
      (phase = .returned ↔ Compatible admin s.entities config (plan config)) ∧
      (phase = .returned → ∀ p, admin.holds s'.entities p = (admin.holds s.entities p).or
        (((plan config).find? (fun item => path admin config item = p)).map (properties config))) := by
  have hstart : step admin s (.start config) =
      some { s with replicas := s.replicas ++ [⟨config, .next (plan config)⟩] } := by
    simp [step, firstPhase, hparses, hazure]
  have hget : (s.replicas ++ [⟨config, .next (plan config)⟩])[s.replicas.length]? =
      some ⟨config, .next (plan config)⟩ := List.getElem?_concat_length
  obtain ⟨calls, hcalls, s', hrun, hphase, hns⟩ :=
    alone_calls (s := { s with replicas := s.replicas ++ [⟨config, .next (plan config)⟩] }) hget
  refine ⟨calls, hcalls, s', _, ?_, hphase, ?_, ?_, ?_⟩
  · rw [List.foldlM_cons, hstart]
    exact hrun
  · unfold after
    split
    · exact .inl rfl
    · exact .inr rfl
  · rw [← configureQueueAndTopic_isSome hadmin hroomy, after, ← Option.isSome_iff_exists]
    unfold configureQueueAndTopic
    split
    · rename_i hsome
      exact ⟨fun _ => hsome, fun _ => rfl⟩
    · rename_i hnone
      exact ⟨fun he => Phase.noConfusion he, fun hsome => absurd hsome hnone⟩
  · intro hreturned p
    have hsome : ((plan config).foldlM (ensure admin config) s.entities).isSome = true := by
      unfold after at hreturned
      split at hreturned
      · assumption
      · cases hreturned
    obtain ⟨ns', h⟩ := Option.isSome_iff_exists.mp hsome
    rw [hns ns' h]
    exact ensureAll_holds hadmin h p

end Alone

/-- The subscription of such a service would have too long a name. -/
def lengthyConfiguration : MessageConfiguration :=
  { ordersConfiguration with serviceName := some "blocks_ai_api_for_orders_and_invoices_in_europe" }

/-- A first start on an empty bus, and one that is refused its subscription. -/
theorem lone_replica_configured_orders :
    (∃ calls ≤ 6, ∃ s', (Event.start ordersConfiguration :: List.replicate calls (.call 0 .answered)).foldlM
      (step busAdmin) { entities := [] } = some s' ∧ s'.replicas[0]? = some ⟨ordersConfiguration, .returned⟩) ∧
    ∃ calls ≤ 6, ∃ s', (Event.start lengthyConfiguration :: List.replicate calls (.call 0 .answered)).foldlM
      (step busAdmin) { entities := [] } = some s' ∧ s'.replicas[0]? = some ⟨lengthyConfiguration, .raised⟩ := by
  constructor
  · obtain ⟨calls, hcalls, s', phase, hrun, hget, _, hreturned, _⟩ :=
      @lone_replica_configured busAdmin { entities := [] } ordersConfiguration busAdmin_lawful busAdmin_roomy rfl rfl
    have hphase := hreturned.mpr ((configureQueueAndTopic_isSome busAdmin_lawful busAdmin_roomy).mp ⟨_, rfl⟩)
    rw [hphase] at hget
    exact ⟨calls, hcalls, s', hrun, hget⟩
  · obtain ⟨calls, hcalls, s', phase, hrun, hget, hends, hreturned, _⟩ :=
      @lone_replica_configured busAdmin { entities := [] } lengthyConfiguration busAdmin_lawful busAdmin_roomy rfl rfl
    have hrefused : phase ≠ .returned := by
      intro hphase
      obtain ⟨ns', hns⟩ := (configureQueueAndTopic_isSome busAdmin_lawful busAdmin_roomy).mpr (hreturned.mp hphase)
      cases hns
    rw [hends.resolve_left hrefused] at hget
    exact ⟨calls, hcalls, s', hrun, hget⟩

end BlocksGenesis.Message.ServiceBusConfig
