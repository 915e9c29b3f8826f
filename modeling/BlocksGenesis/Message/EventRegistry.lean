import BlocksGenesis.Message.Identity
import BlocksGenesis.Telemetry.Program

/-! The registry of event handlers: how they come into it, and what a message does with the one it finds. -/

namespace BlocksGenesis.Message.EventRegistry
open Python Telemetry

/-- What may stand in the registry: an async function, or another callable that is no class; a class; or an
object that is not callable, by the name of its type and whether it has `handle`. -/
inductive Registered (F C : Type) where
  | function (f : F)
  | cls (c : C)
  | object (typeName : String) (hasHandle : Bool)

/-- What the functions and classes of an application do. An `I` is what calling one of them gives: a
coroutine, or an instance. -/
structure Application (F C I : Type) where
  callFunction : F → Option Json → Except Exc I
  construct : C → Option Json → Except Exc I
  /-- Awaiting an instance raises where its class has no `__await__`. -/
  await : I → Except Exc Unit
  hasHandle : C → Bool
  /-- `await instance.handle(payload)`. -/
  handle : I → Json → Except Exc Unit

/-- What is run of an application. -/
inductive Use (F C I : Type) where
  | called (handler : Registered F C) (argument : Option Json)
  | awaited (i : I)
  | handled (i : I) (payload : Json)

abbrev Handlers (F C : Type) := Dict String (Registered F C)

section Model
variable {F C I : Type} (rt : Runtime) (app : Application F C I)

def Registered.callable : Registered F C → Bool
  | .function _ | .cls _ => true
  | .object _ _ => false

/-- `hasattr(handler, "handle")`. -/
def Registered.hasHandle : Registered F C → Bool
  | .function _ => false
  | .cls c => app.hasHandle c
  | .object _ hasHandle => hasHandle

/-! ## The registry -/

def keyError (text : String) : Exc := .other ("KeyError: " ++ text)

def isRegistered (eventType : String) : Program (Handlers F C) Bool :=
  Program.update (fun handlers => ((handlers.lookup eventType).isSome, handlers))

def decorator (eventType : String) (handler : Registered F C) : Program (Handlers F C) Unit := do
  if ← isRegistered eventType then
    Program.raise (keyError ("Handler already registered for event type: " ++ eventType))
  else Program.update (fun handlers => ((), handlers.set eventType handler))

/-- `EventRegistry.register(event_type)(handler)`. -/
def register (eventType : Json) (handler : Registered F C) : Program (Handlers F C) Unit :=
  match eventType with
  | .str eventType =>
    if eventType = "" then Program.raise (.valueError "event_type must be a non-empty string.")
    else decorator eventType handler
  | _ => Program.raise (.valueError "event_type must be a non-empty string.")

def resolve (handlers : Handlers F C) (eventType : String) : Except Exc (Registered F C) :=
  match handlers.lookup eventType with
  | some handler => .ok handler
  | none => .error (.valueError ("No handler registered for event type: " ++ eventType))

/-- What an entry of `register_consumer` registers, when the check of `setup_services` accepts it. -/
def accepted : Json × Registered F C → Option (String × Registered F C)
  | (.str eventType, handler) =>
    if eventType ≠ "" ∧ (handler.callable || handler.hasHandle app) = true then some (eventType, handler) else none
  | _ => none

/-- One turn of the loop in `setup_services`. -/
def registerConsumer (entry : Json × Registered F C) : Program (Handlers F C) Unit :=
  match accepted app entry with
  | some (eventType, handler) => do
    if ← isRegistered eventType then
      Program.log .error ("Handler already registered for event type: " ++ eventType)
    else
      register (.str eventType) handler
      Program.log .info ("Handler registered for event type: " ++ eventType)
  | none =>
    Program.log .error ("Invalid event_type or handler for: " ++ entry.1.toStr rt ++
      " (Expected non-empty string event_type and callable/handle-method handler).")

def registerConsumers : List (Json × Registered F C) → Program (Handlers F C) Unit
  | [] => pure ()
  | entry :: entries => do
    registerConsumer rt app entry
    registerConsumers entries

/-- `setup_services` to the end of its loop, with how what comes before the loop ended. What comes after it
does not touch the registry. -/
def setupServices (startup : Except Exc Unit) (entries : List (Json × Registered F C)) :
    Program (Handlers F C) Unit := do
  Program.ofExcept startup
  registerConsumers rt app entries

/-! ## Dispatch -/

/-- A use of the application, which is noted and may raise. -/
def noted {α : Type} (use : Use F C I) (outcome : Except Exc α) : Program (List (Use F C I)) α := fun uses =>
  Program.ofExcept outcome (uses ++ [use])

/-- Call a handler, with the body or with nothing. -/
def callHandler (argument : Option Json) : Registered F C → Program (List (Use F C I)) I
  | .function f => noted (.called (.function f) argument) (app.callFunction f argument)
  | .cls c => noted (.called (.cls c) argument) (app.construct c argument)
  | .object typeName _ => Program.raise (.typeError ("'" ++ typeName ++ "' object is not callable"))

/-- `await handler(json.loads(body))`. -/
def awaitCall (handler : Registered F C) (decoded : Except Exc Json) : Program (List (Use F C I)) Unit := do
  let payload ← Program.ofExcept decoded
  let called ← callHandler app (some payload) handler
  noted (.awaited called) (app.await called)

/-- An instance of the handler, and its `handle` awaited with the body. -/
def instantiateAndHandle (handler : Registered F C) (decoded : Except Exc Json) :
    Program (List (Use F C I)) Unit := do
  let i ← callHandler app none handler
  let payload ← Program.ofExcept decoded
  noted (.handled i payload) (app.handle i payload)

/-- `Consumer.process_message`. -/
def processMessage (handlers : Handlers F C) (type body : String) : Program (List (Use F C I)) Unit := do
  let handler ← Program.ofExcept (resolve handlers type)
  if handler.callable then awaitCall app handler (rt.loads body)
  else if handler.hasHandle app then instantiateAndHandle app handler (rt.loads body)
  else Program.raise (.typeError
    ("Handler for type '" ++ type ++ "' is not callable or doesn't implement `handle()`"))

end Model

/-! ## Histories of registrations -/

inductive Registration (F C : Type) where
  | register (eventType : Json) (handler : Registered F C)
  | setupServices (startup : Except Exc Unit) (registerConsumer : List (Json × Registered F C))

section Histories
variable {F C I : Type} (rt : Runtime) (app : Application F C I)

def Registration.perform : Registration F C → Program (Handlers F C) Unit
  | .register eventType handler => EventRegistry.register eventType handler
  | .setupServices startup entries => EventRegistry.setupServices rt app startup entries

/-- The registry after a history. A registration that raises leaves what it had registered. -/
def registry (history : List (Registration F C)) : Handlers F C :=
  history.foldl (fun handlers registration => (registration.perform rt app handlers).state) []

/-- The handlers a registration has for the registry, each with its event type. -/
def Registration.offers : Registration F C → List (String × Registered F C)
  | .register (.str eventType) handler => if eventType = "" then [] else [(eventType, handler)]
  | .register _ _ => []
  | .setupServices (.ok _) entries => entries.filterMap (accepted app)
  | .setupServices (.error _) _ => []

/-- The first handler registered for an event type. -/
def firstFor (history : List (Registration F C)) (eventType : String) : Option (Registered F C) :=
  (history.flatMap (Registration.offers app)).lookup eventType

end Histories

section Registry
variable {F C I : Type} {rt : Runtime} {app : Application F C I} {handlers : Handlers F C}

/-- Put the handlers offered into a registry, each unless its event type has one. -/
def keepFirst (handlers : Handlers F C) (offers : List (String × Registered F C)) : Handlers F C :=
  offers.foldl (fun handlers offer => handlers.setdefault offer.1 offer.2) handlers

theorem isRegistered_bind {α : Type} (eventType : String) (f : Bool → Program (Handlers F C) α) :
    ((isRegistered eventType >>= f) handlers).result = (f (handlers.lookup eventType).isSome handlers).result ∧
      ((isRegistered eventType >>= f) handlers).state = (f (handlers.lookup eventType).isSome handlers).state :=
  Program.bind_ok rfl

/-- Of a name that has a handler the new one is refused, and the other stays. -/
theorem decorator_spec (handlers : Handlers F C) (eventType : String) (handler : Registered F C) :
    (decorator eventType handler handlers).state = handlers.setdefault eventType handler ∧
      (handlers.lookup eventType = none → (decorator eventType handler handlers).result = .ok ()) := by
  unfold decorator Dict.setdefault
  rw [(isRegistered_bind eventType _).1, (isRegistered_bind eventType _).2]
  cases handlers.lookup eventType with
  | none => exact ⟨rfl, fun _ => rfl⟩
  | some there => exact ⟨rfl, nofun⟩

theorem register_state (eventType : Json) (handler : Registered F C) :
    (register eventType handler handlers).state =
      keepFirst handlers ((Registration.register eventType handler).offers app) := by
  cases eventType with
  | str eventType =>
    simp only [register, Registration.offers]
    by_cases hempty : eventType = ""
    · rw [if_pos hempty, if_pos hempty]
      rfl
    · rw [if_neg hempty, if_neg hempty]
      exact (decorator_spec handlers eventType handler).1
  | null | bool | int | float | arr | obj => rfl

theorem accepted_name {entry : Json × Registered F C} {offer : String × Registered F C}
    (h : accepted app entry = some offer) : offer.1 ≠ "" := by
  unfold accepted at h
  split at h
  · split at h
    · rename_i hoffer
      cases h
      exact hoffer.1
    · cases h
  · cases h

/-- A turn of the loop never raises. -/
theorem registerConsumer_state (app : Application F C I) (handlers : Handlers F C) (entry : Json × Registered F C) :
    (registerConsumer rt app entry handlers).result = .ok () ∧
      (registerConsumer rt app entry handlers).state = keepFirst handlers (accepted app entry).toList := by
  unfold registerConsumer
  cases hentry : accepted app entry with
  | none => exact ⟨rfl, rfl⟩
  | some offer =>
    obtain ⟨eventType, handler⟩ := offer
    have hregister : register (.str eventType) handler = decorator eventType handler :=
      if_neg (accepted_name hentry)
    obtain ⟨hstate, hnew⟩ := decorator_spec handlers eventType handler
    simp only [Option.toList, keepFirst, List.foldl_cons, List.foldl_nil, hregister]
    rw [(isRegistered_bind eventType _).1, (isRegistered_bind eventType _).2, ← hstate]
    cases hthere : handlers.lookup eventType with
    | some there =>
      refine ⟨rfl, ?_⟩
      rw [hstate, Dict.setdefault, hthere]
      rfl
    | none => exact Program.bind_ok (hnew hthere)

theorem registerConsumers_state (entries : List (Json × Registered F C)) :
    (registerConsumers rt app entries handlers).result = .ok () ∧
      (registerConsumers rt app entries handlers).state = keepFirst handlers (entries.filterMap (accepted app)) := by
  induction entries generalizing handlers with
  | nil => exact ⟨rfl, rfl⟩
  | cons entry entries ih =>
    obtain ⟨hturn, hkept⟩ := @registerConsumer_state _ _ _ rt app handlers entry
    obtain ⟨hresult, hstate⟩ := Program.bind_ok (f := fun _ => registerConsumers rt app entries) hturn
    have hsplit : (entry :: entries).filterMap (accepted app) =
        (accepted app entry).toList ++ entries.filterMap (accepted app) := by
      rw [List.filterMap_cons]
      cases accepted app entry <;> rfl
    unfold registerConsumers
    rw [hresult, hstate, ih.1, ih.2, hkept, hsplit, keepFirst, keepFirst, keepFirst, List.foldl_append]
    exact ⟨rfl, rfl⟩

theorem perform_state (registration : Registration F C) :
    (registration.perform rt app handlers).state = keepFirst handlers (registration.offers app) := by
  cases registration with
  | register eventType handler => exact register_state eventType handler
  | setupServices startup entries =>
    cases startup with
    | error e => rfl
    | ok started =>
      have hstarted : (Program.ofExcept (.ok started) : Program (Handlers F C) Unit) handlers =
        ⟨.ok (), handlers, []⟩ := rfl
      obtain ⟨_, hstate⟩ := Program.bind_ok (f := fun _ => registerConsumers rt app entries)
        (congrArg Outcome.result hstarted)
      exact hstate.trans (registerConsumers_state entries).2

/-- The registry holds, for each event type, the first handler registered for it. -/
theorem registry_lookup (history : List (Registration F C)) (eventType : String) :
    (registry rt app history).lookup eventType = firstFor app history eventType := by
  have hkept : registry rt app history = keepFirst [] (history.flatMap (Registration.offers app)) := by
    unfold registry
    generalize ([] : Handlers F C) = handlers
    induction history generalizing handlers with
    | nil => rfl
    | cons registration history ih =>
      rw [List.foldl_cons, List.flatMap_cons, perform_state, ih, keepFirst, keepFirst, keepFirst, List.foldl_append]
  rw [hkept, keepFirst, Dict.lookup_foldl_setdefault]
  rfl

end Registry

/-! ## What a message comes to -/

section Dispatch
variable {F C I : Type} {rt : Runtime} {app : Application F C I} {handlers : Handlers F C}

/-- A function called with the payload, once, and its call awaited. -/
def functionRun (app : Application F C I) (f : F) (payload : Json) : List (Use F C I) × Except Exc Unit :=
  match app.callFunction f (some payload) with
  | .ok call => ([.called (.function f) (some payload), .awaited call], app.await call)
  | .error e => ([.called (.function f) (some payload)], .error e)

/-- A class instantiated, once, and `handle` of the instance awaited with the payload. -/
def classRun (app : Application F C I) (c : C) (payload : Json) : List (Use F C I) × Except Exc Unit :=
  match app.construct c none with
  | .ok i => ([.called (.cls c) none, .handled i payload], app.handle i payload)
  | .error e => ([.called (.cls c) none], .error e)

/-- What a message is to come to, by the first handler registered for its type. -/
structure Dispatched (app : Application F C I) (first : Option (Registered F C)) (payload : Json)
    (outcome : Outcome (List (Use F C I)) Unit) : Prop where
  function : ∀ f, first = some (.function f) → (outcome.state, outcome.result) = functionRun app f payload
  cls : ∀ c, first = some (.cls c) → app.hasHandle c = true →
    (outcome.state, outcome.result) = classRun app c payload
  unregistered : first = none → outcome.state = [] ∧ ∃ e, outcome.result = .error e

theorem noted_end (use : Use F C I) (outcome : Except Exc Unit) (uses : List (Use F C I)) :
    noted use outcome uses = ⟨outcome, uses ++ [use], []⟩ := by
  cases outcome <;> rfl

theorem processMessage_callable {type body : String} {handler : Registered F C}
    (hfound : handlers.lookup type = some handler) (hcallable : handler.callable = true) :
    processMessage rt app handlers type body [] = awaitCall app handler (rt.loads body) [] := by
  have hresolve : resolve handlers type = .ok handler := by
    unfold resolve
    rw [hfound]
  unfold processMessage
  rw [hresolve]
  change (if handler.callable then awaitCall app handler (rt.loads body) else _) [] = _
  rw [if_pos hcallable]

/-- A call that gives something to await, and one that raises. -/
def callOutcome (app : Application F C I) (handler : Registered F C) (payload : Json) :
    Except Exc I → Outcome (List (Use F C I)) Unit
  | .ok call => ⟨app.await call, [.called handler (some payload), .awaited call], []⟩
  | .error e => ⟨.error e, [.called handler (some payload)], []⟩

theorem awaitCall_noted {handler : Registered F C} {payload : Json} {outcome : Except Exc I}
    (h : callHandler app (some payload) handler = noted (.called handler (some payload)) outcome) :
    awaitCall app handler (.ok payload) [] = callOutcome app handler payload outcome := by
  change (callHandler app (some payload) handler >>= fun called => noted (.awaited called) (app.await called)) [] = _
  rw [h]
  cases outcome with
  | ok call => exact noted_end _ _ _
  | error e => rfl

/-- A function is run with the payload. -/
theorem processMessage_function {type body : String} {f : F} {payload : Json}
    (hfound : handlers.lookup type = some (.function f)) (hbody : rt.loads body = .ok payload) :
    ((processMessage rt app handlers type body []).state, (processMessage rt app handlers type body []).result) =
      functionRun app f payload := by
  rw [processMessage_callable hfound rfl, hbody, awaitCall_noted rfl, functionRun]
  cases app.callFunction f (some payload) <;> rfl

/-- A class is called with the payload. -/
theorem processMessage_class (app : Application F C I) {type body : String} {c : C} {payload : Json}
    (hfound : handlers.lookup type = some (.cls c)) (hbody : rt.loads body = .ok payload) :
    ∃ rest, (processMessage rt app handlers type body []).state = .called (.cls c) (some payload) :: rest := by
  rw [processMessage_callable hfound rfl, hbody, awaitCall_noted rfl]
  cases app.construct c (some payload) <;> exact ⟨_, rfl⟩

theorem classRun_called (app : Application F C I) (c : C) (payload : Json) :
    ∃ rest, (classRun app c payload).1 = .called (.cls c) none :: rest := by
  unfold classRun
  cases app.construct c none with
  | ok i => exact ⟨_, rfl⟩
  | error e => exact ⟨_, rfl⟩

theorem processMessage_unregistered {type body : String} (h : handlers.lookup type = none) :
    processMessage rt app handlers type body [] =
      ⟨.error (.valueError ("No handler registered for event type: " ++ type)), [], []⟩ := by
  have hresolve : resolve handlers type =
      .error (.valueError ("No handler registered for event type: " ++ type)) := by
    unfold resolve
    rw [h]
  unfold processMessage
  rw [hresolve]
  rfl

/-- A class is callable, and is called with the body before `handle` is looked for. So a message is
dispatched just when the first handler registered for its type is not a class with `handle`. -/
theorem dispatched_iff {body : String} {payload : Json} (hbody : rt.loads body = .ok payload)
    (app : Application F C I) (history : List (Registration F C)) (type : String) :
    Dispatched app (firstFor app history type) payload
        (processMessage rt app (registry rt app history) type body []) ↔
      ∀ c, firstFor app history type = some (.cls c) → app.hasHandle c = false := by
  have hfirst : (registry rt app history).lookup type = firstFor app history type := registry_lookup history type
  constructor
  · intro h c hc
    rw [Bool.eq_false_iff]
    intro hhandle
    obtain ⟨rest, hcalled⟩ := processMessage_class app (hfirst.trans hc) hbody
    obtain ⟨rest', hinstance⟩ := classRun_called app c payload
    have hsame := congrArg Prod.fst (h.cls c hc hhandle)
    rw [hcalled, hinstance] at hsame
    cases hsame
  · intro h
    refine ⟨fun f hf => processMessage_function (hfirst.trans hf) hbody, fun c hc hhandle => ?_, fun hnone => ?_⟩
    · rw [h c hc] at hhandle
      cases hhandle
    · rw [processMessage_unregistered (hfirst.trans hnone)]
      exact ⟨rfl, _, rfl⟩

theorem awaitCall_never_handles (handler : Registered F C) (decoded : Except Exc Json) (i : I) (payload : Json) :
    .handled i payload ∉ (awaitCall app handler decoded []).state := by
  have hnoted : ∀ (decoded : Json) (outcome : Except Exc I),
      callHandler app (some decoded) handler = noted (.called handler (some decoded)) outcome →
      .handled i payload ∉ (awaitCall app handler (.ok decoded) []).state := by
    intro decoded outcome h
    rw [awaitCall_noted h]
    cases outcome <;> simp [callOutcome]
  cases decoded with
  | error e => exact List.not_mem_nil
  | ok decoded =>
    cases handler with
    | function f => exact hnoted decoded _ rfl
    | cls c => exact hnoted decoded _ rfl
    | object typeName hasHandle => exact List.not_mem_nil

/-- No message has the `handle` of anything awaited: what is not callable cannot be instantiated. -/
theorem processMessage_never_handles (handlers : Handlers F C) (type body : String) (i : I) (payload : Json) :
    .handled i payload ∉ (processMessage rt app handlers type body []).state := by
  cases hfound : handlers.lookup type with
  | none =>
    rw [processMessage_unregistered hfound]
    exact List.not_mem_nil
  | some handler =>
    cases handler with
    | function | cls =>
      rw [processMessage_callable hfound rfl]
      exact awaitCall_never_handles _ _ i payload
    | object typeName hasHandle =>
      unfold processMessage resolve
      rw [hfound]
      cases hasHandle <;> exact List.not_mem_nil

/-- The handlers of the identity model are what is callable here. -/
def asHandler (app : Application F C I) (handler : Registered F C) : Handler := fun payload ambient =>
  ((awaitCall app handler (.ok payload) []).result, ambient)

/-- Where what is registered is callable, a message ends as in the identity model. -/
theorem processMessage_identity {type body : String} {ambient : Auth.Ambient}
    (hcallable : ∀ handler, handlers.lookup type = some handler → handler.callable = true) :
    (Message.processMessage rt (fun type => (resolve handlers type).map (asHandler app)) type body ambient).result =
      (processMessage rt app handlers type body []).result := by
  cases hfound : handlers.lookup type with
  | none =>
    rw [processMessage_unregistered hfound]
    simp only [Message.processMessage, resolve, hfound]
    rfl
  | some handler =>
    rw [processMessage_callable hfound (hcallable handler hfound)]
    simp only [Message.processMessage, resolve, hfound]
    cases rt.loads body <;> rfl

end Dispatch

/-! ## Registered functions and classes, by their names -/

/-- Each function takes one argument, and each constructor none. -/
def namedApplication : Application String String String where
  callFunction f argument := match argument with
    | some _ => .ok f
    | none => .error (.typeError (f ++ "() missing 1 required positional argument"))
  construct c argument := match argument with
    | none => .ok c
    | some _ => .error (.typeError (c ++ "() takes no arguments"))
  await _ := .ok ()
  hasHandle _ := true
  handle _ _ := .ok ()

def orderRuntime : Runtime :=
  { asciiRuntime with loads := fun body => if body = "[1]" then .ok (.arr [.int 1]) else .error .jsonDecode }

/-- The second function for an event type is refused, and the first is run. -/
theorem dispatched_function :
    (processMessage orderRuntime namedApplication
      (registry orderRuntime namedApplication [.register (.str "OrderPlaced") (.function "place"),
        .setupServices (.ok ()) [(.str "OrderPlaced", .function "other"), (.int 1, .function "bare")]])
      "OrderPlaced" "[1]" []).state = [.called (.function "place") (some (.arr [.int 1])), .awaited "place"] := by
  have hbody : orderRuntime.loads "[1]" = .ok (.arr [.int 1]) := rfl
  have hrun := (dispatched_iff hbody namedApplication
    [.register (.str "OrderPlaced") (.function "place"),
      .setupServices (.ok ()) [(.str "OrderPlaced", .function "other"), (.int 1, .function "bare")]]
    "OrderPlaced").mpr (fun c hc => by cases hc)
  exact congrArg Prod.fst (hrun.function "place" rfl)

/-- A class that `setup_services` accepts is called with the body, which its constructor does not take. -/
theorem class_not_dispatched : ¬ ∀ (history : List (Registration String String)) (type body : String)
    (payload : Json), orderRuntime.loads body = .ok payload →
    Dispatched namedApplication (firstFor namedApplication history type) payload
      (processMessage orderRuntime namedApplication (registry orderRuntime namedApplication history) type body []) := by
  intro h
  have hhandled := (h [.setupServices (.ok ()) [(.str "OrderPlaced", .cls "OrderHandler")]] "OrderPlaced" "[1]"
    (.arr [.int 1]) rfl).cls "OrderHandler" rfl rfl
  have hresult := congrArg Prod.snd hhandled
  cases hresult

end BlocksGenesis.Message.EventRegistry
