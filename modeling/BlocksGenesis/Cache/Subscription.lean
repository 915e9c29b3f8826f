import BlocksGenesis.Message.Delivery
import BlocksGenesis.Python.Utf8

/-! The listener of one Redis channel: which messages reach its handler, and what ends it. -/

namespace BlocksGenesis.Cache
open Python BlocksGenesis.Message

/-- What a `RedisClient` may have as attributes of its own. -/
inductive Attribute where
  | blocksSecret | connectionString | subscriptions | disposed | pubsubTasks | redisConfig | syncClient
  | asyncClient | logger
deriving DecidableEq

/-- What `__init__` sets. `CacheClient`, the base class, sets nothing. -/
def constructed : List Attribute :=
  [.blocksSecret, .connectionString, .subscriptions, .disposed, .pubsubTasks, .redisConfig, .syncClient, .asyncClient]

/-- `self._logger.error(...)`. -/
def logError (attributes : List Attribute) : Except Exc Unit :=
  if .logger ∈ attributes then .ok ()
  else .error (.attributeError "'RedisClient' object has no attribute '_logger'")

inductive Payload where
  | text (s : String)
  | bytes (data : Octets)

/-- What `pubsub.listen` gives: a message of the channel, or a confirmation and the like, which the
loop passes over. -/
inductive PubSubItem where
  | message (channel data : Payload)
  | confirmation

/-- The messages a handler was called with, channel and data, in order. -/
abbrev Calls := List (String × String)

/-- What comes of the last of the calls. -/
abbrev ChannelHandler := Calls → Except Exc Unit

def Payload.decode : Payload → Except Exc String
  | .text s => .ok s
  | .bytes data =>
    match decodeUtf8 data with
    | some s => .ok s
    | none => .error (.other "UnicodeDecodeError")

/-- The `try` around a message: both are decoded before the handler is called. -/
def readMessage (channel data : Payload) : Except Exc (String × String) := do
  return (← channel.decode, ← data.decode)

/-- One message, with the `except` around it, which logs. -/
def handleMessage (attributes : List Attribute) (handler : ChannelHandler) (channel data : Payload)
    (calls : Calls) : Calls × Except Exc Unit :=
  match readMessage channel data with
  | .error _ => (calls, logError attributes)
  | .ok call =>
    match handler (calls ++ [call]) with
    | .ok _ => (calls ++ [call], .ok ())
    | .error _ => (calls ++ [call], logError attributes)

/-- The loop over what the channel has given so far, and what got out of it, if anything did. -/
def listenTo (attributes : List Attribute) (handler : ChannelHandler) : List PubSubItem → Calls → Calls × Option Exc
  | [], calls => (calls, none)
  | .confirmation :: items, calls => listenTo attributes handler items calls
  | .message channel data :: items, calls =>
    match handleMessage attributes handler channel data calls with
    | (calls, .ok _) => listenTo attributes handler items calls
    | (calls, .error e) => (calls, some e)

/-- What the loop was at when it ended: the stream had, or a message was being handled. -/
inductive EndedAt where
  | stream
  | message
deriving DecidableEq

/-- A listener: the calls of its handler, and how it ended, unless it still waits for the next message. -/
structure Listened where
  calls : Calls
  ended : Option (EndedAt × Ending)

/-- The `except` clauses around the loop. A cancellation is passed over. -/
def leaveLoop (attributes : List Attribute) : Ending → Ending
  | .returned | .interrupted => .returned
  | .raised _ =>
    match logError attributes with
    | .ok _ => .returned
    | .error e => .raised e

/-- The `finally`: what the clean-up of the pubsub raises goes on instead. -/
def cleanUp (cleanup ending : Ending) : Ending :=
  match cleanup with
  | .returned => ending
  | failed => failed

/-- `_handle_subscription`, on a stream that has given some items and has ended so, or is still open. -/
def handleSubscription (attributes : List Attribute) (handler : ChannelHandler) (items : List PubSubItem)
    (streamEnd : Option Ending) (cleanup : Ending) : Listened :=
  match listenTo attributes handler items [] with
  | (calls, some e) => ⟨calls, some (.message, cleanUp cleanup (leaveLoop attributes (.raised e)))⟩
  | (calls, none) => ⟨calls, streamEnd.map (fun ending => (.stream, cleanUp cleanup (leaveLoop attributes ending)))⟩

/-! ## Which messages are heard -/

def PubSubItem.decoded : PubSubItem → Option (String × String)
  | .confirmation => none
  | .message channel data => (readMessage channel data).toOption

/-- Every message that decodes was handled once, in order, and no message ended the loop. -/
structure Heard (items : List PubSubItem) (listened : Listened) : Prop where
  calls : listened.calls = items.filterMap PubSubItem.decoded
  lasts : ∀ ending, listened.ended ≠ some (.message, ending)

/-- After these calls, every message decodes and the handler returns from it. -/
def AllHandled (handler : ChannelHandler) : List PubSubItem → Calls → Prop
  | [], _ => True
  | .confirmation :: items, calls => AllHandled handler items calls
  | .message channel data :: items, calls =>
    ∃ call, readMessage channel data = .ok call ∧ handler (calls ++ [call]) = .ok () ∧
      AllHandled handler items (calls ++ [call])

section Listening
variable {attributes : List Attribute} {handler : ChannelHandler}

theorem logError_ok_iff : logError attributes = .ok () ↔ .logger ∈ attributes := by
  unfold logError
  split
  · rename_i h
    exact ⟨fun _ => h, fun _ => rfl⟩
  · rename_i h
    exact ⟨nofun, fun hm => absurd hm h⟩

/-- A message is added to the calls if it decodes, whatever comes of it. -/
theorem handleMessage_calls (channel data : Payload) (calls : Calls) :
    (handleMessage attributes handler channel data calls).1 =
      calls ++ (PubSubItem.message channel data).decoded.toList := by
  rw [handleMessage, PubSubItem.decoded]
  cases readMessage channel data with
  | error e => exact (List.append_nil calls).symm
  | ok call =>
    dsimp only
    cases handler (calls ++ [call]) <;> rfl

/-- A message stays inside the loop where an error can be logged, or none comes up. -/
theorem handleMessage_ok_iff (channel data : Payload) (calls : Calls) :
    (handleMessage attributes handler channel data calls).2 = .ok () ↔
      .logger ∈ attributes ∨ ∃ call, readMessage channel data = .ok call ∧ handler (calls ++ [call]) = .ok () := by
  rw [handleMessage]
  cases hread : readMessage channel data with
  | error e => simp [logError_ok_iff]
  | ok call =>
    dsimp only
    cases hcall : handler (calls ++ [call]) with
    | ok _ => simp [hcall]
    | error e => simp [hcall, logError_ok_iff]

theorem listenTo_message (channel data : Payload) (items : List PubSubItem) (calls : Calls) :
    listenTo attributes handler (.message channel data :: items) calls =
      match (handleMessage attributes handler channel data calls).2 with
      | .ok _ => listenTo attributes handler items (calls ++ (PubSubItem.message channel data).decoded.toList)
      | .error e => (calls ++ (PubSubItem.message channel data).decoded.toList, some e) := by
  rw [listenTo, ← handleMessage_calls]
  split <;> rename_i h <;> rw [h]

/-- A loop that takes all its items has called the handler with all that decode. -/
theorem listenTo_calls {items : List PubSubItem} {calls : Calls}
    (h : (listenTo attributes handler items calls).2 = none) :
    (listenTo attributes handler items calls).1 = calls ++ items.filterMap PubSubItem.decoded := by
  induction items generalizing calls with
  | nil => simp [listenTo]
  | cons item items ih =>
    cases item with
    | confirmation => exact ih h
    | message channel data =>
      rw [listenTo_message] at h ⊢
      split at h
      · rw [ih h, List.append_assoc, List.filterMap_cons]
        cases (PubSubItem.message channel data).decoded <;> rfl
      · cases h

/-- The loop takes all its items where errors can be logged, or none comes up. -/
theorem listenTo_none_iff {items : List PubSubItem} {calls : Calls} :
    (listenTo attributes handler items calls).2 = none ↔
      .logger ∈ attributes ∨ AllHandled handler items calls := by
  induction items generalizing calls with
  | nil => simp [listenTo, AllHandled]
  | cons item items ih =>
    cases item with
    | confirmation => exact ih
    | message channel data =>
      have hok := @handleMessage_ok_iff attributes handler channel data calls
      rw [listenTo_message, AllHandled]
      split
      · rename_i hresult
        rcases hok.mp hresult with hlogger | ⟨call, hread, hcall⟩
        · exact ⟨fun _ => .inl hlogger, fun _ => ih.mpr (.inl hlogger)⟩
        · have hdecoded : (PubSubItem.message channel data).decoded = some call := by
            rw [PubSubItem.decoded, hread]
            rfl
          rw [hdecoded]
          refine ih.trans (or_congr_right ⟨fun hrest => ⟨call, hread, hcall, hrest⟩, ?_⟩)
          rintro ⟨other, hother, _, hrest⟩
          cases hread.symm.trans hother
          exact hrest
      · rename_i e hresult
        refine ⟨nofun, fun h => ?_⟩
        have hfine : (handleMessage attributes handler channel data calls).2 = .ok () := by
          apply hok.mpr
          rcases h with hlogger | ⟨call, hread, hcall, _⟩
          · exact .inl hlogger
          · exact .inr ⟨call, hread, hcall⟩
        cases hresult.symm.trans hfine

/-- A listener hears all its channel says where errors can be logged, or none comes up. -/
theorem heard_iff (items : List PubSubItem) (streamEnd : Option Ending) (cleanup : Ending) :
    Heard items (handleSubscription attributes handler items streamEnd cleanup) ↔
      .logger ∈ attributes ∨ AllHandled handler items [] := by
  rw [← listenTo_none_iff]
  unfold handleSubscription
  have hcalls := @listenTo_calls attributes handler items []
  cases hlisten : listenTo attributes handler items [] with
  | mk calls escaped =>
    rw [hlisten] at hcalls
    cases escaped with
    | some e => exact ⟨fun h => absurd rfl (h.lasts _), nofun⟩
    | none =>
      refine ⟨fun _ => rfl, fun h => ⟨hcalls h, ?_⟩⟩
      intro ending hended
      cases streamEnd with
      | none => cases hended
      | some streamEnding => cases congrArg (Option.map Prod.fst) hended

end Listening

/-- On a client of its own constructor, a channel is heard exactly while every message decodes and the
handler returns from it: the branches for anything else ask for a logger that is not there. -/
theorem constructed_client_heard_iff (handler : ChannelHandler) (items : List PubSubItem)
    (streamEnd : Option Ending) (cleanup : Ending) :
    Heard items (handleSubscription constructed handler items streamEnd cleanup) ↔ AllHandled handler items [] := by
  rw [heard_iff]
  exact or_iff_right (by decide)

/-- A byte that is not UTF-8, then a message: it ends the listener of a stream that is still open. -/
theorem undecodable_message_silences_the_channel :
    let items := [.message (.text "tenants") (.bytes [0xff]), .message (.text "tenants") (.text "t")]
    let listened := handleSubscription constructed (fun _ => .ok ()) items none .returned
    listened.calls = [] ∧ items.filterMap PubSubItem.decoded = [("tenants", "t")] ∧
      listened.ended = some (.message, .raised (.attributeError "'RedisClient' object has no attribute '_logger'")) ∧
      ¬ Heard items listened := by
  refine ⟨rfl, rfl, rfl, fun h => ?_⟩
  exact h.lasts _ rfl

end BlocksGenesis.Cache
