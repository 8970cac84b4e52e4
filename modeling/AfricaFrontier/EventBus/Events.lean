import AfricaFrontier.Payments.PaymentRoute
import AfricaFrontier.Python.JsonRoundTrip

/-!
# Events (`event_bus/event_schema.py`, `redis_producer.py`, `worker.py`)

An event is published as the JSON text of its dump, in the one field of a stream entry;
the worker is handed what `json.loads` makes of that field, and writes one line of its log.

The worker takes anything, and raises on what is no event.  What the producer wrote it
reads back as it was (`handleEvent_modelDump`): one line for each event, which says what the
event says.

The schema is the source's: eight types of events, an id and a time as texts, and a payload. The
producer writes `model_dump(mode="json")` with `json.dumps`; the worker reads the entry with
`json.loads` and takes it apart with `get`. Between the two stands the JSON round trip of the
library, for payloads that Python holds: no key twice, and floats as `repr` writes them.
-/

namespace AfricaFrontier

open Python

/-! ## The schema -/

/-- `EventType`. -/
inductive EventType
  | paymentInitiated
  | paymentCompleted
  | paymentFailed
  | tradeExecuted
  | tradeFailed
  | copyTradeStarted
  | copyTradeStopped
  | userOnboarded
  | walletUpdated
  | settlementBatchCreated
  | settlementBatchCompleted
  deriving DecidableEq

/-- The text of a type. -/
def EventType.value : EventType → String
  | .paymentInitiated => "payment.initiated"
  | .paymentCompleted => "payment.completed"
  | .paymentFailed => "payment.failed"
  | .tradeExecuted => "trade.executed"
  | .tradeFailed => "trade.failed"
  | .copyTradeStarted => "copy_trade.started"
  | .copyTradeStopped => "copy_trade.stopped"
  | .userOnboarded => "user.onboarded"
  | .walletUpdated => "wallet.updated"
  | .settlementBatchCreated => "settlement.batch_created"
  | .settlementBatchCompleted => "settlement.batch_completed"

/-- `EventMetadata`; the id and the time are the texts the clock gave. -/
structure EventMetadata where
  eventId : String
  timestamp : String
  source : String := "afm"
  version : String := "1.0"

/-- `BaseEvent`, its payload as the dump has it. -/
structure BaseEvent where
  metadata : EventMetadata
  eventType : EventType
  payload : Obj

/-- The dump of the metadata. -/
def EventMetadata.modelDump (metadata : EventMetadata) : Obj :=
  [("event_id", .str metadata.eventId), ("timestamp", .str metadata.timestamp),
    ("source", .str metadata.source), ("version", .str metadata.version)]

/-- `model_dump(mode="json")`. -/
def BaseEvent.modelDump (event : BaseEvent) : Obj :=
  [("metadata", .obj event.metadata.modelDump), ("event_type", .str event.eventType.value),
    ("payload", .obj event.payload)]

/-- The fields `EventProducer.publish` adds to the stream; `none` where `json.dumps` raises. -/
def BaseEvent.fields (event : BaseEvent) : Option (List (String × String)) :=
  ((Json.obj event.modelDump).dumps .spaced false).map fun message => [("data", message)]

/-- An event that can be published: its payload is a dict of values Python holds, and is
written. -/
structure PublishedEvent (nearest : Bool → ℚ → PyFloat) where
  event : BaseEvent
  held : (Json.obj event.payload).Held nearest
  fields : List (String × String)
  published : event.fields = some fields

/-! ## The handler -/

/-- The levels the worker logs at. -/
inductive LogLevel
  | info
  | warning
  deriving DecidableEq

/-- A line of the log. -/
structure LogLine where
  level : LogLevel
  event : String
  fields : Obj

/-- `handle_event` of what was decoded; `none` when it raises. -/
def handleEvent : Json → Option LogLine
  | .obj data =>
      let eventType := Obj.get data "event_type"
      let payload := Obj.getD data "payload" (.obj [])
      -- a payload that is no object makes `payload.get` raise
      if eventType = .str EventType.paymentCompleted.value then
        match payload with
        | .obj p =>
            some ⟨.info, "Payment completed — ready for settlement",
              [("transaction_id", Obj.get p "transaction_id"), ("amount", Obj.get p "amount"),
                ("currency", Obj.get p "currency")]⟩
        | _ => none
      else if eventType = .str EventType.paymentFailed.value then
        match payload with
        | .obj p =>
            some ⟨.warning, "Payment failed",
              [("transaction_id", Obj.get p "transaction_id"), ("currency", Obj.get p "currency")]⟩
        | _ => none
      else if eventType = .str EventType.tradeExecuted.value ∨
          eventType = .str EventType.tradeFailed.value then
        some ⟨.info, "Trade event received", [("event_type", eventType), ("payload", payload)]⟩
      else some ⟨.warning, "Unhandled event type", [("event_type", eventType)]⟩
  | _ => none

/-- What the log is to say of an event. It is stated on the event and not on the text of the
entry, so that it can be compared with what the worker logs. -/
def BaseEvent.logLine (event : BaseEvent) : LogLine :=
  match event.eventType with
  | .paymentCompleted =>
      ⟨.info, "Payment completed — ready for settlement",
        [("transaction_id", event.payload.get "transaction_id"),
          ("amount", event.payload.get "amount"), ("currency", event.payload.get "currency")]⟩
  | .paymentFailed =>
      ⟨.warning, "Payment failed",
        [("transaction_id", event.payload.get "transaction_id"),
          ("currency", event.payload.get "currency")]⟩
  | .tradeExecuted | .tradeFailed =>
      ⟨.info, "Trade event received",
        [("event_type", .str event.eventType.value), ("payload", .obj event.payload)]⟩
  | _ => ⟨.warning, "Unhandled event type", [("event_type", .str event.eventType.value)]⟩

/-- The handler never raises on an event, and logs what the event says. -/
theorem handleEvent_modelDump (event : BaseEvent) :
    handleEvent (.obj event.modelDump) = some event.logLine := by
  have htype : event.modelDump.get "event_type" = .str event.eventType.value := rfl
  have hpayload : event.modelDump.getD "payload" (.obj []) = .obj event.payload := rfl
  simp only [handleEvent, htype, hpayload, BaseEvent.logLine]
  cases event.eventType <;> rfl

section Published

variable {nearest : Bool → ℚ → PyFloat}

/-- The dump of an event is what Python holds, where its payload is. -/
theorem BaseEvent.held_modelDump {event : BaseEvent}
    (h : (Json.obj event.payload).Held nearest) : (Json.obj event.modelDump).Held nearest := by
  have hmetadata : (Json.obj event.metadata.modelDump).Held nearest :=
    ⟨by simp [EventMetadata.modelDump], trivial, trivial, trivial, trivial, trivial⟩
  exact ⟨by simp [BaseEvent.modelDump], hmetadata, trivial, h, trivial⟩

/-- **An event is read as it was written**, from the field it was written to. -/
theorem PublishedEvent.loadsText_data (event : PublishedEvent nearest) :
    ∃ message, event.fields = [("data", message)] ∧
      loadsText nearest message = some (.obj event.event.modelDump) := by
  obtain ⟨message, hmessage, hfields⟩ := Option.map_eq_some_iff.mp event.published
  exact ⟨message, hfields.symm, loadsText_dumps (BaseEvent.held_modelDump event.held) hmessage⟩

/-- Text is always written. -/
theorem writableFields_text (fields : List (String × String)) :
    Json.writableFields (fields.map fun f => (f.1, .str f.2)) = true := by
  induction fields with
  | nil => rfl
  | cons f rest ih => exact ih

/-- Texts are held. -/
theorem heldFields_text (fields : List (String × String)) :
    Json.HeldFields nearest (fields.map fun f => (f.1, .str f.2)) := by
  induction fields with
  | nil => trivial
  | cons f rest ih => exact ⟨trivial, ih⟩

/-- An event whose payload is text can be published, since texts are held. -/
def PublishedEvent.text (metadata : EventMetadata) (eventType : EventType)
    (payload : List (String × String)) (hkeys : (payload.map Prod.fst).Nodup) :
    PublishedEvent nearest where
  event := ⟨metadata, eventType, payload.map fun f => (f.1, .str f.2)⟩
  held := ⟨by simpa [List.map_map, Function.comp_def] using hkeys, heldFields_text payload⟩
  fields := [("data", String.ofList ((Json.obj (BaseEvent.modelDump
    ⟨metadata, eventType, payload.map fun f => (f.1, .str f.2)⟩)).encode .spaced))]
  published := by
    have hwritable : (Json.obj (BaseEvent.modelDump
        ⟨metadata, eventType, payload.map fun f => (f.1, .str f.2)⟩)).writable = true := by
      simp [BaseEvent.modelDump, EventMetadata.modelDump, Json.writable, Json.writableFields,
        writableFields_text]
    simp only [BaseEvent.fields, Json.dumps, if_pos hwritable]
    rfl

end Published

/-! ## The events of payments

Their payloads are text, so that they can always be published. -/

/-- The two payloads: `process_payment` and `create_payment` name the same fields in two
orders. -/
def PaymentEvent.payload (event : PaymentEvent) : List (String × String) :=
  match event.eventType with
  | .initiated =>
      [("transaction_id", event.transactionId), ("amount", event.amount),
        ("currency", event.currency), ("psp", event.psp), ("user_id", digitsText event.userId),
        ("status", event.status)]
  | _ =>
      [("transaction_id", event.transactionId), ("user_id", digitsText event.userId),
        ("amount", event.amount), ("currency", event.currency), ("status", event.status),
        ("psp", event.psp)]

/-- The type of a payment event. -/
def PaymentEventType.eventType : PaymentEventType → EventType
  | .initiated => .paymentInitiated
  | .completed => .paymentCompleted
  | .failed => .paymentFailed

/-- No field is named twice. -/
theorem PaymentEvent.nodup_payload (event : PaymentEvent) :
    (event.payload.map Prod.fst).Nodup := by
  unfold PaymentEvent.payload
  split <;> simp

/-- A payment event as it is built. -/
def PaymentEvent.base (metadata : EventMetadata) (event : PaymentEvent) : BaseEvent where
  metadata := metadata
  eventType := event.eventType.eventType
  payload := event.payload.map fun f => (f.1, .str f.2)

/-- It can always be published. -/
def PaymentEvent.onBus (nearest : Bool → ℚ → PyFloat) (metadata : EventMetadata)
    (event : PaymentEvent) : PublishedEvent nearest :=
  .text metadata event.eventType.eventType event.payload event.nodup_payload

/-- What the worker logs of the events of a payment: the transaction has no id when it is
announced, and its status is not "completed" when it is returned. -/
theorem logLine_initiatedEvent (metadata : EventMetadata) (call : PaymentCall) (lockId : String)
    (psp : PSPType) :
    ((initiatedEvent (newTransaction call lockId psp)).base metadata).logLine =
      ⟨.warning, "Unhandled event type", [("event_type", .str "payment.initiated")]⟩ := rfl

/-- What the worker logs of the second event: it warns, since the object was never completed. -/
theorem logLine_outcomeEvent (metadata : EventMetadata) (call : PaymentCall) (lockId : String)
    (psp : PSPType) :
    ((outcomeEvent (newTransaction call lockId psp)).base metadata).logLine =
      ⟨.warning, "Payment failed",
        [("transaction_id", .str "None"), ("currency", .str (upper call.payment.currency))]⟩ :=
  rfl

end AfricaFrontier
