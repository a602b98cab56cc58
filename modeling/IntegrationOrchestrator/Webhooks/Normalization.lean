import IntegrationOrchestrator.Providers.Bodies
import IntegrationOrchestrator.Webhooks.Evidence

namespace IntegrationOrchestrator

/-! ### What the adapters read in a body -/

/-- What an adapter reads in the body of a webhook. -/
structure Notice where
  eventId : String
  eventType : String
  status : NormalizedStatus
  occurred : Option String
  reference : Option String
  externalReference : Option String
  correlation : Json
  metadata : Payload
  error : Option ProviderErrorInfo

/-- `WebhookPayloadError`. -/
def payloadError : NormalizeFailure := .refused "webhook_payload_invalid"

section adapters

variable (python : Interpreter) (body : Payload)

def Northstar.eventStatus : List (String × NormalizedStatus) :=
  [("operation.completed", .succeeded), ("operation.failed", .failed), ("operation.progressed", .pending)]

def Cobalt.eventStatus : List (String × NormalizedStatus) :=
  [("job.succeeded", .succeeded), ("job.failed", .failed), ("job.cancelled", .cancelled), ("job.started", .pending)]

def Northstar.read : Except NormalizeFailure Notice :=
  let eventId := body.value "event_id"
  let eventType := body.value "event_type"
  let data := (body.value "data").dictionary
  if eventId.truth && eventType.truth && (body.value "data").isDict then
    -- the status of the state is computed even where the type decides
    match mapField (data.value "state") statusMap with
    | none => .error (.raised .unexpected)
    | some stated =>
      let status := (eventStatus.lookup (python.str eventType)).getD stated
      let message := (data.get "error_message").getD (.str "Northstar reported the operation failed")
      let correlation := data.value "correlation_id"
      .ok
        { eventId := python.str eventId, eventType := python.str eventType, status := status
          occurred := python.asStr (body.value "occurred_at"), reference := python.asStr (data.value "operation_id")
          externalReference := python.asStr (data.value "reference")
          correlation := if correlation.truth then correlation else body.value "correlation_id"
          metadata := [("event_type", .str (python.str eventType)),
            ("state", .ofText (python.asStr (data.value "state"))),
            ("reference", .ofText (python.asStr (data.value "reference")))]
          error := if status = .failed then
              some (reportedFailure (python.str message) (python.asStr (data.value "error_code")))
            else none }
  else .error payloadError

def Meridian.read : Except NormalizeFailure Notice :=
  let eventId := body.firstPresent ["notificationId", "notification_id", "eventId"]
  let eventType := body.firstPresent ["notificationType", "type", "eventType"]
  let status := python.asStr (body.firstPresent ["status", "state", "requestStatus"])
  if eventId.truth && eventType.truth then .ok
    { eventId := python.str eventId, eventType := python.str eventType, status := mapStatus status statusMap
      occurred := python.asStr (body.firstPresent ["occurredAt", "occurred_at", "timestamp"])
      reference := python.asStr (body.firstPresent ["requestId", "request_id", "serviceRequestId"])
      externalReference := python.asStr (body.firstPresent ["customerRef", "customer_ref"])
      correlation := body.firstPresent ["correlationId", "correlation_id"]
      metadata := [("notification_type", .str (python.str eventType)), ("status", .ofText status)]
      error := if mapStatus status statusMap = .failed then some (failure python body) else none }
  else .error payloadError

/-- `(value or {}).get(key)`; `none` when the value has no `get`. -/
def Json.getOrEmpty (value : Json) (key : String) : Option Json :=
  if value.isDict || ¬ value.truth then some (value.dictionary.value key) else none

def Cobalt.read : Except NormalizeFailure Notice :=
  let eventId := body.firstPresent ["id", "event_id"]
  let eventType := body.firstPresent ["type", "event_type"]
  let job := (body.value "job").dictionary
  let stated := python.asStr (job.value "status")
  let status := (eventStatus.lookup (python.str eventType)).getD (mapStatus stated statusMap)
  if eventId.truth && eventType.truth then
    match if job.isEmpty then some .null else (job.value "trace").getOrEmpty "correlation_id" with
    | none => .error (.raised .unexpected)
    | some correlation => .ok
      { eventId := python.str eventId, eventType := python.str eventType, status := status
        occurred := python.asStr (body.value "created_at")
        reference := python.asStr (job.firstPresent ["job_id", "jobId", "id"])
        externalReference := python.asStr ((job.value "subject").dictionary.value "external_id")
        correlation := correlation
        metadata := [("event_type", .str (python.str eventType)), ("job_status", .ofText stated)]
        error := if status = .failed then some (failure python job) else none }
  else .error payloadError

def Adapter.read : Adapter → Except NormalizeFailure Notice
  | .northstar => Northstar.read python body
  | .meridian => Meridian.read python body
  | .cobalt => Cobalt.read python body

/-- The body names its event, so it is read further. -/
def Adapter.identifies : Adapter → Bool
  | .northstar => (body.value "event_id").truth && (body.value "event_type").truth && (body.value "data").isDict
  | .meridian => (body.firstPresent ["notificationId", "notification_id", "eventId"]).truth &&
      (body.firstPresent ["notificationType", "type", "eventType"]).truth
  | .cobalt => (body.firstPresent ["id", "event_id"]).truth && (body.firstPresent ["type", "event_type"]).truth

/-- The fields that are used without a look at their type hold one that
serves: Northstar's state is a text or null, Cobalt's trace an object or false. -/
def Adapter.serves : Adapter → Bool
  | .northstar => ((body.value "data").dictionary.value "state").isStatus
  | .meridian => true
  | .cobalt =>
    let job := (body.value "job").dictionary
    job.isEmpty || (job.value "trace").isDict || ¬ (job.value "trace").truth

variable {python body}

/-- Reading fails with another exception exactly on those two fields. -/
theorem Adapter.read_cases (adapter : Adapter) :
    (adapter.identifies body = false ∧ adapter.read python body = .error payloadError) ∨
    (adapter.identifies body = true ∧ adapter.serves body = false ∧
      ∃ e, adapter.read python body = .error (.raised e)) ∨
    (adapter.identifies body = true ∧ adapter.serves body = true ∧ ∃ notice, adapter.read python body = .ok notice) := by
  cases identified : adapter.identifies body with
  | false =>
    refine .inl ⟨rfl, ?_⟩
    cases adapter <;> exact if_neg (ne_true_of_eq_false identified)
  | true =>
    refine .inr ?_
    simp only [true_and]
    cases adapter with
    | northstar =>
      simp only [identifies] at identified
      simp only [serves, read, Northstar.read, identified, if_true, ← mapField_isSome _ Northstar.statusMap]
      cases mapField (Payload.value (body.value "data").dictionary "state") Northstar.statusMap with
      | none => exact .inl ⟨rfl, _, rfl⟩
      | some stated => exact .inr ⟨rfl, _, rfl⟩
    | meridian => exact .inr ⟨rfl, _, if_pos identified⟩
    | cobalt =>
      simp only [identifies] at identified
      simp only [serves, read, Cobalt.read, identified, if_true, Json.getOrEmpty]
      cases (body.value "job").dictionary.isEmpty with
      | true => exact .inr ⟨rfl, _, rfl⟩
      | false =>
        simp only [Bool.false_or, Bool.false_eq_true, if_false]
        cases (Payload.value (body.value "job").dictionary "trace").isDict ||
            decide ¬ (Payload.value (body.value "job").dictionary "trace").truth = true with
        | true => exact .inr ⟨rfl, _, rfl⟩
        | false => exact .inl ⟨rfl, _, rfl⟩

end adapters

/-! ### The event, and the columns of its receipt -/

/-- A timestamp with an offset. -/
abbrev AwareTime := { time : Isoformat.Datetime // time.Valid ∧ time.offset.isSome = true }

/-- The texts of a receipt, with the width of their columns. The payload is a
document, whose texts may be of any length. -/
def columns (eventId eventType : String) (reference correlation externalReference : Option String)
    (metadata : Payload) (error : Option ProviderErrorInfo) : List (Option Nat × String) :=
  (some 255, eventId) :: (some 128, eventType) :: reference.toList.map (some 255, ·) ++
    (correlation.toList ++ externalReference.toList ++ metadata.filterMap (fun field => field.2.text.toOption) ++
      (error.map (·.message)).toList ++ (error.bind (·.providerCode)).toList).map (none, ·)

/-- The database takes the text: it is not too long, and no character is NUL. -/
def fits (column : Option Nat × String) : Bool :=
  column.1.all (fun width => column.2.length ≤ width) && column.2.toList.all (fun c => c.toNat ≠ 0)

/-- The event can be stored as a receipt. -/
def ReportedEvent.storable (event : ReportedEvent) : Bool :=
  (columns event.providerEventId event.eventType event.providerReference (event.correlationId.map (·.value))
    event.externalReference event.payloadMetadata event.error).all fits

section normalization

variable (python : Interpreter) (occurred : Option String → Instant → AwareTime) (webhook : InboundWebhook)

/-- `_decode_body`. -/
def Interpreter.decodeBody (raw : Bytes) : Except NormalizeFailure Payload :=
  match python.loads raw with
  | .value (.obj body) => .ok body
  | .value _ | .malformed => .error payloadError
  | .tooManyDigits | .tooDeep => .error (.raised .unexpected)

/-- `str(correlation) if correlation else None`. -/
def Notice.correlationText (notice : Notice) : Option String :=
  if notice.correlation.truth then some (python.str notice.correlation) else none

def Notice.correlationId (notice : Notice) : Except NormalizeFailure (Option CorrelationId) :=
  match notice.correlationText python with
  | none => .ok none
  | some text => match CorrelationId.new text with
    | .ok id => .ok (some id)
    | .error _ => .error (.refused "validation_failed")

/-- The constructor of the event, which checks the id once more. -/
def Notice.event (notice : Notice) (correlationId : Option CorrelationId) : Except NormalizeFailure ReportedEvent :=
  -- `parse_timestamp(text) or webhook.received_at`
  let time := occurred notice.occurred webhook.receivedAt
  if identified : notice.eventId ≠ "" then .ok
    { provider := webhook.provider, normalizedStatus := notice.status, providerReference := notice.reference
      error := notice.error, providerEventId := notice.eventId, eventType := notice.eventType
      occurredAt := time.1, externalReference := notice.externalReference, correlationId := correlationId
      payloadMetadata := notice.metadata, identified := identified, aware := time.2.2, valid := time.2.1 }
  else .error (.refused "validation_failed")

/-- `normalize_webhook` of the adapter that is registered for the provider. -/
def normalizeWebhook (adapter : Adapter) : Except NormalizeFailure ReportedEvent := do
  let body ← python.decodeBody webhook.body
  let notice ← adapter.read python body
  let correlationId ← notice.correlationId python
  notice.event occurred webhook correlationId

/-- The constructors refuse what was read. -/
def Notice.refused (notice : Notice) : Bool :=
  notice.eventId = "" || (notice.correlationText python).any fun text => text = "" || 128 < text.length

/-- What was read fits the columns of a receipt. -/
def Notice.storable (notice : Notice) : Bool :=
  (columns notice.eventId notice.eventType notice.reference (notice.correlationText python) notice.externalReference
    notice.metadata notice.error).all fits

/-- A body that causes no other failure than a refusal: it stays within the
limits of the interpreter, the fields that are used as they are serve, and what
is read and not refused fits its columns. -/
def Adapter.Readable (adapter : Adapter) : Prop :=
  python.loads webhook.body ≠ .tooManyDigits ∧ python.loads webhook.body ≠ .tooDeep ∧
    ∀ body, python.loads webhook.body = .value (.obj body) → adapter.identifies body = true →
      adapter.serves body = true ∧ ∀ notice, adapter.read python body = .ok notice →
        notice.refused python = false → notice.storable python = true

/-- The outcome is an event that can be stored, or a validation error. -/
def settles : Except NormalizeFailure ReportedEvent → Bool
  | .ok event => event.storable
  | .error (.refused _) => true
  | .error (.raised _) => false

variable {python occurred webhook}

theorem Notice.settles_iff (notice : Notice) :
    settles (do notice.event occurred webhook (← notice.correlationId python)) = true ↔
      (notice.refused python = false → notice.storable python = true) := by
  unfold correlationId refused storable
  cases notice.correlationText python with
  | none =>
    by_cases empty : notice.eventId = ""
    · simp [event, empty, settles, bind, Except.bind]
    · simp [event, empty, settles, bind, Except.bind, ReportedEvent.storable]
  | some text =>
    by_cases valid : text ≠ "" ∧ text.length ≤ 128
    · by_cases empty : notice.eventId = ""
      · simp [event, empty, settles, bind, Except.bind, CorrelationId.new, valid]
      · simp [event, empty, settles, bind, Except.bind, CorrelationId.new, valid, ReportedEvent.storable]
    · simp [settles, bind, Except.bind, CorrelationId.new, valid]

theorem normalizeWebhook_settles_iff (adapter : Adapter) :
    settles (normalizeWebhook python occurred webhook adapter) = true ↔ adapter.Readable python webhook := by
  unfold normalizeWebhook Adapter.Readable Interpreter.decodeBody
  cases loaded : python.loads webhook.body with
  | malformed | tooManyDigits | tooDeep => simp [settles, bind, Except.bind, payloadError]
  | value json =>
    cases json with
    | obj body =>
      rcases @Adapter.read_cases python body adapter with ⟨unnamed, read⟩ | ⟨named, unserved, e, read⟩ |
        ⟨named, serves, notice, read⟩
      · simp [read, unnamed, settles, bind, Except.bind, payloadError]
      · simp [read, named, unserved, settles, bind, Except.bind]
      · have settles := @Notice.settles_iff python occurred webhook notice
        simpa [read, named, serves, bind, Except.bind] using settles
    | _ => simp [settles, bind, Except.bind, payloadError]

end normalization

/-! ### What `execute` leaves behind -/

theorem normalizeWebhook_provider {python : Interpreter} {occurred : Option String → Instant → AwareTime}
    {webhook : InboundWebhook} {adapter : Adapter} {event : ReportedEvent}
    (read : normalizeWebhook python occurred webhook adapter = .ok event) : event.provider = webhook.provider := by
  obtain ⟨body, _, read⟩ := Rows.bind_eq_ok.mp read
  obtain ⟨notice, _, read⟩ := Rows.bind_eq_ok.mp read
  obtain ⟨correlationId, _, read⟩ := Rows.bind_eq_ok.mp read
  dsimp only [Notice.event] at read
  split at read
  · cases read
    rfl
  · cases read

section deliveries

variable {Digest : Type}

/-- The deployment, with the adapters' own `normalize_webhook`. -/
def WebhookSettings.reading (settings : WebhookSettings Digest) (python : Interpreter)
    (occurred : Option String → Instant → AwareTime) : WebhookSettings Digest :=
  { settings with
    normalize := fun webhook => match settings.adapter webhook.provider with
      | none => .error (.raised (.providerNotConfigured webhook.provider.value))
      | some (adapter, _) => normalizeWebhook python occurred webhook adapter
    normalize_provider := by
      intro webhook event read
      split at read
      · cases read
      · exact normalizeWebhook_provider read
    normalize_event := fun _ event _ => event.identified }

variable [DecidableEq Digest]

/-- After the guard, whatever other tasks do in between: the delivery is
recorded as rejected, or as an event that can be stored, unless a receipt of
the event is there already. -/
def EndsInReceipt (settings : WebhookSettings Digest) (webhook : InboundWebhook) (metadata : SignatureMetadata)
    (correlationId : CorrelationId) : Prop :=
  (∃ reason, WebhookFrame.normalized settings webhook metadata correlationId =
      [.recordRejection webhook metadata reason correlationId] ∧
    ∀ input (s : WebhookState Digest), s.Unused (input.core.newId 0) → ∃ s' receipt,
      (webhookSystem settings).exec (.recordRejection webhook metadata reason correlationId) input s = .ok (s', []) ∧
      s'.receipts.get (input.core.newId 0) = some receipt ∧ receipt.processingStatus = .rejected) ∨
  ∃ event, WebhookFrame.normalized settings webhook metadata correlationId =
      [.persistReceipt webhook event metadata correlationId] ∧ event.storable = true ∧
    (∀ input (s : WebhookState Digest), (s.findByEventId webhook.provider event.providerEventId).isSome = true ∨
      (webhookSystem settings).exec (.persistReceipt webhook event metadata correlationId) input s =
        .ok (s, [.insertReceipt webhook event metadata correlationId])) ∧
    ∀ input (s : WebhookState Digest), s.receipts.get (input.core.newId 0) = none → ∃ s' pushed,
      (webhookSystem settings).exec (.insertReceipt webhook event metadata correlationId) input s = .ok (s', pushed) ∧
      (s'.findByEventId webhook.provider event.providerEventId).isSome = true

variable {settings : WebhookSettings Digest} {webhook : InboundWebhook} {metadata : SignatureMetadata}
  {correlationId : CorrelationId} {event : ReportedEvent} {input : WebhookInput} {s : WebhookState Digest}

theorem insertReceipt_recorded (unused : s.receipts.get (input.core.newId 0) = none) :
    ∃ s' pushed, (webhookSystem settings).exec (.insertReceipt webhook event metadata correlationId) input s =
        .ok (s', pushed) ∧ (s'.findByEventId webhook.provider event.providerEventId).isSome = true := by
  simp only [webhookSystem, WebhookFrame.exec, WebhookFrame.execInsertReceipt, if_neg event.identified]
  split
  · rename_i conflict
    -- the identifier is new, so the event is what is there already
    refine ⟨_, _, rfl, ?_⟩
    simpa [WebhookState.conflicts, WebhookFrame.newReceipt, unused] using conflict
  · refine ⟨_, _, rfl, List.find?_isSome.mpr ⟨_, Table.mem_rows_iff.mpr (Table.get_put_self ..), ?_⟩⟩
    simp [WebhookReceipt.isFor, WebhookFrame.newReceipt]

end deliveries

namespace Sample

/-- An interpreter that reads this in every body. -/
def loading (json : Json) : Interpreter where
  loads _ := .value json
  str
    | .str text => text
    | _ => "5"

def occurred (_ : Option String) (_ : Instant) : AwareTime := ⟨.utc 0, by decide⟩

/-- A completed operation of Northstar, with this state. -/
def completion (eventId : String) (state : Json) : Json :=
  .obj [("event_id", .str eventId), ("event_type", .str "operation.completed"),
    ("data", .obj [("operation_id", .str "op-1"), ("state", state)])]

/-- A finished job of Cobalt, with this trace. -/
def finished (trace : Json) : Json :=
  .obj [("id", .str "event-1"), ("type", .str "job.succeeded"), ("job", .obj [("job_id", .str "op-1"), ("trace", trace)])]

end Sample

end IntegrationOrchestrator
