import IntegrationOrchestrator.Foundation.Isoformat
import IntegrationOrchestrator.Foundation.Table
import IntegrationOrchestrator.Domain.Contracts
import IntegrationOrchestrator.Domain.JsonFields
import IntegrationOrchestrator.Webhooks.Signatures

namespace IntegrationOrchestrator

inductive WebhookProcessingStatus where
  | received | processed | duplicate | deferred | rejected | failed | abandoned
  deriving DecidableEq, Repr

/-- What an adapter makes of a webhook. It has an event id, and its time an
offset. -/
structure ReportedEvent extends NormalizedWebhookEvent where
  providerEventId : String
  eventType : String
  occurredAt : Isoformat.Datetime
  externalReference : Option String := none
  correlationId : Option CorrelationId := none
  payloadMetadata : Payload := []
  identified : providerEventId ≠ "" := by decide
  aware : occurredAt.offset.isSome = true := by decide
  valid : occurredAt.Valid := by decide

/-- The reserved key of a receipt's payload. -/
def normalizedMetadataKey : String := "_normalized"

namespace ReportedEvent

def errorSummary (error : ProviderErrorInfo) : Payload :=
  [("code", .str error.code), ("message", .str error.message), ("category", .str error.category.value),
    ("retryable", .bool error.retryable), ("provider_code", .ofText error.providerCode)]

/-- What is kept of an event to process it again. -/
def summary (event : ReportedEvent) : Payload :=
  [("status", .str event.normalizedStatus.value),
    ("occurred_at", .str (String.ofList (Isoformat.isoformat event.occurredAt))),
    ("provider_reference", .ofText event.providerReference),
    ("external_reference", .ofText event.externalReference)] ++
  match event.error with
  | none => []
  | some error => [("error", .obj (errorSummary error))]

/-- `_receipt_payload`: the adapter's metadata and the summary. -/
def receiptPayload (event : ReportedEvent) : Payload :=
  event.payloadMetadata.merge [(normalizedMetadataKey, .obj event.summary)]

end ReportedEvent

structure WebhookReceipt where
  id : UUID
  provider : ProviderSlug
  eventId : String
  eventType : String
  payload : Payload
  signatureMetadata : SignatureMetadata
  receivedAt : Instant
  providerReference : Option String := none
  correlationId : Option CorrelationId := none
  processingStatus : WebhookProcessingStatus := .received
  integrationRequestId : Option UUID := none
  processedAt : Option Instant := none
  failureReason : Option String := none
  attemptCount : Nat := 0
  nextAttemptAt : Option Instant := none

namespace WebhookReceipt

def markProcessed (receipt : WebhookReceipt) (now : Instant) (integrationRequestId : Option UUID) :
    WebhookReceipt :=
  { receipt with
    processingStatus := .processed, processedAt := some now, failureReason := none, nextAttemptAt := none
    integrationRequestId := integrationRequestId.or receipt.integrationRequestId }

/-- The provider redelivered an event that was already applied. -/
def markDuplicate (receipt : WebhookReceipt) (now : Instant) : WebhookReceipt :=
  { receipt with processingStatus := .duplicate, processedAt := some now, nextAttemptAt := none }

/-- Verification failed. Retained as evidence, never processed. -/
def markRejected (receipt : WebhookReceipt) (reason : String) (now : Instant) : WebhookReceipt :=
  { receipt with
    processingStatus := .rejected, processedAt := some now, failureReason := some reason, nextAttemptAt := none }

/-- Hold a verified webhook that cannot yet be correlated. -/
def markDeferred (receipt : WebhookReceipt) (reason : String) (nextAttemptAt : Instant) : WebhookReceipt :=
  { receipt with
    processingStatus := .deferred, failureReason := some reason, attemptCount := receipt.attemptCount + 1
    nextAttemptAt := some nextAttemptAt, processedAt := none }

def markFailed (receipt : WebhookReceipt) (reason : String) (now : Instant) : WebhookReceipt :=
  { receipt with
    processingStatus := .failed, failureReason := some reason, attemptCount := receipt.attemptCount + 1
    processedAt := some now }

/-- Give up on a deferred receipt that never found its request. -/
def markAbandoned (receipt : WebhookReceipt) (reason : String) (now : Instant) : WebhookReceipt :=
  { receipt with
    processingStatus := .abandoned, failureReason := some reason, processedAt := some now, nextAttemptAt := none }

def isSettled (receipt : WebhookReceipt) : Bool :=
  receipt.processingStatus ∈ [.processed, .duplicate, .rejected, .abandoned]

/-- `receipt_update_values`: the columns an update writes. -/
def updateRow (receipt row : WebhookReceipt) : WebhookReceipt :=
  { row with
    processingStatus := receipt.processingStatus, integrationRequestId := receipt.integrationRequestId
    providerReference := receipt.providerReference, failureReason := receipt.failureReason
    attemptCount := receipt.attemptCount, processedAt := receipt.processedAt
    nextAttemptAt := receipt.nextAttemptAt }

/-- The unique constraint of the table. -/
def isFor (provider : ProviderSlug) (eventId : String) (receipt : WebhookReceipt) : Bool :=
  receipt.provider = provider && receipt.eventId = eventId

/-- The error of a summary. -/
def rehydrateError (data : Payload) : Except Exn ProviderErrorInfo := do
  let code ← ((data.get "code").getD (.str "provider_error")).text
  let message ← ((data.get "message").getD (.str "")).text
  let category ← ((data.get "category").getD (.str ErrorCategory.internal.value)).member
    ErrorCategory.members ErrorCategory.value
  let providerCode ← Json.optionalText (data.get "provider_code")
  return { code := code, message := message, category := category
           retryable := ((data.get "retryable").getD (.bool false)).truth, providerCode := providerCode }

def optionalError : Option Json → Except Exn (Option ProviderErrorInfo)
  | some (.obj data) => (rehydrateError data).map some
  | _ => .ok none

/-- `datetime.fromisoformat`. -/
def readTime (value : Json) : Except Exn { time : Isoformat.Datetime // time.Valid } := do
  let text ← value.text
  match read : Isoformat.fromisoformat text.toList with
  | none => .error .unexpected
  | some time => .ok ⟨time, Isoformat.valid_of_fromisoformat read⟩

/-- The constructor's own checks. -/
def checkedEvent (report : NormalizedWebhookEvent) (providerEventId eventType : String)
    (occurredAt : { time : Isoformat.Datetime // time.Valid }) (externalReference : Option String)
    (correlationId : Option CorrelationId) (payloadMetadata : Payload) : Except Exn ReportedEvent :=
  if identified : providerEventId ≠ "" then
    if aware : occurredAt.1.offset.isSome = true then .ok
      { toNormalizedWebhookEvent := report, providerEventId := providerEventId, eventType := eventType
        occurredAt := occurredAt.1, externalReference := externalReference, correlationId := correlationId
        payloadMetadata := payloadMetadata, identified := identified, aware := aware, valid := occurredAt.2 }
    else .error (.validation "webhook timestamps must be timezone-aware")
  else .error (.validation "a normalized webhook event requires a provider event id")

/-- The event of a receipt with a summary. -/
def rehydrateSummary (receipt : WebhookReceipt) (normalized : Payload) : Except Exn ReportedEvent := do
  let error ← optionalError (normalized.get "error")
  let status ← (← normalized.item "status").member NormalizedStatus.members NormalizedStatus.value
  let occurredAt ← readTime (← normalized.item "occurred_at")
  let reference ← Json.optionalText (normalized.get "provider_reference")
  let externalReference ← Json.optionalText (normalized.get "external_reference")
  checkedEvent
    { provider := receipt.provider, normalizedStatus := status, error := error
      providerReference := if truthy reference then reference else receipt.providerReference }
    receipt.eventId receipt.eventType occurredAt externalReference receipt.correlationId
    (receipt.payload.filter (·.1 ≠ normalizedMetadataKey))

/-- Rebuild the event a receipt was created from. -/
def rehydrateEvent (receipt : WebhookReceipt) : Except Exn ReportedEvent :=
  match receipt.payload.get normalizedMetadataKey with
  | some (.obj normalized) => receipt.rehydrateSummary normalized
  | _ => .error (.validation "this receipt has no normalized summary and cannot be reprocessed")

/-- A rebuilt event belongs to the receipt's provider and carries its event id. -/
theorem rehydrateEvent_ok {receipt : WebhookReceipt} {event : ReportedEvent}
    (run : receipt.rehydrateEvent = .ok event) :
    event.provider = receipt.provider ∧ event.providerEventId = receipt.eventId := by
  unfold rehydrateEvent at run
  split at run
  · simp only [rehydrateSummary, Rows.bind_eq_ok] at run
    obtain ⟨_, -, _, -, _, -, _, -, _, -, _, -, _, -, checked⟩ := run
    unfold checkedEvent at checked
    split at checked
    · split at checked
      · cases checked
        exact ⟨rfl, rfl⟩
      · cases checked
    · cases checked
  · cases run

end WebhookReceipt

end IntegrationOrchestrator
