import IntegrationOrchestrator.Domain.Json
import IntegrationOrchestrator.Domain.Request
import IntegrationOrchestrator.Foundation.Isoformat

namespace IntegrationOrchestrator

/-- `_STATUS_EVENT_TYPES`. -/
def eventTypeForStatus : RequestStatus → String
  | .received => "integration.request.received.v1"
  | .validating => "integration.request.received.v1"
  | .dispatching => "integration.request.dispatched.v1"
  | .pending => "integration.request.pending.v1"
  | .succeeded => "integration.request.succeeded.v1"
  | .failed => "integration.request.failed.v1"
  | .retryScheduled => "integration.request.retry_scheduled.v1"
  | .cancelled => "integration.request.cancelled.v1"
  | .manualReview => "integration.request.manual_review.v1"

def currentEventVersion : Int := 1

/-- `isoformat` of an instant in UTC. -/
def isoText (instant : Instant) : String := String.ofList (Isoformat.isoformat (.utc instant))

/-- A key that is left out when its value is falsy. -/
def optionalField (key : String) : Option String → Payload
  | none => []
  | some value => if value = "" then [] else [(key, .str value)]

/-- The payload of a request lifecycle event: identifiers and state, never
the business payload. -/
def buildRequestEventPayload (requestId : UUID) (provider operationType externalReference : String)
    (status : RequestStatus) (previousStatus : Option RequestStatus) (occurredAt : Instant)
    (providerReference : Option String) (attemptCount : Int) (errorCode : Option String)
    (errorCategory : Option ErrorCategory) (nextRetryAt : Option Instant) : Payload :=
  [("request_id", .str (uuidText requestId)), ("provider", .str provider), ("operation_type", .str operationType),
    ("external_reference", .str externalReference), ("status", .str status.value),
    ("previous_status", .ofText (previousStatus.map (·.value))),
    ("provider_reference", .ofText providerReference), ("attempt_count", .int attemptCount),
    ("occurred_at", .str (isoText occurredAt))] ++
  optionalField "error_code" errorCode ++ optionalField "error_category" (errorCategory.map (·.value)) ++
  optionalField "next_retry_at" (nextRetryAt.map isoText)

end IntegrationOrchestrator
