import IntegrationOrchestrator.Application.Dispatcher
import IntegrationOrchestrator.Domain.Events
import IntegrationOrchestrator.Outbox.Publisher

namespace IntegrationOrchestrator

/-! The rows that `WorkflowJournal` writes about a request, with everything
they hold. -/

/-- An audit row. Requests and receipts have different actions. -/
structure AuditEvent (Action : Type) where
  id : UUID
  aggregateType : String
  aggregateId : String
  action : Action
  actor : ActorType
  correlationId : CorrelationId
  occurredAt : Instant
  previousState : Option String := none
  newState : Option String := none
  actorId : Option String := none
  metadata : Payload := []

/-- `AuditEvent.for_request`, of the row that the transactions record. -/
def RequestRecord.audit (row : RequestRecord) (id : UUID) (correlationId : CorrelationId) (metadata : Payload) :
    AuditEvent AuditAction :=
  { id := id, aggregateType := "integration_request", aggregateId := uuidText row.requestId, action := row.action
    actor := row.actor.type, correlationId := correlationId, occurredAt := row.occurredAt
    previousState := row.previous.map (·.value), newState := some row.new.value, actorId := row.actor.id
    metadata := metadata }

/-- `AuditEvent.for_webhook`. -/
def auditForWebhook {Action : Type} (id receiptId : UUID) (action : Action) (correlationId : CorrelationId)
    (occurredAt : Instant) (metadata : Payload) : AuditEvent Action :=
  { id := id, aggregateType := "webhook_receipt", aggregateId := uuidText receiptId, action := action
    actor := .webhook, correlationId := correlationId, occurredAt := occurredAt, metadata := metadata }

/-- The outbox row of `record_transition`. -/
def transitionEvent (id eventId : UUID) (q : IntegrationRequest) (made : StatusTransition)
    (causationId : Option String) : OutboxEvent :=
  { id := id, eventId := eventId, eventType := eventTypeForStatus made.newStatus
    eventVersion := currentEventVersion, aggregateType := "integration_request", aggregateId := uuidText q.id
    payload := buildRequestEventPayload q.id q.provider.value q.operationType.value q.externalReference.value
      made.newStatus (some made.previousStatus) made.occurredAt q.providerReference q.attemptCount
      q.lastErrorCode q.lastErrorCategory q.nextRetryAt
    correlationId := q.correlationId.value, createdAt := made.occurredAt, causationId := causationId
    partitionKey := some (uuidText q.id), version_pos := by decide }

end IntegrationOrchestrator
