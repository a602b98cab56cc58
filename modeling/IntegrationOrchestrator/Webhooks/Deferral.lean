import IntegrationOrchestrator.Journal.Entries
import IntegrationOrchestrator.Store.ReceiptRows
import IntegrationOrchestrator.Webhooks.Settlement

namespace IntegrationOrchestrator

open IntegrationRequest Mutator

/-! ### Processing a receipt, with the rows it writes -/

/-- What `process_receipt` commits. -/
inductive ProcessedReceipt where
  | deferred (receipt : WebhookReceipt) (audit : AuditEvent ReceiptAction)
  | unchanged (receipt : WebhookReceipt) (request : IntegrationRequest) (audit : AuditEvent AuditAction)
  | applied (receipt : WebhookReceipt) (request : IntegrationRequest) (transition : StatusTransition)
      (audit : AuditEvent AuditAction) (event : OutboxEvent)

/-- What a webhook does to its request: the request as it is left, the
transition, the audit row, and the outbox event. A deferred one does nothing. -/
def ProcessedReceipt.effect : ProcessedReceipt →
    Option (IntegrationRequest × Option StatusTransition × AuditEvent AuditAction × Option OutboxEvent)
  | .deferred _ _ => none
  | .unchanged _ request audit => some (request, none, audit, none)
  | .applied _ request transition audit event => some (request, some transition, audit, some event)

def webhookActor : Actor := { type := .webhook }

namespace ReportedEvent

variable (event : ReportedEvent)

/-- `_resolve_request`. -/
def resolve (db : Database) : Option IntegrationRequest :=
  if truthy event.providerReference then
    db.requestByProviderReference event.provider (event.providerReference.getD "")
  else none

/-- The metadata of a report that carried no progress. -/
def ignoredMetadata (current : RequestStatus) : Payload :=
  [("provider_event_id", .str event.providerEventId), ("reported_status", .str event.normalizedStatus.value),
    ("current_status", .str current.value)]

def appliedMetadata : Payload :=
  [("provider_event_id", .str event.providerEventId), ("event_type", .str event.eventType),
    ("reported_status", .str event.normalizedStatus.value)]

def deferredMetadata (attempt : Nat) (nextAttemptAt : Instant) : Payload :=
  [("provider", .str event.provider.value), ("provider_reference", .ofText event.providerReference),
    ("attempt", .int attempt), ("next_attempt_at", .str (isoText nextAttemptAt))]

end ReportedEvent

/-- `_defer`. -/
def deferReceipt (deferredRetry : Int) (receipt : WebhookReceipt) (event : ReportedEvent) (input : Input) :
    ProcessedReceipt :=
  let nextAttemptAt := input.readings.now + deferredRetry
  let receipt := receipt.markDeferred "no integration request matches this provider reference yet" nextAttemptAt
  let correlationId := (receipt.correlationId.or event.correlationId).getD (.generate (input.newId 0))
  .deferred receipt (auditForWebhook (input.newId 1) receipt.id .deferred correlationId
    input.readings.recordedAt (event.deferredMetadata receipt.attemptCount nextAttemptAt))

/-- `process_receipt`. -/
def processReceipt (deferredRetry : Int) (receipt : WebhookReceipt) (event : ReportedEvent) (input : Input)
    (db : Database) : Except Exn ProcessedReceipt :=
  match event.resolve db with
  | none => .ok (deferReceipt deferredRetry receipt event input)
  | some request => do
    let (made, q) ← call (applyNormalizedStatus event.normalizedStatus input.readings.now event.providerReference
      (event.error.map ProviderErrorInfo.toFailureDetail)) request
    let receipt := receipt.markProcessed input.readings.now (some request.id)
    match made with
    | none =>
      -- the row of the request is not written
      let row := actionRecord request .webhookDuplicateIgnored webhookActor input.readings.recordedAt
      return .unchanged receipt request
        (row.audit (input.newId 0) request.correlationId (event.ignoredMetadata request.status))
    | some made =>
      let _ ← db.updateRequest q
      let row := transitionRecord q made .webhookApplied webhookActor true
      return .applied receipt q made (row.audit (input.newId 0) q.correlationId event.appliedMetadata)
        (transitionEvent (input.newId 1) (input.newId 2) q made (some event.providerEventId))

/-- A unit of work of the system as far as `process_receipt` determines it. -/
def WebhookState.processed {Digest : Type} (s : WebhookState Digest) (event : ReportedEvent) (input : Input) :
    ProcessedReceipt → WebhookStep Digest
  | .deferred receipt _ => .ok ((s.updateReceipt receipt).recordReceipt receipt.id .deferred, [])
  | .unchanged receipt request _ =>
    .ok ({ s with core := s.core.recorded [actionRecord request .webhookDuplicateIgnored webhookActor
      input.readings.recordedAt] }.updateReceipt receipt, [])
  | .applied receipt request transition _ _ =>
    (s.core.savedRequest request [transitionRecord request transition .webhookApplied webhookActor true]).map
      fun core => ({ { s with core := core }.updateReceipt receipt with
          applied := s.applied ++ [(event.provider, event.providerEventId)] },
        [.core (.onRequestTerminal request.id), .core .hookGuard])

/-! ### The event a receipt was created from -/

/-- What processing reads of an event, beside its correlation id. The delay a
provider asked for is not among it: a failure detail does not carry one. -/
structure ReportedEvent.SameReport (event rebuilt : ReportedEvent) : Prop where
  provider : rebuilt.provider = event.provider
  normalizedStatus : rebuilt.normalizedStatus = event.normalizedStatus
  providerReference : rebuilt.providerReference = event.providerReference
  providerEventId : rebuilt.providerEventId = event.providerEventId
  eventType : rebuilt.eventType = event.eventType
  failure : rebuilt.error.map ProviderErrorInfo.toFailureDetail = event.error.map ProviderErrorInfo.toFailureDetail

/-- The receipt holds what `_persist_receipt` wrote of the event. -/
structure WebhookReceipt.BuiltFrom (receipt : WebhookReceipt) (event : ReportedEvent) : Prop where
  provider : receipt.provider = event.provider
  eventId : receipt.eventId = event.providerEventId
  eventType : receipt.eventType = event.eventType
  payload : receipt.payload = event.receiptPayload
  providerReference : receipt.providerReference = event.providerReference
  correlated : receipt.correlationId.isSome = true

namespace WebhookReceipt

variable {event rebuilt : ReportedEvent} {receipt receipt' : WebhookReceipt}

theorem rehydrateError_summary (error : ProviderErrorInfo) :
    rehydrateError (ReportedEvent.errorSummary error) = .ok { error with retryAfterSeconds := none } := by
  have category := Json.member_value (ErrorCategory.memberOf_value error.category)
  simp [rehydrateError, ReportedEvent.errorSummary, Payload.get_cons, Json.truth, category, Bind.bind, Except.bind,
    Pure.pure, Except.pure]

/-- The summary's entries. -/
theorem get_summary (event : ReportedEvent) :
    event.summary.get "status" = some (.str event.normalizedStatus.value) ∧
      event.summary.get "occurred_at" = some (.str (String.ofList (Isoformat.isoformat event.occurredAt))) ∧
      event.summary.get "provider_reference" = some (.ofText event.providerReference) ∧
      event.summary.get "external_reference" = some (.ofText event.externalReference) ∧
      event.summary.get "error" = event.error.map fun error => .obj (ReportedEvent.errorSummary error) := by
  cases failed : event.error <;> simp [ReportedEvent.summary, failed, Payload.get_cons]

theorem optionalError_summary (error : Option ProviderErrorInfo) :
    optionalError (error.map fun error => .obj (ReportedEvent.errorSummary error)) =
      .ok (error.map fun error => { error with retryAfterSeconds := none }) := by
  cases error with
  | none => rfl
  | some error => simp [optionalError, rehydrateError_summary, Except.map]

theorem readTime_isoformat {time : Isoformat.Datetime} (valid : time.Valid) :
    readTime (.str (String.ofList (Isoformat.isoformat time))) = .ok ⟨time, valid⟩ := by
  have read := Isoformat.fromisoformat_isoformat valid
  simp only [readTime, Json.text_str, Bind.bind, Except.bind]
  split
  · rename_i failed
    rw [String.toList_ofList, read] at failed
    cases failed
  · rename_i time' read'
    rw [String.toList_ofList, read] at read'
    cases read'
    rfl

/-- A receipt gives back what processing reads of its event. -/
theorem BuiltFrom.rehydrates (built : receipt.BuiltFrom event) :
    ∃ rebuilt, receipt.rehydrateEvent = .ok rebuilt ∧ event.SameReport rebuilt := by
  obtain ⟨status, occurred, reference, external, failed⟩ := get_summary event
  have stored : receipt.payload.get normalizedMetadataKey = some (.obj event.summary) := by
    rw [built.payload, ReportedEvent.receiptPayload, Payload.get_merge, Payload.get_cons, if_pos rfl, Option.some_or]
  have known := Json.member_value (NormalizedStatus.memberOf_value event.normalizedStatus)
  have named : receipt.eventId ≠ "" := built.eventId ▸ event.identified
  -- the reference of the summary, or of the column if it is falsy: both are the event's
  have kept : (if truthy event.providerReference then event.providerReference else receipt.providerReference) =
      event.providerReference := by
    rw [built.providerReference, ite_self]
  simp only [rehydrateEvent, stored, rehydrateSummary, Payload.item, status, occurred, reference, external, failed,
    optionalError_summary, known, readTime_isoformat event.valid, Json.optionalText_ofText, kept, checkedEvent, named,
    event.aware, Bind.bind, Except.bind, ne_eq, not_false_eq_true, dite_true]
  refine ⟨_, rfl, built.provider, rfl, rfl, built.eventId, built.eventType, ?_⟩
  cases event.error <;> rfl

theorem BuiltFrom.newReceipt {id : UUID} {webhook : InboundWebhook} {metadata : SignatureMetadata}
    {correlationId : CorrelationId} (own : event.provider = webhook.provider) :
    (WebhookFrame.newReceipt id webhook event metadata correlationId).BuiltFrom event :=
  { provider := own.symm, eventId := rfl, eventType := rfl, payload := rfl, providerReference := rfl
    correlated := by simp [WebhookFrame.newReceipt] }

/-- Nothing that happens to a receipt later touches what was written of the event. -/
theorem BuiltFrom.life (built : receipt.BuiltFrom event) (operations : List ReceiptOperation) :
    (receipt.life operations).BuiltFrom event := by
  obtain ⟨fixed, reference⟩ := @life_keeps receipt operations
  simp only [fixedColumns, Prod.mk.injEq] at fixed
  obtain ⟨-, provider, eventId, eventType, payload, -, -, correlationId⟩ := fixed
  exact ⟨provider.trans built.provider, eventId.trans built.eventId, eventType.trans built.eventType,
    payload.trans built.payload, reference.trans built.providerReference, correlationId ▸ built.correlated⟩

end WebhookReceipt

section processing

variable {event rebuilt : ReportedEvent} {receipt receipt' : WebhookReceipt}

/-- Events that make the same report are processed alike. -/
theorem processReceipt_sameReport (same : event.SameReport rebuilt) (correlated : receipt.correlationId.isSome = true)
    (deferredRetry : Int) (input : Input) (db : Database) :
    processReceipt deferredRetry receipt rebuilt input db = processReceipt deferredRetry receipt event input db := by
  have resolved : rebuilt.resolve db = event.resolve db := by
    simp only [ReportedEvent.resolve, same.provider, same.providerReference]
  have known : ∀ other, (receipt.correlationId.or other) = receipt.correlationId := by
    obtain ⟨correlationId, found⟩ := Option.isSome_iff_exists.mp correlated
    intro other
    rw [found, Option.some_or]
  simp only [processReceipt, deferReceipt, resolved, same.normalizedStatus, same.providerReference, same.failure,
    same.provider, same.providerEventId, same.eventType, ReportedEvent.ignoredMetadata, ReportedEvent.appliedMetadata,
    ReportedEvent.deferredMetadata, WebhookReceipt.markDeferred, known]

/-- The receipt does not decide what happens to the request. -/
theorem processReceipt_effect (deferredRetry : Int) (input : Input) (db : Database) :
    (processReceipt deferredRetry receipt event input db).map ProcessedReceipt.effect =
      (processReceipt deferredRetry receipt' event input db).map ProcessedReceipt.effect := by
  unfold processReceipt
  cases event.resolve db with
  | none => rfl
  | some request =>
    cases ran : call (applyNormalizedStatus event.normalizedStatus input.readings.now event.providerReference
      (event.error.map ProviderErrorInfo.toFailureDetail)) request with
    | error e => simp [ran, Bind.bind, Except.bind, Except.map]
    | ok out =>
      obtain ⟨made, q⟩ := out
      cases made with
      | none => simp [ran, Bind.bind, Except.bind, Except.map, Pure.pure, Except.pure, ProcessedReceipt.effect]
      | some made =>
        cases written : db.updateRequest q <;>
          simp [ran, written, Bind.bind, Except.bind, Except.map, Pure.pure, Except.pure, ProcessedReceipt.effect]

end processing

/-- A deferred webhook acts like an immediate one. A receipt that was built
from an event, stored, changed in any way and reloaded gives back an event
that has the same effect on the same request as the original one, whenever
both are processed; and the receipt ends in the same state and is audited
alike. -/
theorem deferred_acts_like_immediate {webhook : InboundWebhook} {event : ReportedEvent}
    (own : event.provider = webhook.provider) (id : UUID) (metadata : SignatureMetadata)
    (correlationId : CorrelationId) (operations : List ReceiptOperation) (rows : ReceiptRows) :
    ∃ reloaded rebuilt,
      ((rows.add (WebhookFrame.newReceipt id webhook event metadata correlationId)).update
        ((WebhookFrame.newReceipt id webhook event metadata correlationId).life operations)).load id =
          .ok (some reloaded) ∧
      reloaded.rehydrateEvent = .ok rebuilt ∧
      ∀ deferredRetry input db,
        (processReceipt deferredRetry reloaded rebuilt input db).map ProcessedReceipt.effect =
          (processReceipt deferredRetry (WebhookFrame.newReceipt id webhook event metadata correlationId) event
            input db).map ProcessedReceipt.effect ∧
        processReceipt deferredRetry reloaded rebuilt input db =
          processReceipt deferredRetry reloaded event input db := by
  have built : (WebhookFrame.newReceipt id webhook event metadata correlationId).BuiltFrom event := .newReceipt own
  have fixed := (@WebhookReceipt.life_keeps (WebhookFrame.newReceipt id webhook event metadata correlationId)
    operations).1
  have later := built.life operations
  obtain ⟨rebuilt, rehydrated, same⟩ := later.rehydrates
  refine ⟨_, rebuilt, ReceiptRows.load_update_add fixed event.identified, rehydrated, fun deferredRetry input db => ?_⟩
  have alike := processReceipt_sameReport same later.correlated deferredRetry input db
  exact ⟨alike ▸ processReceipt_effect deferredRetry input db, alike⟩

namespace Sample

/-- A failure that names no operation yet, with a delay that is not kept, and
metadata under the reserved key. -/
def reportedFailure : ReportedEvent :=
  { provider := northstar.provider, normalizedStatus := .failed, providerReference := some "op-1"
    error := some { code := "rejected", message := "", category := .providerValidation, retryable := false
                    retryAfterSeconds := some 30 }
    providerEventId := "event-held", eventType := "operation.failed", occurredAt := .utc 1
    payloadMetadata := [("attempt", .int 1), (normalizedMetadataKey, .null)] }

end Sample

/-- A failure report is held, deferred twice, and rebuilt. -/
theorem deferred_acts_like_immediate_failure :
    ∃ reloaded rebuilt,
      ((ReceiptRows.add .empty (WebhookFrame.newReceipt 300 Sample.northstar Sample.reportedFailure
        { scheme := "hmac" } Sample.correlationId)).update
        ((WebhookFrame.newReceipt 300 Sample.northstar Sample.reportedFailure { scheme := "hmac" }
          Sample.correlationId).life [.markDeferred "early" 2, .markDeferred "early" 3])).load 300 =
          .ok (some reloaded) ∧
      reloaded.rehydrateEvent = .ok rebuilt ∧
      ∀ deferredRetry input db,
        (processReceipt deferredRetry reloaded rebuilt input db).map ProcessedReceipt.effect =
          (processReceipt deferredRetry (WebhookFrame.newReceipt 300 Sample.northstar Sample.reportedFailure
            { scheme := "hmac" } Sample.correlationId) Sample.reportedFailure
            input db).map ProcessedReceipt.effect ∧
        processReceipt deferredRetry reloaded rebuilt input db =
          processReceipt deferredRetry reloaded Sample.reportedFailure input db :=
  @deferred_acts_like_immediate Sample.northstar Sample.reportedFailure rfl 300 { scheme := "hmac" }
    Sample.correlationId [.markDeferred "early" 2, .markDeferred "early" 3] .empty

end IntegrationOrchestrator
