import IntegrationOrchestrator.System.Program
import IntegrationOrchestrator.Webhooks.Receipts
import IntegrationOrchestrator.Webhooks.ReplayGuard

namespace IntegrationOrchestrator

/-- How an adapter fails on a webhook it cannot read: with a validation error,
of which the code is kept, or with any other exception. -/
inductive NormalizeFailure where
  | refused (code : String)
  | raised (e : Exn)

/-- The deployment of the orchestrator and of webhook ingestion. -/
structure WebhookSettings (Digest : Type) where
  core : Settings
  builtins : Builtins Digest
  guard : ReplayGuardSettings
  adapter : ProviderSlug → Option (Adapter × WebhookConfig)
  /-- `normalize_webhook` of the provider's adapter, which names its own slug
  and refuses a body without an event id. -/
  normalize : InboundWebhook → Except NormalizeFailure ReportedEvent
  normalize_provider : ∀ webhook event, normalize webhook = .ok event → event.provider = webhook.provider
  normalize_event : ∀ webhook event, normalize webhook = .ok event → event.providerEventId ≠ ""
  /-- `timedelta(seconds=webhook_deferred_retry_seconds)`. -/
  deferredRetry : Int
  deferredAbandonAfterSeconds : Int

inductive ReceiptAction where
  | received | duplicateIgnored | rejected | deferred | abandoned
  deriving DecidableEq, Repr

/-- An audit row about a receipt. -/
structure ReceiptRecord where
  receiptId : UUID
  action : ReceiptAction
  deriving DecidableEq

/-- The orchestrator's database with the receipts, the keys in Redis, and the
events journalled as applied. -/
structure WebhookState (Digest : Type) where
  core : State := {}
  receipts : Table WebhookReceipt.id := .empty
  guard : GuardStore Digest := []
  records : List ReceiptRecord := []
  applied : List (ProviderSlug × String) := []

structure WebhookInput where
  core : Input
  redisReachable : Bool

/-- The units of work of ingestion and of its worker, beside those of the
orchestrator. A frame that processes a receipt carries its own copy of it. -/
inductive WebhookFrame where
  | core (frame : Frame)
  | ingest (webhook : InboundWebhook) (correlationId : CorrelationId)
  | recordRejection (webhook : InboundWebhook) (metadata : SignatureMetadata) (reason : String)
      (correlationId : CorrelationId)
  | persistReceipt (webhook : InboundWebhook) (event : ReportedEvent) (metadata : SignatureMetadata)
      (correlationId : CorrelationId)
  | insertReceipt (webhook : InboundWebhook) (event : ReportedEvent) (metadata : SignatureMetadata)
      (correlationId : CorrelationId)
  | rereadDuplicate (provider : ProviderSlug) (eventId : String)
  | processReceipt (receipt : WebhookReceipt) (event : ReportedEvent)
  | claimDeferred (receiptId : UUID)
  | processDeferred (receipt : WebhookReceipt)
  | abandonReceipt (receipt : WebhookReceipt) (reason : String)

abbrev WebhookStep (Digest : Type) := Except Exn (WebhookState Digest × List WebhookFrame)

namespace WebhookState

variable {Digest : Type}

def findByEventId (s : WebhookState Digest) (provider : ProviderSlug) (eventId : String) :
    Option WebhookReceipt := s.receipts.rows.find? (WebhookReceipt.isFor provider eventId)

/-- The insert would break a unique constraint. -/
def conflicts (s : WebhookState Digest) (receipt : WebhookReceipt) : Bool :=
  (s.receipts.get receipt.id).isSome || (s.findByEventId receipt.provider receipt.eventId).isSome

def addReceipt (s : WebhookState Digest) (receipt : WebhookReceipt) (action : ReceiptAction) :
    WebhookState Digest :=
  { s with receipts := s.receipts.put receipt, records := s.records ++ [⟨receipt.id, action⟩] }

/-- `webhooks.update`: the columns of the copy go to the row of its id, with
no look at what the row holds. -/
def updateReceipt (s : WebhookState Digest) (receipt : WebhookReceipt) : WebhookState Digest :=
  { s with receipts := match s.receipts.get receipt.id with
      | none => s.receipts
      | some row => s.receipts.put (receipt.updateRow row) }

def recordReceipt (s : WebhookState Digest) (receiptId : UUID) (action : ReceiptAction) : WebhookState Digest :=
  { s with records := s.records ++ [⟨receiptId, action⟩] }

/-- `_resolve_request`: by provider reference only. -/
def resolveRequest (s : WebhookState Digest) (event : ReportedEvent) : Option IntegrationRequest :=
  if truthy event.providerReference then
    s.core.db.requestByProviderReference event.provider (event.providerReference.getD "")
  else none

end WebhookState

namespace WebhookFrame

variable {Digest : Type} [DecidableEq Digest] (settings : WebhookSettings Digest)

/-- After the guard: normalize, and record what was read. -/
def normalized (webhook : InboundWebhook) (metadata : SignatureMetadata) (correlationId : CorrelationId) :
    List WebhookFrame :=
  match settings.normalize webhook with
  | .ok event => [.persistReceipt webhook event metadata correlationId]
  | .error (.refused code) =>
    [.recordRejection webhook metadata ("normalization failed: " ++ code) correlationId]
  | .error (.raised e) => [.core (.raise e)]

/-- `execute` up to the claim of the signature. -/
def execIngest (webhook : InboundWebhook) (correlationId : CorrelationId) (input : WebhookInput)
    (s : WebhookState Digest) : WebhookStep Digest :=
  match settings.adapter webhook.provider with
  | none => .error (.providerNotConfigured webhook.provider.value)
  | some (adapter, config) =>
    match validateWebhook settings.builtins config webhook adapter with
    | none => .error .typeError
    | some verification =>
      let metadata := verification.signatureMetadata
      if ¬ verification.verified then
        .ok (s, [.recordRejection webhook metadata (verification.reason.getD "signature verification failed")
          correlationId])
      else match extractSignatureHeader webhook.headers with
        | none => .ok (s, normalized settings webhook metadata correlationId)
        | some signature =>
          let (passed, guard) := s.guard.claim settings.builtins settings.guard
            ⟨webhook.provider, signature, input.core.readings.now, input.redisReachable⟩
          if passed then .ok ({ s with guard := guard }, normalized settings webhook metadata correlationId)
          else .ok ({ s with guard := guard }, [.recordRejection webhook metadata
            "signature replay detected within the dedupe window" correlationId])

/-- The event id is made up: an unverified body must not choose it. -/
def execRecordRejection (webhook : InboundWebhook) (metadata : SignatureMetadata) (reason : String)
    (correlationId : CorrelationId) (input : WebhookInput) (s : WebhookState Digest) : WebhookStep Digest :=
  let id := input.core.newId 0
  let receipt : WebhookReceipt :=
    { id := id, provider := webhook.provider, eventId := "unverified:" ++ uuidText id, eventType := "unverified"
      payload := [("body_bytes", .int webhook.body.length)], signatureMetadata := metadata
      receivedAt := webhook.receivedAt
      correlationId := some correlationId }
  let receipt := receipt.markRejected reason input.core.readings.now
  if s.conflicts receipt then .error .integrity else .ok (s.addReceipt receipt .rejected, [])

/-- `_persist_receipt` up to the insert. -/
def execPersistReceipt (webhook : InboundWebhook) (event : ReportedEvent) (metadata : SignatureMetadata)
    (correlationId : CorrelationId) (s : WebhookState Digest) : WebhookStep Digest :=
  match s.findByEventId webhook.provider event.providerEventId with
  | some existing =>
    if existing.isSettled then .ok (s.recordReceipt existing.id .duplicateIgnored, [])
    -- an earlier attempt did not finish
    else .ok (s, [.processReceipt existing event])
  | none => .ok (s, [.insertReceipt webhook event metadata correlationId])

def newReceipt (id : UUID) (webhook : InboundWebhook) (event : ReportedEvent) (metadata : SignatureMetadata)
    (correlationId : CorrelationId) : WebhookReceipt :=
  { id := id, provider := webhook.provider, eventId := event.providerEventId, eventType := event.eventType
    payload := event.receiptPayload, signatureMetadata := metadata, receivedAt := webhook.receivedAt
    providerReference := event.providerReference
    correlationId := event.correlationId.or (some correlationId) }

/-- The insert, flushed and committed before any processing; a concurrent
delivery of the same event may have won the race. -/
def execInsertReceipt (webhook : InboundWebhook) (event : ReportedEvent) (metadata : SignatureMetadata)
    (correlationId : CorrelationId) (input : WebhookInput) (s : WebhookState Digest) : WebhookStep Digest :=
  if event.providerEventId = "" then .error (.validation "a webhook receipt requires a provider event id")
  else
    let receipt := newReceipt (input.core.newId 0) webhook event metadata correlationId
    if s.conflicts receipt then .ok (s, [.rereadDuplicate webhook.provider event.providerEventId])
    else .ok (s.addReceipt receipt .received, [.processReceipt receipt event])

def execRereadDuplicate (provider : ProviderSlug) (eventId : String) (s : WebhookState Digest) :
    WebhookStep Digest :=
  match s.findByEventId provider eventId with
  | none => .error (.conflict "a concurrent delivery of this event is still being recorded")
  | some _ => .ok (s, [])

/-- `process_receipt`. The request side is the orchestrator's own unit of
work; its hook follows an applied report only. -/
def execProcessReceipt (receipt : WebhookReceipt) (event : ReportedEvent) (input : WebhookInput)
    (s : WebhookState Digest) : WebhookStep Digest :=
  let now := input.core.readings.now
  match s.resolveRequest event with
  | none =>
    let receipt := receipt.markDeferred "no integration request matches this provider reference yet"
      (now + settings.deferredRetry)
    .ok ((s.updateReceipt receipt).recordReceipt receipt.id .deferred, [])
  | some request =>
    match Frame.exec settings.core (.processWebhook event.toNormalizedWebhookEvent) input.core s.core with
    | .error e => .error e
    | .ok (orchestrated, next) =>
      let s := { s with core := orchestrated }.updateReceipt (receipt.markProcessed now (some request.id))
      if next.isEmpty then .ok (s, [])
      else .ok ({ s with applied := s.applied ++ [(event.provider, event.providerEventId)] }, next.map .core)

/-- `claim_deferred`: the row is locked and released again, unchanged. -/
def execClaimDeferred (receiptId : UUID) (input : WebhookInput) (s : WebhookState Digest) : WebhookStep Digest :=
  match s.receipts.get receiptId with
  | none => .ok (s, [])
  | some receipt =>
    if receipt.processingStatus = .deferred &&
        receipt.nextAttemptAt.any (fun due => due ≤ input.core.readings.now) then
      .ok (s, [.processDeferred receipt])
    else .ok (s, [])

/-- `_process` of the worker. -/
def execProcessDeferred (receipt : WebhookReceipt) (input : WebhookInput) (s : WebhookState Digest) :
    WebhookStep Digest :=
  if settings.deferredAbandonAfterSeconds * 1000000 < input.core.readings.now - receipt.receivedAt then
    .ok (s, [.abandonReceipt receipt "no matching integration request appeared within the retention window"])
  else match receipt.rehydrateEvent with
    | .error (.validation _) => .ok (s, [.abandonReceipt receipt "the receipt cannot be reprocessed"])
    | .error e => .error e
    | .ok event => .ok (s, [.processReceipt receipt event])

def execAbandonReceipt (receipt : WebhookReceipt) (reason : String) (input : WebhookInput)
    (s : WebhookState Digest) : WebhookStep Digest :=
  let receipt := receipt.markAbandoned reason input.core.readings.now
  .ok ((s.updateReceipt receipt).recordReceipt receipt.id .abandoned, [])

/-- A unit of the orchestrator's own work. -/
def execCore (frame : Frame) (input : WebhookInput) (s : WebhookState Digest) : WebhookStep Digest :=
  match Frame.exec settings.core frame input.core s.core with
  | .error e => .error e
  | .ok (orchestrated, next) => .ok ({ s with core := orchestrated }, next.map .core)

def exec : WebhookFrame → WebhookInput → WebhookState Digest → WebhookStep Digest
  | .core frame, input, s => execCore settings frame input s
  | .ingest webhook correlationId, input, s => execIngest settings webhook correlationId input s
  | .recordRejection webhook metadata reason correlationId, input, s =>
    execRecordRejection webhook metadata reason correlationId input s
  | .persistReceipt webhook event metadata correlationId, _, s =>
    execPersistReceipt webhook event metadata correlationId s
  | .insertReceipt webhook event metadata correlationId, input, s =>
    execInsertReceipt webhook event metadata correlationId input s
  | .rereadDuplicate provider eventId, _, s => execRereadDuplicate provider eventId s
  | .processReceipt receipt event, input, s => execProcessReceipt settings receipt event input s
  | .claimDeferred receiptId, input, s => execClaimDeferred receiptId input s
  | .processDeferred receipt, input, s => execProcessDeferred settings receipt input s
  | .abandonReceipt receipt reason, input, s => execAbandonReceipt receipt reason input s

/-- Notifications reach the orchestrator through ingestion only. -/
def isEntry : WebhookFrame → Bool
  | .core (.processWebhook _) => false
  | .core frame => frame.isEntry
  | .ingest _ _ | .claimDeferred _ => true
  | _ => false

def isGuard : WebhookFrame → Bool
  | .core frame => frame.isGuard
  | _ => false

end WebhookFrame

/-- The orchestrator with webhook ingestion and the deferred-webhook worker. -/
def webhookSystem {Digest : Type} [DecidableEq Digest] (settings : WebhookSettings Digest) :
    TaskPool.Program (WebhookState Digest) WebhookFrame WebhookInput Exn :=
  { exec := WebhookFrame.exec settings, entry := WebhookFrame.isEntry, catches := WebhookFrame.isGuard }

abbrev WebhookConfiguration (Digest : Type) := TaskPool.Config (WebhookState Digest) WebhookFrame

abbrev WebhookAction := TaskPool.Action WebhookFrame WebhookInput

def WebhookConfiguration.initial {Digest : Type} : WebhookConfiguration Digest := { state := {}, tasks := [] }

end IntegrationOrchestrator
