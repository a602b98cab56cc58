import IntegrationOrchestrator.Webhooks.Receipts

namespace IntegrationOrchestrator

/-- A row of `webhook_receipts`. -/
structure WebhookReceiptRow where
  id : UUID
  provider : String
  eventId : String
  eventType : String
  providerReference : Option String
  signatureMetadata : Payload
  payload : Payload
  processingStatus : WebhookProcessingStatus
  integrationRequestId : Option UUID
  correlationId : Option String
  failureReason : Option String
  attemptCount : Nat
  receivedAt : Instant
  processedAt : Option Instant
  nextAttemptAt : Option Instant

def SignatureMetadata.toDict (metadata : SignatureMetadata) : Payload :=
  [("scheme", .str metadata.scheme), ("key_id", .ofText metadata.keyId), ("timestamp", .ofText metadata.timestamp),
    ("algorithm", .ofText metadata.algorithm), ("verified", .bool metadata.verified)]

/-- The signature column read back. -/
def SignatureMetadata.ofDict (metadata : Payload) : Except Exn SignatureMetadata := do
  let scheme ← ((metadata.get "scheme").getD (.str "unknown")).text
  let keyId ← Json.optionalText (metadata.get "key_id")
  let timestamp ← Json.optionalText (metadata.get "timestamp")
  let algorithm ← Json.optionalText (metadata.get "algorithm")
  return { scheme := scheme, keyId := keyId, timestamp := timestamp, algorithm := algorithm
           verified := ((metadata.get "verified").getD (.bool false)).truth }

/-- `CorrelationId(text) if text else None`. -/
def CorrelationId.optional (text : Option String) : Except Exn (Option CorrelationId) :=
  if truthy text then (CorrelationId.new (text.getD "")).map some else .ok none

def receiptToDomain (row : WebhookReceiptRow) : Except Exn WebhookReceipt := do
  let provider ← ProviderSlug.new row.provider
  let signatureMetadata ← SignatureMetadata.ofDict row.signatureMetadata
  let correlationId ← CorrelationId.optional row.correlationId
  if row.eventId = "" then .error (.validation "a webhook receipt requires a provider event id")
  else return { id := row.id, provider := provider, eventId := row.eventId, eventType := row.eventType
                payload := row.payload, signatureMetadata := signatureMetadata, receivedAt := row.receivedAt
                providerReference := row.providerReference, correlationId := correlationId
                processingStatus := row.processingStatus, integrationRequestId := row.integrationRequestId
                processedAt := row.processedAt, failureReason := row.failureReason
                attemptCount := row.attemptCount, nextAttemptAt := row.nextAttemptAt }

def receiptToRow (receipt : WebhookReceipt) : WebhookReceiptRow :=
  { id := receipt.id, provider := receipt.provider.value, eventId := receipt.eventId
    eventType := receipt.eventType, providerReference := receipt.providerReference
    signatureMetadata := receipt.signatureMetadata.toDict, payload := receipt.payload
    processingStatus := receipt.processingStatus, integrationRequestId := receipt.integrationRequestId
    correlationId := receipt.correlationId.map (·.value), failureReason := receipt.failureReason
    attemptCount := receipt.attemptCount, receivedAt := receipt.receivedAt, processedAt := receipt.processedAt
    nextAttemptAt := receipt.nextAttemptAt }

/-- `receipt_update_values`, written to the row. -/
def receiptUpdateValues (row : WebhookReceiptRow) (receipt : WebhookReceipt) : WebhookReceiptRow :=
  { row with
    processingStatus := receipt.processingStatus
    integrationRequestId := receipt.integrationRequestId
    providerReference := receipt.providerReference
    failureReason := receipt.failureReason
    attemptCount := receipt.attemptCount
    processedAt := receipt.processedAt
    nextAttemptAt := receipt.nextAttemptAt }

/-- `SqlWebhookReceiptRepository`. An update looks at the id only. -/
abbrev ReceiptRows := Table WebhookReceiptRow.id

namespace ReceiptRows

def add (rows : ReceiptRows) (receipt : WebhookReceipt) : ReceiptRows := rows.put (receiptToRow receipt)

def load (rows : ReceiptRows) (receiptId : UUID) : Except Exn (Option WebhookReceipt) :=
  match rows.get receiptId with
  | none => .ok none
  | some row => (receiptToDomain row).map some

def update (rows : ReceiptRows) (receipt : WebhookReceipt) : ReceiptRows :=
  match rows.get receipt.id with
  | none => rows
  | some row => rows.put (receiptUpdateValues row receipt)

end ReceiptRows

/-- The methods of a receipt. None of them raises. -/
inductive ReceiptOperation where
  | markProcessed (now : Instant) (integrationRequestId : Option UUID)
  | markDuplicate (now : Instant)
  | markRejected (reason : String) (now : Instant)
  | markDeferred (reason : String) (nextAttemptAt : Instant)
  | markFailed (reason : String) (now : Instant)
  | markAbandoned (reason : String) (now : Instant)

def ReceiptOperation.apply (receipt : WebhookReceipt) : ReceiptOperation → WebhookReceipt
  | .markProcessed now integrationRequestId => receipt.markProcessed now integrationRequestId
  | .markDuplicate now => receipt.markDuplicate now
  | .markRejected reason now => receipt.markRejected reason now
  | .markDeferred reason nextAttemptAt => receipt.markDeferred reason nextAttemptAt
  | .markFailed reason now => receipt.markFailed reason now
  | .markAbandoned reason now => receipt.markAbandoned reason now

namespace WebhookReceipt

/-- The receipt after any operations. -/
def life (receipt : WebhookReceipt) (operations : List ReceiptOperation) : WebhookReceipt :=
  operations.foldl ReceiptOperation.apply receipt

/-- The columns of a receipt that an update does not write. -/
def fixedColumns (receipt : WebhookReceipt) :=
  (receipt.id, receipt.provider, receipt.eventId, receipt.eventType, receipt.payload, receipt.signatureMetadata,
    receipt.receivedAt, receipt.correlationId)

variable {receipt receipt' : WebhookReceipt} {operations : List ReceiptOperation}

theorem life_keeps : (receipt.life operations).fixedColumns = receipt.fixedColumns ∧
    (receipt.life operations).providerReference = receipt.providerReference := by
  induction operations generalizing receipt with
  | nil => exact ⟨rfl, rfl⟩
  | cons operation rest ih =>
    obtain ⟨fixed, reference⟩ := @ih (operation.apply receipt)
    cases operation <;> exact ⟨fixed, reference⟩

/-- An update with the fixed columns unchanged writes the whole receipt. -/
theorem updateValues_receiptToRow (fixed : receipt'.fixedColumns = receipt.fixedColumns) :
    receiptUpdateValues (receiptToRow receipt) receipt' = receiptToRow receipt' := by
  simp only [fixedColumns, Prod.mk.injEq] at fixed
  obtain ⟨id, provider, eventId, eventType, payload, signature, received, correlation⟩ := fixed
  simp [receiptUpdateValues, receiptToRow, id, provider, eventId, eventType, payload, signature, received,
    correlation]

end WebhookReceipt

theorem CorrelationId.optional_value (correlationId : Option CorrelationId) :
    CorrelationId.optional (correlationId.map (·.value)) = .ok correlationId := by
  cases correlationId with
  | none => rfl
  | some correlationId =>
    have known : truthy (some correlationId.value) = true := by simp [truthy, correlationId.valid.1]
    simp [CorrelationId.optional, known, CorrelationId.new_value, Except.map]

theorem SignatureMetadata.ofDict_toDict (metadata : SignatureMetadata) :
    SignatureMetadata.ofDict metadata.toDict = .ok metadata := by
  simp [SignatureMetadata.ofDict, SignatureMetadata.toDict, Payload.get_cons, Json.truth, Bind.bind, Except.bind,
    Pure.pure, Except.pure]

/-- A receipt loads back as it was stored. -/
theorem receiptToDomain_receiptToRow {receipt : WebhookReceipt} (identified : receipt.eventId ≠ "") :
    receiptToDomain (receiptToRow receipt) = .ok receipt := by
  simp [receiptToDomain, receiptToRow, ProviderSlug.new_value, SignatureMetadata.ofDict_toDict,
    CorrelationId.optional_value, identified, Bind.bind, Except.bind, Pure.pure, Except.pure]

/-- Ingestion updates receipts, the repository their rows. -/
theorem receiptUpdateValues_refines {receipt row : WebhookReceipt} (identified : row.eventId ≠ "") :
    receiptToDomain (receiptUpdateValues (receiptToRow row) receipt) = .ok (receipt.updateRow row) := by
  have named : (receipt.updateRow row).eventId ≠ "" := identified
  rw [← receiptToDomain_receiptToRow named]
  rfl

namespace ReceiptRows

variable {rows : ReceiptRows} {receipt receipt' : WebhookReceipt}

/-- The row of a receipt after it was stored and then updated. -/
theorem get_update_add (fixed : receipt'.fixedColumns = receipt.fixedColumns) (receiptId : UUID) :
    ((rows.add receipt).update receipt').get receiptId =
      if receiptId = receipt.id then some (receiptToRow receipt') else rows.get receiptId := by
  have id : receipt'.id = receipt.id := congrArg Prod.fst fixed
  have stored : (rows.add receipt).get receipt'.id = some (receiptToRow receipt) := by
    rw [id]
    exact Table.get_put_self rows (receiptToRow receipt)
  unfold update
  rw [stored]
  dsimp only
  rw [WebhookReceipt.updateValues_receiptToRow fixed, Table.get_put, add, Table.get_put]
  by_cases same : receiptId = receipt.id
  · simp [same, receiptToRow, id]
  · simp [same, receiptToRow, id]

theorem load_update_add (fixed : receipt'.fixedColumns = receipt.fixedColumns) (identified : receipt.eventId ≠ "") :
    ((rows.add receipt).update receipt').load receipt.id = .ok (some receipt') := by
  have named : receipt'.eventId = receipt.eventId := congrArg (·.2.2.1) fixed
  unfold load
  rw [get_update_add fixed, if_pos rfl]
  simp [receiptToDomain_receiptToRow (named ▸ identified), Except.map]

end ReceiptRows

end IntegrationOrchestrator
