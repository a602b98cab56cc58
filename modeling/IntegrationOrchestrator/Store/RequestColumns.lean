import IntegrationOrchestrator.Entities.RequestLife
import IntegrationOrchestrator.Foundation.Table

namespace IntegrationOrchestrator

/-- The pattern of a key, whose `$` also matches before a final newline. -/
def isIdempotencyKey (text : List Char) : Bool :=
  let body := if text.getLast? = some '\n' then text.dropLast else text
  8 ≤ body.length && body.length ≤ 255 &&
    body.all fun c => c.isAlphanum || c ∈ ['.', '_', ':', '@', '/', '-']

/-- A client-supplied key that makes request creation safely repeatable. -/
structure IdempotencyKey where
  value : String
  valid : isIdempotencyKey value.toList = true
  deriving DecidableEq

def IdempotencyKey.new (value : String) : Except Exn IdempotencyKey :=
  if valid : isIdempotencyKey value.toList = true then .ok ⟨value, valid⟩
  else .error (.validation ("an idempotency key must be 8 to 255 characters using letters, " ++
    "digits, or the characters . _ : @ / -"))

/-- `IdempotencyKey(text) if text else None`. -/
def IdempotencyKey.optional (text : Option String) : Except Exn (Option IdempotencyKey) :=
  if truthy text then (IdempotencyKey.new (text.getD "")).map some else .ok none

/-- The request entity with the field that only its creation reads. -/
structure KeyedRequest extends IntegrationRequest where
  idempotencyKey : Option IdempotencyKey := none

/-- A row of `integration_requests`. -/
structure IntegrationRequestRow where
  id : UUID
  provider : String
  operationType : OperationType
  externalReference : String
  normalizedPayload : Payload
  providerPayload : Option Payload
  providerReference : Option String
  status : RequestStatus
  idempotencyKey : Option String
  attemptCount : Int
  correlationId : String
  ownerSubject : Option String
  lastErrorCode : Option String
  lastErrorMessage : Option String
  lastErrorCategory : Option ErrorCategory
  manualReviewReason : Option String
  nextRetryAt : Option Instant
  createdAt : Instant
  updatedAt : Instant
  completedAt : Option Instant
  version : Int

def requestToDomain (row : IntegrationRequestRow) : Except Exn KeyedRequest := do
  let provider ← ProviderSlug.new row.provider
  let externalReference ← ExternalReference.new row.externalReference
  let correlationId ← CorrelationId.new row.correlationId
  let idempotencyKey ← IdempotencyKey.optional row.idempotencyKey
  return { id := row.id, provider := provider, operationType := row.operationType
           externalReference := externalReference, normalizedPayload := row.normalizedPayload
           correlationId := correlationId, createdAt := row.createdAt, updatedAt := row.updatedAt
           status := row.status, providerPayload := row.providerPayload
           providerReference := row.providerReference, idempotencyKey := idempotencyKey
           attemptCount := row.attemptCount, lastErrorCode := row.lastErrorCode
           lastErrorMessage := row.lastErrorMessage, lastErrorCategory := row.lastErrorCategory
           nextRetryAt := row.nextRetryAt, completedAt := row.completedAt
           manualReviewReason := row.manualReviewReason, version := row.version
           ownerSubject := row.ownerSubject }

def requestToRow (q : KeyedRequest) : IntegrationRequestRow :=
  { id := q.id, provider := q.provider.value, operationType := q.operationType
    externalReference := q.externalReference.value, normalizedPayload := q.normalizedPayload
    providerPayload := q.providerPayload, providerReference := q.providerReference, status := q.status
    idempotencyKey := q.idempotencyKey.map (·.value), attemptCount := q.attemptCount
    correlationId := q.correlationId.value, ownerSubject := q.ownerSubject, lastErrorCode := q.lastErrorCode
    lastErrorMessage := q.lastErrorMessage, lastErrorCategory := q.lastErrorCategory
    manualReviewReason := q.manualReviewReason, nextRetryAt := q.nextRetryAt, createdAt := q.createdAt
    updatedAt := q.updatedAt, completedAt := q.completedAt, version := q.version }

/-- `request_update_values`, written to the row. -/
def requestUpdateValues (row : IntegrationRequestRow) (q : KeyedRequest) : IntegrationRequestRow :=
  { row with
    normalizedPayload := q.normalizedPayload
    providerPayload := q.providerPayload
    providerReference := q.providerReference
    status := q.status
    attemptCount := q.attemptCount
    lastErrorCode := q.lastErrorCode
    lastErrorMessage := q.lastErrorMessage
    lastErrorCategory := q.lastErrorCategory
    manualReviewReason := q.manualReviewReason
    nextRetryAt := q.nextRetryAt
    updatedAt := q.updatedAt
    completedAt := q.completedAt
    version := q.version }

/-- `SqlIntegrationRequestRepository`: the table, and the versions this unit
of work knows. -/
structure RequestRepository where
  rows : Table IntegrationRequestRow.id := .empty
  loadedVersions : UUID → Option Int := fun _ => none

namespace RequestRepository

variable (repository : RequestRepository)

def add (q : KeyedRequest) : RequestRepository :=
  { rows := repository.rows.put (requestToRow q)
    loadedVersions := Function.update repository.loadedVersions q.id (some q.version) }

def load (requestId : UUID) : Except Exn (Option KeyedRequest) :=
  match repository.rows.get requestId with
  | none => .ok none
  | some row => (requestToDomain row).map some

/-- Another row holds the same reference at the same provider, which the
table's unique constraint refuses. -/
def collides (q : KeyedRequest) : Bool :=
  q.providerReference.isSome && repository.rows.rows.any fun row => row.id ≠ q.id &&
    row.provider = q.provider.value && row.providerReference = q.providerReference

def update (q : KeyedRequest) : Except Exn RequestRepository :=
  let expected := (repository.loadedVersions q.id).getD (q.version - 1)
  match repository.rows.get q.id with
  | none => .error (.concurrencyConflict (uuidText q.id))
  | some row =>
    if row.version ≠ expected then .error (.concurrencyConflict (uuidText q.id))
    else if repository.collides q then .error .integrity
    else .ok { rows := repository.rows.put (requestUpdateValues row q)
               loadedVersions := Function.update repository.loadedVersions q.id (some q.version) }

end RequestRepository

namespace KeyedRequest

/-- The entity after any operations, failing ones included. -/
def life (q : KeyedRequest) (operations : List RequestOperation) : KeyedRequest :=
  { q with toIntegrationRequest := q.toIntegrationRequest.life operations }

end KeyedRequest

theorem IntegrationRequest.evolves_after (operation : RequestOperation) (q : IntegrationRequest) :
    q.Evolves (operation.after q) := by
  cases run : Mutator.call operation.method q with
  | error e =>
    rw [unchanged_of_raises ⟨e, run⟩]
    exact ⟨rfl, le_rfl⟩
  | ok out =>
    have applied : operation.apply q = .ok out.2 := by
      rw [apply_eq_perform, Mutator.perform, run]
      rfl
    rw [RequestOperation.after, Mutator.after_of_call run]
    exact later_of_operation applied

theorem IntegrationRequest.evolves_life (operations : List RequestOperation) (q : IntegrationRequest) :
    q.Evolves (q.life operations) := by
  induction operations generalizing q with
  | nil => exact ⟨rfl, le_rfl⟩
  | cons operation rest ih => exact (evolves_after operation q).trans (ih _)

theorem IdempotencyKey.optional_value (key : Option IdempotencyKey) :
    IdempotencyKey.optional (key.map (·.value)) = .ok key := by
  cases key with
  | none => rfl
  | some key =>
    have written : key.value ≠ "" := by
      intro empty
      have valid := key.valid
      rw [empty] at valid
      exact absurd valid (by decide)
    have known : truthy (some key.value) = true := by simp [truthy, written]
    simp [IdempotencyKey.optional, known, IdempotencyKey.new, key.valid, Except.map]

/-- A request loads back as it was stored. -/
theorem requestToDomain_requestToRow (q : KeyedRequest) : requestToDomain (requestToRow q) = .ok q := by
  simp [requestToDomain, requestToRow, ProviderSlug.new_value, ExternalReference.new_value, CorrelationId.new_value,
    IdempotencyKey.optional_value, Bind.bind, Except.bind, Pure.pure, Except.pure]

/-- An update with the fixed columns unchanged writes the whole request. -/
theorem requestUpdateValues_requestToRow {q : KeyedRequest} {later : IntegrationRequest}
    (evolves : q.toIntegrationRequest.Evolves later) :
    requestUpdateValues (requestToRow q) { q with toIntegrationRequest := later } =
      requestToRow { q with toIntegrationRequest := later } := by
  have fixed := evolves.fixed
  simp only [IntegrationRequest.fixedColumns, Prod.mk.injEq] at fixed
  obtain ⟨id, provider, operation, reference, correlation, created, owner⟩ := fixed
  simp [requestUpdateValues, requestToRow, id, provider, operation, reference, correlation, created, owner]

/-- The entity-level update of the versioned store is what the columns give. -/
theorem requestUpdateValues_refines (row q : KeyedRequest) :
    requestToDomain (requestUpdateValues (requestToRow row) q) =
      .ok { row with toIntegrationRequest := updatedRow row.toIntegrationRequest q.toIntegrationRequest } := by
  rw [← requestToDomain_requestToRow]
  rfl

namespace RequestRepository

variable {repository : RequestRepository} {q : KeyedRequest}

/-- Writing a request that was stored in the same unit of work is refused only
by the unique constraint. Otherwise it loads back as it is, and no other row
changes. -/
theorem update_add (operations : List RequestOperation) :
    ((repository.add q).collides (q.life operations) = true ∧
      (repository.add q).update (q.life operations) = .error .integrity) ∨
    ∃ repository', (repository.add q).update (q.life operations) = .ok repository' ∧
      repository'.load q.id = .ok (some (q.life operations)) ∧
      ∀ requestId, requestId ≠ q.id → repository'.rows.get requestId = (repository.add q).rows.get requestId := by
  have evolves := IntegrationRequest.evolves_life operations q.toIntegrationRequest
  have id : (q.life operations).id = q.id := congrArg Prod.fst evolves.fixed
  have stored : (repository.add q).rows.get (q.life operations).id = some (requestToRow q) := by
    rw [id]
    exact Table.get_put_self repository.rows (requestToRow q)
  have tracked : ((repository.add q).loadedVersions (q.life operations).id).getD ((q.life operations).version - 1) =
      q.version := by
    rw [id]
    simp [add]
  have current : ¬ (requestToRow q).version ≠ q.version := not_not.mpr rfl
  simp only [update, stored, tracked, current, if_false]
  by_cases taken : (repository.add q).collides (q.life operations) = true
  · exact .inl ⟨taken, if_pos taken⟩
  · have written : requestUpdateValues (requestToRow q) (q.life operations) = requestToRow (q.life operations) :=
      requestUpdateValues_requestToRow evolves
    refine .inr ⟨_, if_neg taken, ?_, fun requestId other => ?_⟩
    · have found : ((repository.add q).rows.put (requestUpdateValues (requestToRow q) (q.life operations))).get q.id =
          some (requestToRow (q.life operations)) := by
        rw [written, ← id]
        exact Table.get_put_self _ _
      simp only [load, found, requestToDomain_requestToRow]
      rfl
    · have apart : requestId ≠ (requestUpdateValues (requestToRow q) (q.life operations)).id := other
      exact (Table.get_put ..).trans (if_neg apart)

end RequestRepository

end IntegrationOrchestrator
