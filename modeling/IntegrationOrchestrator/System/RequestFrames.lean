import IntegrationOrchestrator.System.Machine

namespace IntegrationOrchestrator

namespace Frame

open RequestDispatcher IntegrationRequest Mutator

def execCreateRequest (settings : Settings) (command : CreateCommand) (input : Input) (s : State) : Step :=
  match settings.descriptor command.provider with
  | none => .error (.providerNotConfigured command.provider.value)
  | some descriptor =>
    if command.operationType ∉ descriptor.supportedOperations then
      .error (.unsupportedOperation ("provider '" ++ command.provider.value ++
        "' does not support the operation '" ++ command.operationType.value ++ "'"))
    else do
      let q := IntegrationRequest.create (input.newId 0) command.provider command.operationType
        command.externalReference command.payload command.correlationId input.readings.now command.actor.id
      let db ← s.db.addRequest q
      return ({ s with db := db.recordRequest [creationRecord q command.actor,
          actionRecord q .providerSelected { type := .system } input.readings.recordedAt] },
        [.dispatch q.id (.api command.actor)])

/-- Phase 1: claim the request and commit before the provider is called. -/
def execDispatch (requestId : UUID) (caller : Caller) (input : Input) (s : State) : Step := do
  let q ← s.request requestId
  let (q, records) ← claim q caller.actor input.readings.now input.readings.refreshedAt
  let s ← s.savedRequest q records
  return (s, [.callProvider q caller])

/-- Phase 2: call the provider with no transaction held. An exception that
`_call_provider` does not convert is raised by the next frame, because what
the provider did stays done. -/
def execCallProvider (settings : Settings) (q : IntegrationRequest) (caller : Caller) (input : Input)
    (s : State) : Step :=
  match settings.descriptor q.provider with
  | none => .error (.providerNotConfigured q.provider.value)
  | some descriptor =>
    let outcome := createOperation descriptor input.weather
    let after := { s with history := s.history ++ [.performed q.id outcome.performed] }
    match providerAnswer outcome.result with
    | .ok result => .ok (after, [.settleAttempt q result caller])
    | .error e => .ok (after, [.raise e])

/-- Whether the settle transaction writes the request row. -/
def settleWrites (current : IntegrationRequest) (result : ProviderOperationResult) : Bool :=
  current.status = .dispatching || (truthy result.providerReference && ¬ truthy current.providerReference)

def savedSettlement (s : State) (current settled : IntegrationRequest) (result : ProviderOperationResult)
    (records : List RequestRecord) : Except Exn State :=
  if settleWrites current result then s.savedRequest settled records else .ok (s.recorded records)

/-- What the caller of an attempt does once it is settled: `dispatch` calls
the terminal hook first, the retry worker does not. -/
def afterAttempt (requestId : UUID) (settled : IntegrationRequest) : Caller → List Frame
  | .retryWorker => []
  | .api _ => hook
  | .forward executionId stepId => hook ++ [.settleForward executionId stepId requestId settled]
  | .compensation executionId stepId => hook ++ [.settleCompensation executionId stepId requestId settled]
where
  hook : List Frame :=
    if notifiesTerminal settled.status then [.onRequestTerminal settled.id, .hookGuard] else []

/-- Phase 3: settle the outcome on the reloaded row. -/
def execSettleAttempt (settings : Settings) (q : IntegrationRequest) (result : ProviderOperationResult)
    (caller : Caller) (input : Input) (s : State) : Step := do
  let current ← s.request q.id
  let (settled, records) ← settle (settings.retryPolicy current.provider) current result caller.actor
    input.readings.now input.jitter
  let s ← savedSettlement s current settled result records
  return (s, afterAttempt q.id settled caller)

/-- One request of a retry worker's batch. -/
def execClaimRetry (requestId : UUID) (input : Input) (s : State) : Step :=
  match s.db.requests.get requestId with
  | none => .ok (s, [])
  | some q =>
    if q.isDueForRetry input.readings.now then do
      let (q, records) ← claimForDispatch q Caller.retryWorker.actor input.readings.now
      let s ← s.savedRequest q records
      return (s, [.callProvider q .retryWorker])
    else .ok (s, [])

def execRetryRequest (requestId : UUID) (actor : Actor) (input : Input) (s : State) : Step := do
  let q ← s.request requestId
  if q.status ∉ manuallyRetryableStatuses then
    .error (.conflict ("a request in status '" ++ q.status.value ++ "' cannot be retried"))
  else
    let now := input.readings.now
    let (q, records) ← RequestDispatcher.recorded q (restoreForRetry now now) .retryRequested actor true
    let s ← s.savedRequest q records
    return ({ s with history := s.history ++ [.retryRequested requestId] }, [])

def cancelAnswer : Except Exn ProviderOperationResult → Except Exn ProviderOperationResult
  | .error (.provider error) => .ok (.failure error)
  | .error (.providerOperationNotFound error) => .ok (.failure error)
  | answer => answer

def execCancelRequest (settings : Settings) (requestId : UUID) (reason : Option String) (actor : Actor)
    (input : Input) (s : State) : Step := do
  let q ← s.request requestId
  if q.status ∉ cancellableStatuses then
    .error (.conflict ("a request in status '" ++ q.status.value ++ "' cannot be cancelled"))
  else match settings.descriptor q.provider with
    | none => .error (.providerNotConfigured q.provider.value)
    | some descriptor =>
      if q.status = .pending && ¬ descriptor.supportsCancellation then
        .error (.unsupportedOperation ("provider '" ++ q.provider.value ++
          "' does not support cancelling an operation it has already accepted"))
      else if q.providerReference.isNone then
        let (q, records) ← RequestDispatcher.recorded q (markCancelled input.readings.now
          (WorkflowOrchestrator.either reason (some "cancelled before dispatch"))) .requestCancelled actor true
        let s ← s.savedRequest q records
        return (s, [])
      else
        let result ← cancelAnswer (cancelOperation descriptor input.weather).result
        return (s, [.settleCancellation requestId q.providerReference reason actor result])

def execSettleCancellation (requestId : UUID) (reason : Option String) (actor : Actor)
    (result : ProviderOperationResult) (input : Input) (s : State) : Step := do
  let current ← s.request requestId
  if current.status.isTerminal then
    return (s.recorded [actionRecord current .cancellationRejected actor input.readings.recordedAt], [])
  else if result.accepted && (result.normalizedStatus = .cancelled || result.normalizedStatus = .accepted) then
    let (q, records) ← RequestDispatcher.recorded current (markCancelled input.readings.now
      (WorkflowOrchestrator.either reason (some "cancelled at the provider"))) .requestCancelled actor true
    let s ← s.savedRequest q records
    return (s, [])
  else
    return (s.recorded [actionRecord current .cancellationRejected actor input.readings.recordedAt],
      [.raise (.conflict "the provider refused to cancel this operation")])

def reconciliationActor : Actor := { type := .reconciliationWorker }

/-- One row of `find_stale_in_flight`. -/
def execFindStale (settings : Settings) (requestId : UUID) (input : Input) (s : State) : Step :=
  match s.db.requests.get requestId with
  | none => .ok (s, [])
  | some q =>
    if q.status ∈ reconcilableStatuses &&
        q.updatedAt ≤ input.readings.now - settings.staleAfterSeconds * 1000000 then
      .ok (s, [.reconcile q])
    else .ok (s, [])

/-- A request that cannot be checked is held for a grace period. -/
def escalateIfOld (settings : Settings) (q : IntegrationRequest) (now : Instant) (reason : String) :
    List Frame :=
  if now - q.updatedAt < settings.manualReviewAfterSeconds * 1000000 then []
  else [.escalateRequest q reason]

def execReconcile (settings : Settings) (q : IntegrationRequest) (input : Input) (s : State) : Step :=
  if q.providerReference.isNone then
    .ok (s, escalateIfOld settings q input.readings.now
      ("the request has been in flight without a provider reference for longer " ++
        "than the escalation threshold"))
  else match settings.descriptor q.provider with
    | none => .error (.providerNotConfigured q.provider.value)
    | some descriptor =>
      if ¬ descriptor.supportsStatusLookup then
        .ok (s, escalateIfOld settings q input.readings.now "the provider does not expose a status lookup")
      else match (getOperationStatus descriptor input.weather).result with
        | .ok result =>
          if result.normalizedStatus = .unknown then
            .ok (s, [.escalateRequest q ("the provider reported a status the adapter cannot interpret: " ++
              (if truthy result.providerStatus then result.providerStatus.getD "" else "unspecified"))])
          else .ok (s, [.applyProviderState q result])
        | .error (.providerOperationNotFound _) =>
          .ok (s, [.escalateRequest q
            "the provider does not recognise the reference it previously returned"])
        | .error (.unsupportedOperation _) =>
          .ok (s, escalateIfOld settings q input.readings.now
            "the provider does not support status lookup for this operation")
        | .error (.provider _) => .ok (s, [])
        | .error e => .error e

/-- Apply a provider report to a locked row; `unchanged` is the audited
action of a report that carries no progress. -/
def applyReport (s : State) (current : IntegrationRequest) (status : NormalizedStatus)
    (reference : Option String) (error : Option ProviderErrorInfo) (changed unchanged : AuditAction)
    (actor : Actor) (next : List Frame) (input : Input) : Step := do
  let (made, q) ← call (applyNormalizedStatus status input.readings.now reference
    (error.map ProviderErrorInfo.toFailureDetail)) current
  match made with
  | none => return (s.recorded [actionRecord current unchanged actor input.readings.recordedAt], [])
  | some made =>
    let s ← s.savedRequest q [transitionRecord q made changed actor true]
    return (s, next)

def execApplyProviderState (request : IntegrationRequest) (result : ProviderOperationResult) (input : Input)
    (s : State) : Step := do
  let current ← s.request request.id
  applyReport s current result.normalizedStatus result.providerReference result.error
    .stateReconciled .stateReconciled reconciliationActor [] input

def execEscalateRequest (request : IntegrationRequest) (reason : String) (input : Input) (s : State) : Step := do
  let current ← s.request request.id
  if current.status = .manualReview || current.status.isTerminal then return (s, [])
  else
    let (q, records) ← escalate current reason reconciliationActor input.readings.now
    let s ← s.savedRequest q records
    return (s, [])

/-- `process_receipt`: an event that cannot be correlated is deferred. -/
def execProcessWebhook (event : NormalizedWebhookEvent) (input : Input) (s : State) : Step :=
  if ¬ truthy event.providerReference then .ok (s, [])
  else match s.db.requestByProviderReference event.provider (event.providerReference.getD "") with
    | none => .ok (s, [])
    | some current =>
      applyReport s current event.normalizedStatus event.providerReference event.error
        .webhookApplied .webhookDuplicateIgnored { type := .webhook }
        [.onRequestTerminal current.id, .hookGuard] input

end Frame

end IntegrationOrchestrator
