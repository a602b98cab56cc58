import IntegrationOrchestrator.Application.Lifecycle

namespace IntegrationOrchestrator

namespace WorkflowOrchestrator

open Mutator

/-- What the first transaction of `advance` decides. -/
inductive AdvanceDecision where
  | stop
  | deadline
  | commit (e : WorkflowExecution) (records : List WorkflowRecord)

/-- Resume a waiting step whose linked request already completed. -/
def resumeWaitingStep (requests : UUID → Option IntegrationRequest) (now : Instant)
    (step : WorkflowStepExecution) : Except Exn WorkflowStepExecution :=
  if step.status = .waiting then
    match step.integrationRequestId.bind requests with
    | some request =>
      if request.status = .succeeded then
        perform (WorkflowStepExecution.markSucceeded now request.id
          (some (providerReferenceOutput request))) step
      else .ok step
    | none => .ok step
  else .ok step

def dequeued (e : WorkflowExecution) (now : Instant) : Except Exn WorkflowExecution :=
  if e.status = .queued then perform (WorkflowExecution.transitionTo .running now) e else .ok e

def advance (e : WorkflowExecution) (requests : UUID → Option IntegrationRequest) (t : Readings) :
    Except Exn AdvanceDecision :=
  if e.status.isTerminal then .ok .stop
  else if e.status = .manualReview then .ok .stop
  else if e.isPastDeadline t.now && e.deadlineProcessedAt.isNone &&
      e.status ∉ [.compensating, .manualReview] then .ok .deadline
  else do
    let e ← dequeued e t.now
    let steps ← e.steps.mapM (resumeWaitingStep requests t.now)
    let e ← ({ e with steps := steps } : WorkflowExecution).promoteReadySteps t.now
    let (e, records) ← refreshExecutionStatus e t
    return .commit e records

/-- The steps `advance` dispatches after its first transaction. -/
def readySteps (e : WorkflowExecution) : List UUID :=
  if e.status ∈ [.cancelled, .compensating, .manualReview] || e.status.isTerminal then []
  else (e.steps.filter (·.status = .ready)).map (·.id)

def terminalRequests : List RequestStatus := [.succeeded, .failed, .cancelled, .manualReview]

/-- What a terminal request does to the step that waits for it. -/
def terminalStep (request : IntegrationRequest) (now : Instant) (step : WorkflowStepExecution) :
    Except Exn WorkflowStepExecution :=
  if step.status ∈ [.running, .waiting, .compensating] then
    match request.status with
    | .succeeded =>
      if step.status = .compensating then
        perform (WorkflowStepExecution.markCompensated now (some request.id)) step
      else perform (WorkflowStepExecution.markSucceeded now request.id
        (some (providerReferenceOutput request))) step
    | .failed | .manualReview =>
      if step.status = .compensating then .ok step
      else perform (WorkflowStepExecution.markFailed now request.lastErrorCode request.lastErrorMessage) step
    | .cancelled => perform (WorkflowStepExecution.transitionTo .cancelled now) step
    | _ => .ok step
  else .ok step

/-- A failed compensation request sends the execution to manual review. -/
def compensationRejected (e : WorkflowExecution) (step : WorkflowStepExecution)
    (request : IntegrationRequest) (t : Readings) : Outcome :=
  if step.status = .compensating && request.status ∈ [.failed, .manualReview] then
    let reviewed := { e with manualReviewReason := some ("compensation failed for step " ++ step.stepKey) }
    let row := record e .workflowManualReview workflowActor .compensating .manualReview t.recordedAt
    if e.status = .manualReview then .ok (reviewed, [])
    else if e.status = .compensating then do
      let moved ← perform (WorkflowExecution.transitionTo .manualReview t.now) reviewed
      return (moved, [row])
    else .ok (reviewed, [row])
  else .ok (e, [])

/-- The locked transaction of `on_request_terminal`, given the request as it
was read before the lock. `none` means that no step is linked to it. -/
def applyTerminal (e : WorkflowExecution) (request : IntegrationRequest) (t : Readings) :
    Except Exn (Option (WorkflowExecution × List WorkflowRecord)) :=
  match e.steps.find? (Database.linksRequest request.id) with
  | none => .ok none
  | some step => do
    let steps ← Rows.modifyFirst .stopIteration (Database.linksRequest request.id)
      (terminalStep request t.now) e.steps
    let (e, first) ← compensationRejected { e with steps := steps } step request t
    let (e, second) ← refreshExecutionStatus e t
    return some (e, first ++ second)

/-- What the first transaction of `_run_forward_step` decides. -/
inductive ForwardDecision where
  | skip
  | deadline
  | start (e : WorkflowExecution) (request : IntegrationRequest)

/-- The external reference of a forward request, with the demo's optional
fault injection. -/
def forwardReference (e : WorkflowExecution) (step : WorkflowStepExecution) : String :=
  let reference := "wf-" ++ String.ofList ((hex e.id).take 8) ++ "-" ++ step.stepKey
  match Payload.get e.inputPayload "fail_at_step",
      (Payload.get e.inputPayload "fail_scenario").getD (.str "scenario-reject") with
  | some (.str failAt), .str scenario =>
    if failAt = step.stepKey then scenario ++ "-" ++ reference else reference
  | _, _ => reference

/-- The request created for a step. `minted` is the correlation id used if
the execution has none. -/
def stepRequest (e : WorkflowExecution) (step : WorkflowStepExecution) (operation : OperationType)
    (reference : String) (requestId minted : UUID) (now : Instant) : Except Exn IntegrationRequest := do
  let provider ← ProviderSlug.parse step.provider
  let external ← ExternalReference.new reference
  let correlation ← CorrelationId.parse minted e.correlationId
  return .create requestId provider operation external step.inputPayload correlation now

def startStep (now : Instant) (requestId : UUID) : Mutator Exn WorkflowStepExecution Unit := do
  WorkflowStepExecution.markRunning now
  modify fun step => { step with integrationRequestId := some requestId }

def runForwardStep (e : WorkflowExecution) (stepId requestId minted : UUID) (now : Instant) :
    Except Exn ForwardDecision := do
  let step ← e.stepById stepId
  if step.status ≠ .ready then return .skip
  else if e.status ∈ [.cancelled, .compensating, .manualReview, .timedOut] || e.status.isTerminal then
    return .skip
  else if e.isPastDeadline now && e.deadlineProcessedAt.isNone then return .deadline
  else
    let started ← e.onStep stepId (startStep now requestId)
    let request ← stepRequest e step step.operationType (forwardReference e step) requestId minted now
    return .start started request

/-- What the outcome of a forward dispatch does to its step. -/
def forwardStep (requestId : UUID) (dispatched : IntegrationRequest) (now : Instant)
    (step : WorkflowStepExecution) : Except Exn WorkflowStepExecution :=
  match dispatched.status with
  | .succeeded => perform (WorkflowStepExecution.markSucceeded now requestId
      (some (providerReferenceOutput dispatched))) step
  | .pending =>
    if step.status ∈ [.running, .waiting] then perform (WorkflowStepExecution.markWaiting now) step
    else .ok step
  | .failed | .manualReview =>
    if step.status ∉ [.failed, .cancelled, .succeeded] then
      perform (WorkflowStepExecution.markFailed now dispatched.lastErrorCode dispatched.lastErrorMessage) step
    else .ok step
  | .retryScheduled =>
    if step.status = .running then perform (WorkflowStepExecution.transitionTo .retryScheduled now) step
    else .ok step
  | _ => .ok step

/-- The settle transaction of `_run_forward_step`. -/
def settleForward (e : WorkflowExecution) (stepId requestId : UUID) (dispatched : IntegrationRequest)
    (t : Readings) : Outcome := do
  let steps ← Rows.modifyFirst .stopIteration (·.id = stepId) (forwardStep requestId dispatched t.now) e.steps
  refreshExecutionStatus { e with steps := steps } t

/-- What one transaction of `_continue_compensation` decides. -/
inductive UnwindDecision where
  | idle
  | begin (e : WorkflowExecution) (stepId : UUID)
  | finish (e : WorkflowExecution) (records : List WorkflowRecord)

/-- The step statuses with which an unwind may end. -/
def unwoundStatuses : List WorkflowStepStatus := [.compensated, .failed, .skipped, .cancelled, .pending]

def finishUnwind (e : WorkflowExecution) (t : Readings) : Outcome :=
  if e.steps.all (fun step => step.status ∈ unwoundStatuses) &&
      e.steps.all (fun step => step.status ≠ .succeeded && step.status ≠ .compensating) then
    if truthy e.cancelReason then movedTo e .cancelled .workflowCancelled workflowActor t.refreshedAt t.recordedAt
    else movedTo e .compensated .workflowCompensated workflowActor t.refreshedAt t.recordedAt
  else .ok (e, [])

def continueCompensation (e : WorkflowExecution) (t : Readings) : Except Exn UnwindDecision :=
  if e.status ≠ .compensating then .ok .idle
  else match e.succeededInReverse with
    | step :: _ => do
      let e ← e.onStep step.id (WorkflowStepExecution.beginCompensation t.now)
      return .begin e step.id
    | [] => do
      let (e, records) ← finishUnwind e t
      return .finish e records

/-- What the first transaction of `_compensate_step` decides. -/
inductive CompensateDecision where
  | done (e : WorkflowExecution)
  | start (e : WorkflowExecution) (request : IntegrationRequest)

def linkCompensation (requestId : UUID) : Mutator Exn WorkflowStepExecution Unit :=
  modify fun step => { step with compensationRequestId := some requestId }

def compensateStep (e : WorkflowExecution) (stepId requestId minted : UUID) (now : Instant) :
    Except Exn CompensateDecision := do
  let step ← e.stepById stepId
  match step.compensateOperation with
  | none =>
    let e ← e.onStep stepId (WorkflowStepExecution.markCompensated now none)
    return .done e
  | some operation =>
    let request ← stepRequest e step operation
      ("wf-cmp-" ++ String.ofList ((hex e.id).take 8) ++ "-" ++ step.stepKey) requestId minted now
    let e ← e.onStep stepId (linkCompensation requestId)
    return .start e request

/-- The settle transaction of `_compensate_step`. -/
def settleCompensation (e : WorkflowExecution) (stepId requestId : UUID) (dispatched : IntegrationRequest)
    (now : Instant) : Except Exn WorkflowExecution :=
  match dispatched.status with
  | .succeeded => e.onStep stepId (WorkflowStepExecution.markCompensated now (some requestId))
  | .pending => .ok e
  | _ => do
    let step ← e.stepById stepId
    let e ← e.onStep stepId (WorkflowStepExecution.markFailed now
      (either dispatched.lastErrorCode (some "compensation_failed"))
      (either dispatched.lastErrorMessage (some "compensation failed")))
    perform (WorkflowExecution.transitionTo .manualReview now)
      { e with manualReviewReason := some ("compensation failed for " ++ step.stepKey) }

end WorkflowOrchestrator

end IntegrationOrchestrator
