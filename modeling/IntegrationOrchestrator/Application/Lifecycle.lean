import IntegrationOrchestrator.Store

namespace IntegrationOrchestrator

namespace WorkflowOrchestrator

open Mutator

/-- The clock readings of one transaction: its own `now`, the one
`_refresh_execution_status` takes, and the one `_record` takes. -/
structure Readings where
  now : Instant
  refreshedAt : Instant
  recordedAt : Instant

/-- An execution as one transaction leaves it, with the rows written about it. -/
abbrev Outcome := Except Exn (WorkflowExecution × List WorkflowRecord)

def workflowActor : Actor := { type := .workflowWorker, id := some "workflow" }

def deadlineActor : Actor := { type := .workflowWorker, id := some "deadline" }

def record (e : WorkflowExecution) (action : AuditAction) (actor : Actor) (previous new : WorkflowStatus)
    (recordedAt : Instant) : WorkflowRecord :=
  { executionId := e.id, action := action, actor := actor, previous := some previous, new := new
    occurredAt := recordedAt }

/-- A status change with its record. -/
def movedTo (e : WorkflowExecution) (status : WorkflowStatus) (action : AuditAction) (actor : Actor)
    (now recordedAt : Instant) : Outcome := do
  let e' ← perform (WorkflowExecution.transitionTo status now) e
  return (e', [record e action actor e.status status recordedAt])

/-- Python's `first or second`. -/
def either (first second : Option String) : Option String := if truthy first then first else second

def providerReferenceOutput (request : IntegrationRequest) : Payload :=
  [("provider_reference", (request.providerReference.map Json.str).getD .null)]

/-- A workflow whose last waiting step resumed runs again. -/
def resumeRunning (e : WorkflowExecution) (now : Instant) : Except Exn WorkflowExecution :=
  if e.status = .waiting && ¬ e.anyWaiting && ¬ e.steps.any (·.status = .failed) then do
    let e ← perform (WorkflowExecution.transitionTo .running now) e
    e.promoteReadySteps now
  else .ok e

def completeIfSucceeded (e : WorkflowExecution) (t : Readings) : Outcome :=
  if e.allForwardSucceeded && e.status = .running then
    movedTo e .succeeded .workflowSucceeded workflowActor t.refreshedAt t.recordedAt
  else .ok (e, [])

def refreshExecutionStatus (e : WorkflowExecution) (t : Readings) : Outcome :=
  if e.status ∈ [.cancelled, .compensated, .succeeded, .deadLettered] then .ok (e, [])
  else if e.steps.any (·.status = .failed) && e.status ∉ [.compensating, .compensated, .manualReview,
      .failed, .timedOut, .cancelled] then
    movedTo e .compensating .workflowCompensating workflowActor t.refreshedAt t.recordedAt
  else if e.anyWaiting && e.status = .running then
    movedTo e .waiting .workflowWaiting workflowActor t.refreshedAt t.recordedAt
  else do
    let e ← resumeRunning e t.refreshedAt
    completeIfSucceeded e t

/-- `{**template.payload_template, **input_payload.get(template.key, {})}`. -/
def stepPayload (template : WorkflowStepDefinition) (input : Payload) : Except Exn Payload :=
  match Payload.get input template.key with
  | none => .ok (if template.payloadTemplate.isEmpty then input else template.payloadTemplate)
  | some (.obj own) =>
    let merged := template.payloadTemplate.merge own
    .ok (if merged.isEmpty then input else merged)
  | some _ => .error .typeError

/-- What the caller of `start_execution` supplies. -/
structure StartCommand where
  definition : WorkflowDefinition
  inputPayload : Payload
  correlationId : String
  idempotencyKey : Option String
  actor : Actor
  deadlineAt : Option Instant

def newStep (executionId stepId : UUID) (template : WorkflowStepDefinition) (payload : Payload)
    (now : Instant) : WorkflowStepExecution :=
  { id := stepId, workflowExecutionId := executionId, stepKey := template.key
    provider := template.provider, operationType := template.operationType
    dependsOn := template.dependsOn, compensateOperation := template.compensateOperation
    waitForWebhook := template.waitForWebhook, status := .pending, attemptCount := 0
    maxAttempts := template.maxAttempts, integrationRequestId := none, compensationRequestId := none
    inputPayload := payload, outputPayload := none, errorCode := none, errorMessage := none
    createdAt := now, updatedAt := now }

/-- The step rows of a new execution; `newId` is the id generator, whose
first id went to the execution. -/
def newSteps (executionId : UUID) (newId : Nat → UUID) (input : Payload) (now : Instant) :
    Nat → List WorkflowStepDefinition → Except Exn (List WorkflowStepExecution)
  | _, [] => .ok []
  | index, template :: rest => do
    let payload ← stepPayload template input
    let steps ← newSteps executionId newId input now (index + 1) rest
    return newStep executionId (newId index) template payload now :: steps

/-- The execution `start_execution` inserts. -/
def startExecution (command : StartCommand) (newId : Nat → UUID) (now : Instant) :
    Except Exn WorkflowExecution := do
  let steps ← newSteps (newId 0) newId command.inputPayload now 1 command.definition.steps
  let created : WorkflowExecution :=
    { id := newId 0, definitionId := command.definition.id, definitionName := command.definition.name
      definitionVersion := command.definition.version, status := .created
      correlationId := command.correlationId, idempotencyKey := command.idempotencyKey
      inputPayload := command.inputPayload, steps := steps, createdAt := now, updatedAt := now
      ownerSubject := command.actor.id, deadlineAt := command.deadlineAt }
  let queued ← perform (WorkflowExecution.transitionTo .queued now) created
  queued.promoteReadySteps now

def cancelStep (now : Instant) (step : WorkflowStepExecution) : Except Exn WorkflowStepExecution :=
  if step.status ∈ [.pending, .ready, .waiting, .retryScheduled] then
    perform (WorkflowStepExecution.transitionTo .cancelled now) step
  else if step.status = .running then
    -- provider calls are not assumed cancellable mid-flight
    perform (WorkflowStepExecution.transitionTo .cancelled now) step
  else .ok step

def withCancelReason (e : WorkflowExecution) (reason : Option String) : WorkflowExecution :=
  { e with cancelReason := either reason (either e.cancelReason (some "client_cancelled")) }

/-- End an execution whose active steps were stopped: unwind what succeeded,
or cancel outright. -/
def unwindOrCancel (e : WorkflowExecution) (previous : WorkflowStatus) (actor : Actor)
    (now recordedAt : Instant) : Outcome := do
  if e.hasSucceededSteps then
    let e' ← perform (WorkflowExecution.transitionTo .compensating now) e
    return (e', [record e .workflowCompensating actor previous .compensating recordedAt])
  else
    let e' ← perform (WorkflowExecution.transitionTo .cancelled now) e
    return (e', [record e .workflowCancelled actor previous .cancelled recordedAt])

/-- The transaction of `cancel`. `none` means that nothing was written. -/
def cancel (e : WorkflowExecution) (actor : Actor) (reason : Option String) (t : Readings) :
    Except Exn (Option (WorkflowExecution × List WorkflowRecord)) :=
  if e.status = .cancelled then .ok none
  else if e.status ∈ [.succeeded, .compensated, .failed, .deadLettered] then
    .error (.conflict ("cannot cancel workflow in terminal status " ++ e.status.value))
  else if e.status = .compensating then
    -- record intent; the unwind finishes as cancelled
    .ok (some (withCancelReason e reason,
      [record e .workflowCancelled actor .compensating .compensating t.recordedAt]))
  else do
    let steps ← e.steps.mapM (cancelStep t.now)
    let stopped := { withCancelReason e reason with steps := steps }
    some <$> unwindOrCancel stopped e.status actor t.now t.recordedAt

def expireStep (now : Instant) (step : WorkflowStepExecution) : Except Exn WorkflowStepExecution :=
  if step.status ∈ [.pending, .ready] then
    perform (WorkflowStepExecution.transitionTo .cancelled now) step
  else if step.status ∈ [.waiting, .retryScheduled, .running] then
    perform (WorkflowStepExecution.markFailed now (some "workflow_deadline_exceeded")
      (some "workflow hard deadline elapsed")) step
  else .ok step

/-- The expired execution: `timed_out` is left in the same transaction. -/
def expire (e : WorkflowExecution) (t : Readings) : Outcome := do
  let steps ← e.steps.mapM (expireStep t.now)
  let marked := { e with deadlineProcessedAt := some t.now, steps := steps }
  let (timedOut, first) ← movedTo marked .timedOut .workflowTimedOut deadlineActor t.now t.recordedAt
  let (ended, second) ← unwindOrCancel timedOut .timedOut deadlineActor t.now t.recordedAt
  let ended := if ended.status = .cancelled then
      { ended with cancelReason := either ended.cancelReason (some "workflow_deadline_exceeded") }
    else ended
  return (ended, first ++ second)

/-- The transaction of `enforce_deadline`. `none` means that nothing was
written. -/
def enforceDeadline (e : WorkflowExecution) (t : Readings) :
    Except Exn (Option (WorkflowExecution × List WorkflowRecord)) :=
  if (e.status.isTerminal || e.status ∈ [.compensating, .manualReview, .timedOut]) &&
      e.deadlineProcessedAt.isSome then .ok none
  else if ¬ e.isPastDeadline t.now then .ok none
  else if e.deadlineProcessedAt.isSome then .ok none
  else some <$> expire e t

end WorkflowOrchestrator

end IntegrationOrchestrator
