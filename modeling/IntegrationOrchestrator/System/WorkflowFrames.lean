import IntegrationOrchestrator.System.Machine

namespace IntegrationOrchestrator

namespace Frame

open WorkflowOrchestrator (Readings StartCommand AdvanceDecision ForwardDecision UnwindDecision
  CompensateDecision)

def executionNotFound : Exn := .notFound "workflow execution not found"

/-- The first transaction of `start_execution`, which only looks the
idempotency key up; `StartWorkflowUseCase` advances what it returns. -/
def execStartWorkflow (command : StartCommand) (s : State) : Step :=
  if truthy command.idempotencyKey then
    match s.db.executionByIdempotencyKey (command.idempotencyKey.getD "") with
    | some existing => .ok (s, [.advance existing.id])
    | none => .ok (s, [.createExecution command])
  else .ok (s, [.createExecution command])

def execCreateExecution (command : StartCommand) (input : Input) (s : State) : Step := do
  let e ← WorkflowOrchestrator.startExecution command input.newId input.readings.now
  let db ← s.db.addExecution e
  let row := WorkflowOrchestrator.record e .workflowStarted command.actor .created e.status
    input.readings.recordedAt
  return ({ s with db := db.recordWorkflow [row] }, [.advance e.id])

def runnableStatuses : List WorkflowStatus :=
  [.queued, .running, .waiting, .compensating, .retryScheduled, .timedOut]

/-- One execution of a worker's `claim_runnable` batch, and the pass over it. -/
def execClaimRunnable (settings : Settings) (executionId : UUID) (input : Input) (s : State) : Step :=
  match s.db.executions.get executionId with
  | none => .ok (s, [])
  | some e =>
    let now := input.readings.now
    if e.status ∈ runnableStatuses && e.claimLeaseUntil.all (· ≤ now) then
      let claimed := { e with
        claimLeaseUntil := some (now + settings.workflowClaimLeaseSeconds * 1000000)
        updatedAt := now }
      .ok (s.savedExecution claimed [],
        [if e.status = .compensating then .continueCompensation executionId else .advance executionId])
    else .ok (s, [])

def execAdvance (executionId : UUID) (input : Input) (s : State) : Step := do
  let e ← s.execution executionId executionNotFound
  match ← WorkflowOrchestrator.advance e s.db.requests.get input.readings with
  | .stop => return (s, [])
  | .deadline => return (s, [.enforceDeadline executionId])
  | .commit e records =>
    if e.status ∈ [.cancelled, .compensating, .manualReview] || e.status.isTerminal then
      return (s.savedExecution e records, [])
    else
      return (s.savedExecution e records,
        (WorkflowOrchestrator.readySteps e).map (.runForwardStep executionId) ++ [.advanceFinish executionId])

def execAdvanceFinish (executionId : UUID) (input : Input) (s : State) : Step := do
  let e ← s.execution executionId .assertion
  let (e, records) ← WorkflowOrchestrator.refreshExecutionStatus e input.readings
  return (s.savedExecution e records, [])

def execRunForwardStep (executionId stepId : UUID) (input : Input) (s : State) : Step := do
  let e ← s.execution executionId .assertion
  match ← WorkflowOrchestrator.runForwardStep e stepId (input.newId 0) (input.newId 1) input.readings.now with
  | .skip => return (s, [])
  | .deadline => return (s, [.enforceDeadline executionId])
  | .start started request =>
    let s ← s.created .forward stepId started request
    return (s, [.dispatch request.id (.forward executionId stepId)])

def execSettleForward (executionId stepId requestId : UUID) (dispatched : IntegrationRequest)
    (input : Input) (s : State) : Step := do
  let e ← s.execution executionId .assertion
  let (e, records) ← WorkflowOrchestrator.settleForward e stepId requestId dispatched input.readings
  return (s.savedExecution e records,
    if e.status = .compensating then [.continueCompensation executionId] else [])

def execEnforceDeadline (executionId : UUID) (input : Input) (s : State) : Step := do
  let e ← s.execution executionId executionNotFound
  match ← WorkflowOrchestrator.enforceDeadline e input.readings with
  | none => return (s, [])
  | some (e, records) =>
    return (s.savedExecution e records,
      if e.status = .compensating then [.continueCompensation executionId] else [])

def execCancelWorkflow (executionId : UUID) (actor : Actor) (reason : Option String) (input : Input)
    (s : State) : Step := do
  let e ← s.execution executionId executionNotFound
  match ← WorkflowOrchestrator.cancel e actor reason input.readings with
  | none => return (s, [])
  | some (cancelled, records) =>
    -- a cancellation during the unwind only records the intent
    return (s.savedExecution cancelled records,
      if e.status ≠ .compensating && cancelled.status = .compensating then
        [.continueCompensation executionId] else [])

/-- The reads of `on_request_terminal` before it locks the execution. -/
def execOnRequestTerminal (requestId : UUID) (s : State) : Step := do
  match ← s.db.executionByRequestId requestId with
  | none => return (s, [])
  | some e =>
    match s.db.requests.get requestId with
    | none => return (s, [])
    | some request =>
      if request.status ∈ WorkflowOrchestrator.terminalRequests then
        return (s, [.settleTerminal e.id request])
      else return (s, [])

def execSettleTerminal (executionId : UUID) (request : IntegrationRequest) (input : Input) (s : State) :
    Step := do
  let e ← s.execution executionId .assertion
  match ← WorkflowOrchestrator.applyTerminal e request input.readings with
  | none => return (s, [])
  | some (e, records) =>
    return (s.savedExecution e records,
      if e.status = .running then [.advance executionId]
      else if e.status = .compensating then [.continueCompensation executionId]
      else [])

def execContinueCompensation (executionId : UUID) (input : Input) (s : State) : Step := do
  let e ← s.execution executionId .assertion
  match ← WorkflowOrchestrator.continueCompensation e input.readings with
  | .idle => return (s, [])
  | .begin e stepId => return (s.savedExecution e [], [.compensateStep executionId stepId])
  | .finish e records => return (s.savedExecution e records, [])

def execCompensateStep (executionId stepId : UUID) (input : Input) (s : State) : Step := do
  let e ← s.execution executionId .assertion
  match ← WorkflowOrchestrator.compensateStep e stepId (input.newId 0) (input.newId 1) input.readings.now with
  | .done e => return (s.savedExecution e [], [.continueCompensation executionId])
  | .start started request =>
    let s ← s.created .compensation stepId started request
    return (s, [.dispatch request.id (.compensation executionId stepId)])

def execSettleCompensation (executionId stepId requestId : UUID) (dispatched : IntegrationRequest)
    (input : Input) (s : State) : Step := do
  let e ← s.execution executionId .assertion
  let e ← WorkflowOrchestrator.settleCompensation e stepId requestId dispatched input.readings.now
  return (s.savedExecution e [],
    if e.status = .compensating then [.continueCompensation executionId] else [])

end Frame

end IntegrationOrchestrator
