import IntegrationOrchestrator.Domain.Json
import IntegrationOrchestrator.Domain.WorkflowStateMachine
import IntegrationOrchestrator.Foundation.Mutator
import IntegrationOrchestrator.Foundation.Rows

namespace IntegrationOrchestrator

/-- What a request is created for: running a step, or undoing it. -/
inductive Role where
  | forward | compensation
  deriving DecidableEq

structure WorkflowStepDefinition where
  key : String
  provider : String
  operationType : OperationType
  dependsOn : List String := []
  compensateOperation : Option OperationType := none
  waitForWebhook : Bool := false
  maxAttempts : Int := 3
  timeoutSeconds : Option Int := none
  payloadTemplate : Payload := []

structure WorkflowDefinition where
  id : UUID
  name : String
  version : Int
  steps : List WorkflowStepDefinition
  createdAt : Instant
  immutable : Bool := false

/-- One runtime step inside a workflow execution. -/
structure WorkflowStepExecution where
  id : UUID
  workflowExecutionId : UUID
  stepKey : String
  provider : String
  operationType : OperationType
  dependsOn : List String
  compensateOperation : Option OperationType
  waitForWebhook : Bool
  status : WorkflowStepStatus
  attemptCount : Int
  maxAttempts : Int
  integrationRequestId : Option UUID
  compensationRequestId : Option UUID
  inputPayload : Payload
  outputPayload : Option Payload
  errorCode : Option String
  errorMessage : Option String
  createdAt : Instant
  updatedAt : Instant
  completedAt : Option Instant := none
  version : Int := 1

namespace WorkflowStepExecution

/-- The step after an allowed status change. -/
def moved (step : WorkflowStepExecution) (status : WorkflowStepStatus) (now : Instant) :
    WorkflowStepExecution :=
  { step with
    status := status
    updatedAt := now
    completedAt := if status.isTerminal || status = .compensated then some now else step.completedAt
    version := step.version + 1 }

def transitionTo (status : WorkflowStepStatus) (now : Instant) : Mutator Exn WorkflowStepExecution Unit := do
  let step ← get
  if status ∈ stepTransitions step.status then set (step.moved status now)
  else throw (.invalidStepTransition step.status status)

def markReady (now : Instant) : Mutator Exn WorkflowStepExecution Unit := transitionTo .ready now

def markRunning (now : Instant) : Mutator Exn WorkflowStepExecution Unit := do
  modify fun step => { step with attemptCount := step.attemptCount + 1 }
  transitionTo .running now

def markWaiting (now : Instant) : Mutator Exn WorkflowStepExecution Unit := transitionTo .waiting now

def markSucceeded (now : Instant) (requestId : UUID) (output : Option Payload) :
    Mutator Exn WorkflowStepExecution Unit := do
  modify fun step => { step with integrationRequestId := some requestId, outputPayload := output }
  transitionTo .succeeded now

def markFailed (now : Instant) (code message : Option String) :
    Mutator Exn WorkflowStepExecution Unit := do
  modify fun step => { step with errorCode := code, errorMessage := message }
  transitionTo .failed now

def beginCompensation (now : Instant) : Mutator Exn WorkflowStepExecution Unit :=
  transitionTo .compensating now

def markCompensated (now : Instant) (compensationRequestId : Option UUID) :
    Mutator Exn WorkflowStepExecution Unit := do
  modify fun step => { step with compensationRequestId := compensationRequestId }
  transitionTo .compensated now

@[simp] theorem moved_status (step : WorkflowStepExecution) (status : WorkflowStepStatus) (now : Instant) :
    (step.moved status now).status = status := rfl

open Mutator in
/-- Every step mutator writes its own fields and then makes one table-checked
status change. -/
theorem perform_transitionTo (step : WorkflowStepExecution) (status : WorkflowStepStatus) (now : Instant) :
    perform (transitionTo status now) step =
      if status ∈ stepTransitions step.status then .ok (step.moved status now)
      else .error (.invalidStepTransition step.status status) := by
  by_cases allowed : status ∈ stepTransitions step.status <;>
    simp [perform, transitionTo, Except.bind, Except.map, allowed]

variable {step step' : WorkflowStepExecution} {status : WorkflowStepStatus} {now : Instant}

/-- The status change a committed mutator made was allowed by the table. -/
theorem perform_transitionTo_ok (run : Mutator.perform (transitionTo status now) step = .ok step') :
    status ∈ stepTransitions step.status ∧ step' = step.moved status now := by
  rw [perform_transitionTo] at run
  split at run
  · rename_i allowed
    exact ⟨allowed, (Except.ok.inj run).symm⟩
  · cases run

open Mutator in
theorem perform_write {write : WorkflowStepExecution → WorkflowStepExecution} :
    perform (do modify write; transitionTo status now : Mutator Exn WorkflowStepExecution Unit) step =
      perform (transitionTo status now) (write step) := by
  simp [perform, Except.bind]

open Mutator in
theorem perform_after_write {write : WorkflowStepExecution → WorkflowStepExecution}
    (run : perform (do modify write; transitionTo status now : Mutator Exn WorkflowStepExecution Unit) step =
      .ok step') :
    perform (transitionTo status now) (write step) = .ok step' :=
  perform_write.symm.trans run

theorem perform_markSucceeded_allowed (allowed : .succeeded ∈ stepTransitions step.status) (requestId : UUID)
    (output : Option Payload) : Mutator.perform (markSucceeded now requestId output) step =
      .ok ({ step with integrationRequestId := some requestId, outputPayload := output }.moved .succeeded now) := by
  rw [markSucceeded, perform_write, perform_transitionTo, if_pos allowed]

theorem perform_markFailed_allowed (allowed : .failed ∈ stepTransitions step.status) (code message : Option String) :
    Mutator.perform (markFailed now code message) step =
      .ok ({ step with errorCode := code, errorMessage := message }.moved .failed now) := by
  rw [markFailed, perform_write, perform_transitionTo, if_pos allowed]

theorem perform_markSucceeded_ok {requestId : UUID} {output : Option Payload}
    (run : Mutator.perform (markSucceeded now requestId output) step = .ok step') :
    .succeeded ∈ stepTransitions step.status ∧ step' =
      { step with integrationRequestId := some requestId, outputPayload := output }.moved .succeeded now :=
  perform_transitionTo_ok (perform_after_write run)

theorem perform_markFailed_ok {code message : Option String}
    (run : Mutator.perform (markFailed now code message) step = .ok step') :
    .failed ∈ stepTransitions step.status ∧
      step' = { step with errorCode := code, errorMessage := message }.moved .failed now :=
  perform_transitionTo_ok (perform_after_write run)

theorem perform_markCompensated_ok {requestId : Option UUID}
    (run : Mutator.perform (markCompensated now requestId) step = .ok step') :
    .compensated ∈ stepTransitions step.status ∧
      step' = { step with compensationRequestId := requestId }.moved .compensated now :=
  perform_transitionTo_ok (perform_after_write run)

end WorkflowStepExecution

/-- A running instance of a workflow definition version. -/
structure WorkflowExecution where
  id : UUID
  definitionId : UUID
  definitionName : String
  definitionVersion : Int
  status : WorkflowStatus
  correlationId : String
  idempotencyKey : Option String
  inputPayload : Payload
  steps : List WorkflowStepExecution
  createdAt : Instant
  updatedAt : Instant
  completedAt : Option Instant := none
  manualReviewReason : Option String := none
  version : Int := 1
  ownerSubject : Option String := none
  claimLeaseUntil : Option Instant := none
  deadlineAt : Option Instant := none
  cancelReason : Option String := none
  deadlineProcessedAt : Option Instant := none

namespace WorkflowExecution

/-- The execution after an allowed status change. -/
def moved (e : WorkflowExecution) (status : WorkflowStatus) (now : Instant) : WorkflowExecution :=
  { e with
    status := status
    updatedAt := now
    completedAt := if status.isTerminal then some now else e.completedAt
    version := e.version + 1 }

def transitionTo (status : WorkflowStatus) (now : Instant) : Mutator Exn WorkflowExecution Unit := do
  let e ← get
  if status ∈ workflowTransitions e.status then set (e.moved status now)
  else throw (.invalidWorkflowTransition e.status status)

def stepByKey (e : WorkflowExecution) (key : String) : Except Exn WorkflowStepExecution :=
  match e.steps.find? (·.stepKey = key) with
  | some step => .ok step
  | none => .error (.keyError key)

/-- The loop of `dependencies_satisfied`: it stops at the first dependency
that has not succeeded, before the keys behind it are looked up. -/
def allSucceeded (e : WorkflowExecution) : List String → Except Exn Bool
  | [] => .ok true
  | key :: rest => do
    let step ← e.stepByKey key
    if step.status ≠ .succeeded then .ok false else e.allSucceeded rest

def dependenciesSatisfied (e : WorkflowExecution) (step : WorkflowStepExecution) : Except Exn Bool :=
  e.allSucceeded step.dependsOn

/-- Marking a step ready never changes which steps have succeeded, so the
loop reads every step's dependencies from the execution it started with. -/
def promoteReadySteps (e : WorkflowExecution) (now : Instant) : Except Exn WorkflowExecution := do
  let steps ← e.steps.mapM fun step => do
    if step.status = .pending then
      if ← e.dependenciesSatisfied step then Mutator.perform (WorkflowStepExecution.markReady now) step else .ok step
    else .ok step
  return { e with steps := steps }

/-- The sort key of the unwind: `completed_at or updated_at`. -/
def completionTime (step : WorkflowStepExecution) : Instant := step.completedAt.getD step.updatedAt

/-- Succeeded steps in reverse completion order. Python's `sorted` is stable
also with `reverse=True`: equal keys keep the order of the list. -/
def succeededInReverse (e : WorkflowExecution) : List WorkflowStepExecution :=
  (e.steps.filter (·.status = .succeeded)).insertionSort
    (fun a b => completionTime b ≤ completionTime a)

def allForwardSucceeded (e : WorkflowExecution) : Bool := e.steps.all (·.status = .succeeded)

def anyWaiting (e : WorkflowExecution) : Bool := e.steps.any (·.status = .waiting)

def isPastDeadline (e : WorkflowExecution) (now : Instant) : Bool :=
  match e.deadlineAt with
  | some deadline => deadline ≤ now
  | none => false

def hasSucceededSteps (e : WorkflowExecution) : Bool := e.steps.any (·.status = .succeeded)

/-- `next(s for s in execution.steps if s.id == step_id)`. -/
def stepById (e : WorkflowExecution) (stepId : UUID) : Except Exn WorkflowStepExecution :=
  match e.steps.find? (·.id = stepId) with
  | some step => .ok step
  | none => .error .stopIteration

/-- Call a mutator on the step that `stepById` finds. -/
def onStep (e : WorkflowExecution) (stepId : UUID) (method : Mutator Exn WorkflowStepExecution Unit) :
    Except Exn WorkflowExecution := do
  let steps ← Rows.modifyFirst .stopIteration (·.id = stepId) (Mutator.perform method) e.steps
  return { e with steps := steps }

@[simp] theorem moved_status (e : WorkflowExecution) (status : WorkflowStatus) (now : Instant) :
    (e.moved status now).status = status := rfl

@[simp] theorem moved_steps (e : WorkflowExecution) (status : WorkflowStatus) (now : Instant) :
    (e.moved status now).steps = e.steps := rfl

theorem perform_transitionTo (e : WorkflowExecution) (status : WorkflowStatus) (now : Instant) :
    Mutator.perform (transitionTo status now) e =
      if status ∈ workflowTransitions e.status then .ok (e.moved status now)
      else .error (.invalidWorkflowTransition e.status status) := by
  by_cases allowed : status ∈ workflowTransitions e.status <;>
    simp [Mutator.perform, transitionTo, Except.bind, Except.map, allowed]

theorem perform_transitionTo_ok {e e' : WorkflowExecution} {status : WorkflowStatus} {now : Instant}
    (run : Mutator.perform (transitionTo status now) e = .ok e') :
    status ∈ workflowTransitions e.status ∧ e' = e.moved status now := by
  rw [perform_transitionTo] at run
  split at run
  · rename_i allowed
    exact ⟨allowed, (Except.ok.inj run).symm⟩
  · cases run

end WorkflowExecution

end IntegrationOrchestrator
