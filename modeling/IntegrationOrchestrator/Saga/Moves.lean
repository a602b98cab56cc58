import IntegrationOrchestrator.Application.Orchestrator

namespace IntegrationOrchestrator

/-- What the rest of the system knows about one execution's requests: which
request was created for which step, and which have succeeded. -/
structure Evidence where
  created (role : Role) (stepId requestId : UUID) : Prop
  succeeded (requestId : UUID) : Prop

/-- What a transaction may do besides the ordinary moves of a saga: bring the
success or the failure of a forward request to a step whose compensation is
under way, and begin the compensation of a step. -/
structure Licence where
  lateSuccess : Prop
  lateFailure : Prop
  unwind : Prop

/-- Evidence that vouches for everything, for facts that rest on none. -/
def Evidence.any : Evidence := ⟨fun _ _ _ => True, fun _ => True⟩

/-- The licence that rules nothing out. -/
def Licence.any : Licence := ⟨True, True, True⟩

/-- The statuses in which an execution still works towards success. -/
def forwardPhase : List WorkflowStatus := [.queued, .running, .waiting]

/-- The statuses a step can have once its compensation has begun. -/
def compensationPhase : List WorkflowStepStatus := [.compensating, .compensated, .failed]

/-- The step after `mark_running`, linked to its forward request. -/
def WorkflowStepExecution.started (step : WorkflowStepExecution) (requestId : UUID) (t : Instant) :
    WorkflowStepExecution :=
  { { step with attemptCount := step.attemptCount + 1 }.moved .running t with
    integrationRequestId := some requestId }

theorem WorkflowStepExecution.started_status (step : WorkflowStepExecution) (requestId : UUID) (t : Instant) :
    (step.started requestId t).status = .running := rfl

namespace WorkflowExecution

/-- Every way a step of a saga moves on its own, as part of execution `e`.
`now` is the transaction's clock reading, which a success is stamped with. -/
inductive StepChange (ev : Evidence) (licence : Licence) (now : Instant) (e : WorkflowExecution) :
    WorkflowStepExecution → WorkflowStepExecution → Prop
  | keep {step} : StepChange ev licence now e step step
  | ready {step t} : step.status = .pending → e.dependenciesSatisfied step = .ok true →
      e.status.isTerminal = false → StepChange ev licence now e step (step.moved .ready t)
  | cancel {step t} : step.status ∈ [WorkflowStepStatus.pending, .ready, .running, .waiting, .retryScheduled] →
      StepChange ev licence now e step (step.moved .cancelled t)
  | start {step requestId t} : step.status = .ready → e.status.isTerminal = false → e.status ≠ .queued →
      ev.created .forward step.id requestId → StepChange ev licence now e step (step.started requestId t)
  | wait {step t} : step.status = .running → StepChange ev licence now e step (step.moved .waiting t)
  | retry {step t} : step.status = .running → StepChange ev licence now e step (step.moved .retryScheduled t)
  | fail {step code message t} : step.status ∈ [WorkflowStepStatus.running, .waiting, .retryScheduled] →
      StepChange ev licence now e step ({ step with errorCode := code, errorMessage := message }.moved .failed t)
  | succeed {step requestId output} : step.status ∈ [WorkflowStepStatus.running, .waiting] →
      ev.created .forward step.id requestId → ev.succeeded requestId →
      StepChange ev licence now e step
        ({ step with integrationRequestId := some requestId, outputPayload := output }.moved .succeeded now)
  | beginCompensation {step t} : licence.unwind → step.status = .succeeded → e.status = .compensating →
      (∀ other ∈ e.steps, other.status = .succeeded → completionTime other ≤ completionTime step) →
      StepChange ev licence now e step (step.moved .compensating t)
  | link {step requestId} : step.status ∈ compensationPhase → ev.created .compensation step.id requestId →
      StepChange ev licence now e step { step with compensationRequestId := some requestId }
  | release {step t} : step.status = .compensating → step.compensateOperation = none →
      StepChange ev licence now e step ({ step with compensationRequestId := none }.moved .compensated t)
  | compensate {step requestId t} : step.status = .compensating →
      ev.created .compensation step.id requestId → ev.succeeded requestId →
      StepChange ev licence now e step ({ step with compensationRequestId := some requestId }.moved .compensated t)
  | compensationFailed {step code message t} : step.status = .compensating → e.status = .manualReview →
      StepChange ev licence now e step ({ step with errorCode := code, errorMessage := message }.moved .failed t)
  | lateSuccess {step requestId t} : licence.lateSuccess → step.status = .compensating →
      step.integrationRequestId = some requestId →
      StepChange ev licence now e step ({ step with compensationRequestId := some requestId }.moved .compensated t)
  | lateFailure {step code message t} : licence.lateFailure → step.status = .compensating →
      StepChange ev licence now e step ({ step with errorCode := code, errorMessage := message }.moved .failed t)

/-- Every status change of an execution, with what must be true of its steps. -/
inductive StatusChange (e : WorkflowExecution) : WorkflowStatus → Prop
  | run : e.status ∈ [WorkflowStatus.queued, .waiting] → StatusChange e .running
  | wait : e.status = .running → StatusChange e .waiting
  | succeed : e.status = .running → (∀ step ∈ e.steps, step.status = .succeeded) → StatusChange e .succeeded
  | timeOut : e.status ∈ [WorkflowStatus.queued, .running, .waiting, .retryScheduled] → StatusChange e .timedOut
  | unwind : e.status ∈ [WorkflowStatus.running, .waiting, .retryScheduled, .timedOut] →
      StatusChange e .compensating
  | unwindReviewed : e.status = .manualReview → truthy e.cancelReason = true → StatusChange e .compensating
  | cancel : e.status ≠ .compensating → (∀ step ∈ e.steps, step.status ∉
      [WorkflowStepStatus.pending, .ready, .running, .waiting, .retryScheduled, .succeeded]) →
      StatusChange e .cancelled
  | finishCancelled : e.status = .compensating → truthy e.cancelReason = true →
      (∀ step ∈ e.steps, step.status ∈ WorkflowOrchestrator.unwoundStatuses) → StatusChange e .cancelled
  | finish : e.status = .compensating → truthy e.cancelReason = false →
      (∀ step ∈ e.steps, step.status ∈ WorkflowOrchestrator.unwoundStatuses) → StatusChange e .compensated

/-- One elementary move of a saga. -/
inductive Move (ev : Evidence) (licence : Licence) (now : Instant) : WorkflowExecution → WorkflowExecution → Prop
  | steps {e steps} : List.Forall₂ (StepChange ev licence now e) e.steps steps →
      Move ev licence now e { e with steps := steps }
  | status {e status t} : StatusChange e status → Move ev licence now e (e.moved status t)
  | review {e reason t} : e.status = .compensating →
      Move ev licence now e ({ e with manualReviewReason := some reason }.moved .manualReview t)
  | remark {e reason} : e.status ≠ .compensating → (∃ step ∈ e.steps, step.status = .compensating) →
      Move ev licence now e { e with manualReviewReason := some reason }
  | askCancel {e reason} : truthy reason = true → Move ev licence now e { e with cancelReason := reason }
  | deadline {e} {t : Instant} : Move ev licence now e { e with deadlineProcessedAt := some t }
  | lease {e till t} : Move ev licence now e { e with claimLeaseUntil := till, updatedAt := t }

/-- What one transaction does to an execution. -/
abbrev Moves (ev : Evidence) (licence : Licence) (now : Instant) : WorkflowExecution → WorkflowExecution → Prop :=
  Relation.ReflTransGen (Move ev licence now)

/-- What no move of a step touches. -/
structure SameStep (step step' : WorkflowStepExecution) : Prop where
  id : step'.id = step.id
  stepKey : step'.stepKey = step.stepKey
  dependsOn : step'.dependsOn = step.dependsOn
  compensateOperation : step'.compensateOperation = step.compensateOperation

variable {ev : Evidence} {licence : Licence} {now : Instant} {e e' : WorkflowExecution} {step step' : WorkflowStepExecution}

theorem StepChange.same (change : StepChange ev licence now e step step') : SameStep step step' := by
  cases change <;> exact ⟨rfl, rfl, rfl, rfl⟩

theorem Move.moves (move : Move ev licence now e e') : Moves ev licence now e e' := .single move

/-- The execution `after` is `before` with one step replaced. -/
structure StepReplaced (before after : WorkflowExecution) (step replacement : WorkflowStepExecution) : Prop where
  rest : after = { before with steps := after.steps }
  steps : List.Forall₂ (fun old new => new = old ∨ (old = step ∧ new = replacement)) before.steps after.steps
  made : replacement ∈ after.steps

theorem StepReplaced.moves (replaced : StepReplaced e e' step step') (change : StepChange ev licence now e step step') :
    Moves ev licence now e e' := by
  rw [replaced.rest]
  refine (Move.steps (replaced.steps.imp fun old new each => ?_)).moves
  rcases each with rfl | ⟨rfl, rfl⟩
  · exact .keep
  · exact change

/-- An execution before its first promotion. -/
structure Fresh (e : WorkflowExecution) : Prop where
  queued : e.status = .queued
  reason : e.manualReviewReason = none
  steps : ∀ step ∈ e.steps, step.status = .pending ∧ step.integrationRequestId = none ∧
    step.compensationRequestId = none ∧ step.completedAt = none

end WorkflowExecution

end IntegrationOrchestrator
