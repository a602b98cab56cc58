import IntegrationOrchestrator.Domain.Errors

namespace IntegrationOrchestrator

def workflowTransitions : WorkflowStatus → List WorkflowStatus
  | .created => [.queued, .running, .cancelled]
  | .queued => [.running, .cancelled, .failed, .timedOut]
  | .running => [.waiting, .retryScheduled, .compensating, .succeeded, .failed, .cancelled,
      .manualReview, .timedOut]
  | .waiting => [.running, .compensating, .failed, .cancelled, .manualReview, .timedOut]
  | .retryScheduled => [.running, .compensating, .failed, .cancelled, .manualReview, .timedOut]
  | .timedOut => [.compensating, .cancelled, .manualReview, .failed]
  | .compensating => [.compensated, .manualReview, .deadLettered, .failed, .cancelled]
  | .manualReview => [.running, .compensating, .cancelled, .deadLettered]
  | .succeeded => []
  | .compensated => []
  | .failed => [.manualReview]
  | .cancelled => []
  | .deadLettered => []

def stepTransitions : WorkflowStepStatus → List WorkflowStepStatus
  | .pending => [.ready, .skipped, .cancelled]
  | .ready => [.running, .skipped, .cancelled]
  | .running => [.waiting, .retryScheduled, .succeeded, .failed, .cancelled]
  | .waiting => [.running, .succeeded, .failed, .cancelled]
  | .retryScheduled => [.ready, .running, .failed, .cancelled]
  | .succeeded => [.compensating, .cancelled]
  | .failed => [.deadLettered]
  | .skipped => []
  | .compensating => [.compensated, .retryScheduled, .deadLettered, .failed]
  | .compensated => []
  | .cancelled => []
  | .deadLettered => []

variable {status : WorkflowStepStatus}

theorem succeeded_from (allowed : .succeeded ∈ stepTransitions status) :
    status ∈ [WorkflowStepStatus.running, .waiting] := by
  cases status <;> simp [stepTransitions] at allowed ⊢

theorem failed_from (allowed : .failed ∈ stepTransitions status) :
    status ∈ [WorkflowStepStatus.running, .waiting, .retryScheduled] ∨ status = .compensating := by
  cases status <;> simp [stepTransitions] at allowed ⊢

theorem compensated_from (allowed : .compensated ∈ stepTransitions status) : status = .compensating := by
  cases status <;> simp [stepTransitions] at allowed ⊢

theorem waiting_from (allowed : .waiting ∈ stepTransitions status) : status = .running := by
  cases status <;> simp [stepTransitions] at allowed ⊢

end IntegrationOrchestrator
