import IntegrationOrchestrator.Domain.Workflow

/-! What a step operation that raises leaves behind. -/

namespace IntegrationOrchestrator

open Mutator

/-- The methods of a step and the attributes its callers assign. -/
inductive StepOperation where
  | transitionTo (status : WorkflowStepStatus) (now : Instant)
  | markReady (now : Instant)
  | markRunning (now : Instant)
  | markWaiting (now : Instant)
  | markSucceeded (now : Instant) (requestId : UUID) (output : Option Payload)
  | markFailed (now : Instant) (code message : Option String)
  | beginCompensation (now : Instant)
  | markCompensated (now : Instant) (compensationRequestId : Option UUID)
  | assignRequest (integrationRequestId : Option UUID)
  | assignCompensation (compensationRequestId : Option UUID)

def StepOperation.method : StepOperation → Mutator Exn WorkflowStepExecution Unit
  | .transitionTo status now => WorkflowStepExecution.transitionTo status now
  | .markReady now => WorkflowStepExecution.markReady now
  | .markRunning now => WorkflowStepExecution.markRunning now
  | .markWaiting now => WorkflowStepExecution.markWaiting now
  | .markSucceeded now requestId output => WorkflowStepExecution.markSucceeded now requestId output
  | .markFailed now code message => WorkflowStepExecution.markFailed now code message
  | .beginCompensation now => WorkflowStepExecution.beginCompensation now
  | .markCompensated now requestId => WorkflowStepExecution.markCompensated now requestId
  | .assignRequest requestId => modify fun step => { step with integrationRequestId := requestId }
  | .assignCompensation requestId => modify fun step => { step with compensationRequestId := requestId }

namespace StepOperation

/-- The status that an operation asks the table for; an assignment asks for none. -/
def target : StepOperation → Option WorkflowStepStatus
  | .transitionTo status _ => some status
  | .markReady _ => some .ready
  | .markRunning _ => some .running
  | .markWaiting _ => some .waiting
  | .markSucceeded _ _ _ => some .succeeded
  | .markFailed _ _ _ => some .failed
  | .beginCompensation _ => some .compensating
  | .markCompensated _ _ => some .compensated
  | .assignRequest _ | .assignCompensation _ => none

/-- What an operation writes before it asks the table. -/
def write (step : WorkflowStepExecution) : StepOperation → WorkflowStepExecution
  | .markRunning _ => { step with attemptCount := step.attemptCount + 1 }
  | .markSucceeded _ requestId output => { step with integrationRequestId := some requestId, outputPayload := output }
  | .markFailed _ code message => { step with errorCode := code, errorMessage := message }
  | .markCompensated _ requestId | .assignCompensation requestId => { step with compensationRequestId := requestId }
  | .assignRequest requestId => { step with integrationRequestId := requestId }
  | .transitionTo _ _ | .markReady _ | .markWaiting _ | .beginCompensation _ => step

/-- The fields an operation writes before it asks the table already hold what
it writes. `mark_running` counts an attempt whatever the fields hold. -/
def Idle (step : WorkflowStepExecution) : StepOperation → Prop
  | .markRunning _ => False
  | .markSucceeded _ requestId output => step.integrationRequestId = some requestId ∧ step.outputPayload = output
  | .markFailed _ code message => step.errorCode = code ∧ step.errorMessage = message
  | .markCompensated _ requestId | .assignCompensation requestId => step.compensationRequestId = requestId
  | .assignRequest requestId => step.integrationRequestId = requestId
  | .transitionTo _ _ | .markReady _ | .markWaiting _ | .beginCompensation _ => True

/-- The table has the status change that the operation asks for. -/
def Listed (operation : StepOperation) (step : WorkflowStepExecution) : Prop :=
  ∀ status ∈ operation.target, status ∈ stepTransitions step.status

/-- The call raises `InvalidStateTransitionError`. -/
def Refused (operation : StepOperation) (step : WorkflowStepExecution) : Prop :=
  ∃ raised, perform operation.method step = .error raised ∧ raised.isInvalidStateTransition = true

variable {operation : StepOperation} {step : WorkflowStepExecution}

/-- Every operation is its own writes, followed by one status change if it
asks for any. -/
theorem method_cases (operation : StepOperation) :
    (operation.target = none ∧ operation.method = modify operation.write) ∨
    ∃ status now, operation.target = some status ∧ operation.method = (do
      modify operation.write
      WorkflowStepExecution.transitionTo status now : Mutator Exn WorkflowStepExecution Unit) := by
  cases operation with
  | assignRequest | assignCompensation => exact Or.inl ⟨rfl, rfl⟩
  | _ => exact Or.inr ⟨_, _, rfl, rfl⟩

theorem write_status : (operation.write step).status = step.status := by
  cases operation <;> rfl

theorem write_eq_self_iff : operation.write step = step ↔ operation.Idle step := by
  obtain ⟨⟩ := step
  cases operation <;> simp [write, Idle, eq_comm]

/-- The table decides on the status the step had before the call. -/
theorem refused_iff : operation.Refused step ↔ ¬ operation.Listed step := by
  rcases method_cases operation with ⟨none, assigned⟩ | ⟨status, now, some, steps⟩
  · simp [Refused, Listed, none, assigned, perform, Except.map]
  · rw [Refused, Listed, some, steps, WorkflowStepExecution.perform_write,
      WorkflowStepExecution.perform_transitionTo, write_status]
    by_cases allowed : status ∈ stepTransitions step.status
    · simp [allowed]
    · simp [allowed, Exn.isInvalidStateTransition]

/-- A refused operation leaves what it wrote before the table was asked. -/
theorem after_refused (refused : ¬ operation.Listed step) : after operation.method step = operation.write step := by
  rcases method_cases operation with ⟨none, _⟩ | ⟨status, now, some, steps⟩
  · simp [Listed, none] at refused
  · have illegal : status ∉ stepTransitions step.status := by simpa [Listed, some] using refused
    rw [steps, after_bind _ (call_modify operation.write step), WorkflowStepExecution.transitionTo,
      after_bind _ (call_get _), write_status, if_neg illegal, after_throw]

/-- A refused operation leaves every field as it was exactly if the table
has the change, so that nothing is refused, or the fields written ahead of the
check already held the new values. -/
theorem refused_operation_atomic_iff (operation : StepOperation) (step : WorkflowStepExecution) :
    (operation.Refused step → after operation.method step = step) ↔ operation.Listed step ∨ operation.Idle step := by
  by_cases listed : operation.Listed step
  · exact iff_of_true (fun refused => absurd listed (refused_iff.mp refused)) (Or.inl listed)
  · rw [after_refused listed, write_eq_self_iff]
    constructor
    · intro atomic
      exact Or.inr (atomic (refused_iff.mpr listed))
    · rintro (allowed | idle)
      · exact absurd allowed listed
      · exact fun _ => idle

end StepOperation

/-- A step that has already succeeded on its first attempt. -/
def Sample.succeededStep : WorkflowStepExecution where
  id := 1
  workflowExecutionId := 2
  stepKey := "reserve"
  provider := "northstar"
  operationType := .resourceProvision
  dependsOn := []
  compensateOperation := none
  waitForWebhook := false
  status := .succeeded
  attemptCount := 1
  maxAttempts := 3
  integrationRequestId := some 3
  compensationRequestId := none
  inputPayload := []
  outputPayload := none
  errorCode := none
  errorMessage := none
  createdAt := 0
  updatedAt := 0

/-- A call of `mark_running` that the table refuses counts an attempt, and a
refused `mark_failed` leaves its error on a step that succeeded. -/
theorem refused_operation_writes :
    ((StepOperation.markRunning 5).Refused Sample.succeededStep ∧
      (after (StepOperation.markRunning 5).method Sample.succeededStep).attemptCount = 2) ∧
    (StepOperation.markFailed 5 (some "late") none).Refused Sample.succeededStep ∧
      (after (StepOperation.markFailed 5 (some "late") none).method Sample.succeededStep).errorCode = some "late" := by
  have running : ¬ (StepOperation.markRunning 5).Listed Sample.succeededStep := by
    simp [StepOperation.Listed, StepOperation.target, Sample.succeededStep, stepTransitions]
  have failed : ¬ (StepOperation.markFailed 5 (some "late") none).Listed Sample.succeededStep := by
    simp [StepOperation.Listed, StepOperation.target, Sample.succeededStep, stepTransitions]
  refine ⟨⟨StepOperation.refused_iff.mpr running, ?_⟩, StepOperation.refused_iff.mpr failed, ?_⟩
  · rw [StepOperation.after_refused running]
    rfl
  · rw [StepOperation.after_refused failed]
    rfl

end IntegrationOrchestrator
