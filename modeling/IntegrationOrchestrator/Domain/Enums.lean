import Mathlib

namespace IntegrationOrchestrator

abbrev UUID := Nat

/-- A clock reading, in microseconds. -/
abbrev Instant := Int

/-- `Enum(text)`: the member with that value. -/
def memberOf {α : Type} (members : List α) (value : α → String) (text : String) : Option α :=
  members.find? (value · = text)

inductive RequestStatus where
  | received | validating | dispatching | pending | succeeded | failed | retryScheduled | cancelled
  | manualReview
  deriving DecidableEq, Repr

def RequestStatus.value : RequestStatus → String
  | .received => "received"
  | .validating => "validating"
  | .dispatching => "dispatching"
  | .pending => "pending"
  | .succeeded => "succeeded"
  | .failed => "failed"
  | .retryScheduled => "retry_scheduled"
  | .cancelled => "cancelled"
  | .manualReview => "manual_review"

/-- Terminal states never transition again without operator action. -/
def RequestStatus.isTerminal (status : RequestStatus) : Bool := status ∈ [.succeeded, .cancelled]

inductive OperationType where
  | resourceProvision | resourceDeprovision | resourceUpdate | accessGrant | accessRevoke
  deriving DecidableEq, Repr

def OperationType.value : OperationType → String
  | .resourceProvision => "resource_provision"
  | .resourceDeprovision => "resource_deprovision"
  | .resourceUpdate => "resource_update"
  | .accessGrant => "access_grant"
  | .accessRevoke => "access_revoke"

def OperationType.members : List OperationType :=
  [.resourceProvision, .resourceDeprovision, .resourceUpdate, .accessGrant, .accessRevoke]

theorem OperationType.memberOf_value (operation : OperationType) :
    memberOf members value operation.value = some operation := by
  cases operation <;> rfl

inductive NormalizedStatus where
  | accepted | pending | succeeded | failed | cancelled | unknown
  deriving DecidableEq, Repr

def NormalizedStatus.value : NormalizedStatus → String
  | .accepted => "accepted"
  | .pending => "pending"
  | .succeeded => "succeeded"
  | .failed => "failed"
  | .cancelled => "cancelled"
  | .unknown => "unknown"

def NormalizedStatus.members : List NormalizedStatus :=
  [.accepted, .pending, .succeeded, .failed, .cancelled, .unknown]

theorem NormalizedStatus.memberOf_value (status : NormalizedStatus) :
    memberOf members value status.value = some status := by
  cases status <;> rfl

inductive ErrorCategory where
  | validation | authentication | authorization | providerValidation | providerAuthentication
  | providerRateLimit | providerTimeout | providerUnavailable | conflict | notFound
  | unsupportedOperation | internal
  deriving DecidableEq, Repr

def ErrorCategory.value : ErrorCategory → String
  | .validation => "validation"
  | .authentication => "authentication"
  | .authorization => "authorization"
  | .providerValidation => "provider_validation"
  | .providerAuthentication => "provider_authentication"
  | .providerRateLimit => "provider_rate_limit"
  | .providerTimeout => "provider_timeout"
  | .providerUnavailable => "provider_unavailable"
  | .conflict => "conflict"
  | .notFound => "not_found"
  | .unsupportedOperation => "unsupported_operation"
  | .internal => "internal"

def ErrorCategory.members : List ErrorCategory :=
  [.validation, .authentication, .authorization, .providerValidation, .providerAuthentication, .providerRateLimit,
    .providerTimeout, .providerUnavailable, .conflict, .notFound, .unsupportedOperation, .internal]

theorem ErrorCategory.memberOf_value (category : ErrorCategory) :
    memberOf members value category.value = some category := by
  cases category <;> rfl

inductive WorkflowStatus where
  | created | queued | running | waiting | retryScheduled | compensating | compensated | succeeded
  | failed | cancelled | manualReview | deadLettered | timedOut
  deriving DecidableEq, Repr

def WorkflowStatus.value : WorkflowStatus → String
  | .created => "created"
  | .queued => "queued"
  | .running => "running"
  | .waiting => "waiting"
  | .retryScheduled => "retry_scheduled"
  | .compensating => "compensating"
  | .compensated => "compensated"
  | .succeeded => "succeeded"
  | .failed => "failed"
  | .cancelled => "cancelled"
  | .manualReview => "manual_review"
  | .deadLettered => "dead_lettered"
  | .timedOut => "timed_out"

def WorkflowStatus.isTerminal (status : WorkflowStatus) : Bool :=
  status ∈ [.succeeded, .compensated, .failed, .cancelled, .deadLettered]

inductive WorkflowStepStatus where
  | pending | ready | running | waiting | retryScheduled | succeeded | failed | skipped
  | compensating | compensated | cancelled | deadLettered
  deriving DecidableEq, Repr

def WorkflowStepStatus.isTerminal (status : WorkflowStepStatus) : Bool :=
  status ∈ [.succeeded, .failed, .skipped, .compensated, .cancelled, .deadLettered]

/-- The audited actions of the modelled functions. -/
inductive AuditAction where
  | requestReceived | requestValidated | providerSelected | dispatchAttempted | providerAccepted | providerFailed
  | retryScheduled | retryRequested | retriesExhausted | webhookDuplicateIgnored | webhookApplied
  | stateReconciled | movedToManualReview | requestCancelled | cancellationRejected
  | workflowStarted | workflowWaiting | workflowCompensating | workflowCompensated
  | workflowSucceeded | workflowManualReview | workflowCancelled | workflowTimedOut
  deriving DecidableEq, Repr

inductive ActorType where
  | apiClient | webhook | retryWorker | reconciliationWorker | workflowWorker | system
  deriving DecidableEq, Repr

structure Actor where
  type : ActorType
  id : Option String := none
  deriving DecidableEq, Repr

end IntegrationOrchestrator
