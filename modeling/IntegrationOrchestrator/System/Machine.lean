import IntegrationOrchestrator.Application.Dispatcher
import IntegrationOrchestrator.Application.Orchestrator
import IntegrationOrchestrator.Foundation.TaskPool

namespace IntegrationOrchestrator

open WorkflowOrchestrator (Readings StartCommand workflowActor)

/-- What happened so far, as far as the stored rows no longer tell: the
requests created for steps, the operations providers carried out, and the
retries operators asked for. -/
inductive Event where
  | created (role : Role) (executionId stepId requestId : UUID)
  | performed (requestId : UUID) (operations : Nat)
  | retryRequested (requestId : UUID)
  deriving DecidableEq

structure State where
  db : Database := {}
  history : List Event := []

/-- What one unit of work takes from outside: clock readings, fresh ids,
random jitter, and the behaviour of the provider it calls. -/
structure Input where
  readings : Readings
  newId : Nat → UUID
  jitter : Rat
  weather : ProviderWeather

structure Settings where
  descriptor : ProviderSlug → Option ProviderDescriptor
  retryPolicy : ProviderSlug → RetryPolicy
  staleAfterSeconds : Int
  manualReviewAfterSeconds : Int
  workflowClaimLeaseSeconds : Int

/-- Who runs an attempt, and so what follows once it is settled. -/
inductive Caller where
  | api (actor : Actor)
  | forward (executionId stepId : UUID)
  | compensation (executionId stepId : UUID)
  | retryWorker

def Caller.actor : Caller → Actor
  | .api actor => actor
  | .forward _ _ => workflowActor
  | .compensation _ _ => workflowActor
  | .retryWorker => { type := .retryWorker }

/-- What a caller of the create endpoint supplies. -/
structure CreateCommand where
  provider : ProviderSlug
  operationType : OperationType
  externalReference : ExternalReference
  payload : Payload
  correlationId : CorrelationId
  actor : Actor

/-- The units of work of the system. Each is at most one transaction or one
provider call; a function of the source that spans several of them pushes the
rest. `hookGuard` is the `except Exception` around the terminal hooks. -/
inductive Frame where
  | startWorkflow (command : StartCommand)
  | createExecution (command : StartCommand)
  | claimRunnable (executionId : UUID)
  | advance (executionId : UUID)
  | runForwardStep (executionId stepId : UUID)
  | settleForward (executionId stepId requestId : UUID) (dispatched : IntegrationRequest)
  | advanceFinish (executionId : UUID)
  | enforceDeadline (executionId : UUID)
  | cancelWorkflow (executionId : UUID) (actor : Actor) (reason : Option String)
  | onRequestTerminal (requestId : UUID)
  | settleTerminal (executionId : UUID) (request : IntegrationRequest)
  | continueCompensation (executionId : UUID)
  | compensateStep (executionId stepId : UUID)
  | settleCompensation (executionId stepId requestId : UUID) (dispatched : IntegrationRequest)
  | createRequest (command : CreateCommand)
  | dispatch (requestId : UUID) (caller : Caller)
  | callProvider (request : IntegrationRequest) (caller : Caller)
  | settleAttempt (request : IntegrationRequest) (result : ProviderOperationResult) (caller : Caller)
  | claimRetry (requestId : UUID)
  | retryRequest (requestId : UUID) (actor : Actor)
  | cancelRequest (requestId : UUID) (reason : Option String) (actor : Actor)
  | settleCancellation (requestId : UUID) (providerReference reason : Option String) (actor : Actor)
      (result : ProviderOperationResult)
  | findStale (requestId : UUID)
  | reconcile (request : IntegrationRequest)
  | applyProviderState (request : IntegrationRequest) (result : ProviderOperationResult)
  | escalateRequest (request : IntegrationRequest) (reason : String)
  | processWebhook (event : NormalizedWebhookEvent)
  | hookGuard
  | raise (e : Exn)

/-- A committed state with the frames to run next, or an exception. -/
abbrev Step := Except Exn (State × List Frame)

namespace State

def execution (s : State) (executionId : UUID) (missing : Exn) : Except Exn WorkflowExecution :=
  match s.db.executions.get executionId with
  | some e => .ok e
  | none => .error missing

def request (s : State) (requestId : UUID) : Except Exn IntegrationRequest :=
  match s.db.requests.get requestId with
  | some q => .ok q
  | none => .error (.notFound ("integration request '" ++ uuidText requestId ++ "' does not exist"))

/-- Commit an execution and the rows written about it. -/
def savedExecution (s : State) (e : WorkflowExecution) (records : List WorkflowRecord) : State :=
  { s with db := (s.db.updateExecution e).recordWorkflow records }

/-- Commit a changed request and the rows written about it. -/
def savedRequest (s : State) (q : IntegrationRequest) (records : List RequestRecord) :
    Except Exn State := do
  let db ← s.db.updateRequest q
  return { s with db := db.recordRequest records }

def recorded (s : State) (records : List RequestRecord) : State :=
  { s with db := s.db.recordRequest records }

/-- Commit a request created for a step together with the step's link to it. -/
def created (s : State) (role : Role) (stepId : UUID) (e : WorkflowExecution) (q : IntegrationRequest) :
    Except Exn State := do
  let db ← s.db.addRequest q
  return { db := (db.updateExecution e).recordRequest [creationRecord q workflowActor]
           history := s.history ++ [.created role e.id stepId q.id] }

end State

end IntegrationOrchestrator
