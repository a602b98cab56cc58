import IntegrationOrchestrator.Domain.Enums

namespace IntegrationOrchestrator

/-- What a `ProviderError` carries: transport failures and business
rejections are told apart by the category and the retryability only. -/
structure ProviderError where
  code : String
  message : String
  category : ErrorCategory
  retryable : Bool
  providerCode : Option String := none
  retryAfterSeconds : Option Rat := none
  deriving DecidableEq

/-- The exceptions the modelled code can raise. The three state machines
raise the same Python class, `InvalidStateTransitionError`. -/
inductive Exn where
  | invalidRequestTransition (current requested : RequestStatus)
  | invalidWorkflowTransition (current requested : WorkflowStatus)
  | invalidStepTransition (current requested : WorkflowStepStatus)
  | keyError (key : String)
  | typeError
  | stopIteration
  | assertion
  | notFound (message : String)
  | conflict (message : String)
  | concurrencyConflict (aggregateId : String)
  | integrity
  | validation (message : String)
  | providerNotConfigured (provider : String)
  | unsupportedOperation (message : String)
  | provider (error : ProviderError)
  | providerOperationNotFound (error : ProviderError)
  | unexpected
  deriving DecidableEq

def Exn.isInvalidStateTransition : Exn → Bool
  | .invalidRequestTransition _ _ => true
  | .invalidWorkflowTransition _ _ => true
  | .invalidStepTransition _ _ => true
  | _ => false

end IntegrationOrchestrator
