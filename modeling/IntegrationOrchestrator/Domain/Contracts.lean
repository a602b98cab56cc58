import IntegrationOrchestrator.Domain.Request

namespace IntegrationOrchestrator

/-- Normalized description of a provider-side failure. -/
abbrev ProviderErrorInfo := ProviderError

def ProviderErrorInfo.toFailureDetail (error : ProviderErrorInfo) : FailureDetail :=
  { code := error.code
    message := error.message
    category := error.category
    retryable := error.retryable
    providerCode := error.providerCode }

/-- Outcome of a create, status or cancel call, expressed in neutral terms.
A rejected result carries an error and an accepted one carries none. -/
structure ProviderOperationResult where
  accepted : Bool
  normalizedStatus : NormalizedStatus
  providerReference : Option String := none
  providerStatus : Option String := none
  rawResponseMetadata : Payload := []
  error : Option ProviderErrorInfo := none
  consistent : accepted = error.isNone

namespace ProviderOperationResult

def success (normalizedStatus : NormalizedStatus) (providerReference providerStatus : Option String)
    (metadata : Payload) : ProviderOperationResult :=
  { accepted := true
    normalizedStatus := normalizedStatus
    providerReference := providerReference
    providerStatus := providerStatus
    rawResponseMetadata := metadata
    consistent := rfl }

def failure (error : ProviderErrorInfo) : ProviderOperationResult :=
  { accepted := false, normalizedStatus := .failed, error := some error, consistent := rfl }

end ProviderOperationResult

/-- A verified provider webhook translated into neutral terms. -/
structure NormalizedWebhookEvent where
  provider : ProviderSlug
  normalizedStatus : NormalizedStatus
  providerReference : Option String := none
  error : Option ProviderErrorInfo := none

/-- The facts about a configured provider that orchestration reads. -/
structure ProviderDescriptor where
  slug : ProviderSlug
  supportedOperations : List OperationType
  supportsCancellation : Bool
  supportsStatusLookup : Bool
  supportsProviderIdempotency : Bool

end IntegrationOrchestrator
