import IntegrationOrchestrator.Domain.Contracts

namespace IntegrationOrchestrator

/-- The httpx exceptions the adapters tell apart. -/
inductive TransportError where
  | timeout | transport | other
  deriving DecidableEq

/-- Turn a transport exception into a normalized provider error. -/
def classifyTransportError : TransportError → ProviderError
  | .timeout =>
    { code := "provider_timeout"
      message := "the provider did not respond within its timeout budget"
      category := .providerTimeout
      retryable := true }
  | .transport =>
    { code := "provider_unavailable"
      message := "the provider could not be reached"
      category := .providerUnavailable
      retryable := true }
  | .other =>
    { code := "provider_unavailable"
      message := "the provider call failed unexpectedly"
      category := .providerUnavailable
      retryable := false }

/-- How one adapter call ends, as its caller sees it. -/
inductive AdapterOutcome where
  | answered (result : ProviderOperationResult)
  | lost (error : TransportError)
  | refused (error : ProviderError)
  | notFound (error : ProviderError)
  | unsupported (message : String)
  | crashed

def AdapterOutcome.toExcept : AdapterOutcome → Except Exn ProviderOperationResult
  | .answered result => .ok result
  | .lost error => .error (.provider (classifyTransportError error))
  | .refused error => .error (.provider error)
  | .notFound error => .error (.providerOperationNotFound error)
  | .unsupported message => .error (.unsupportedOperation message)
  | .crashed => .error .unexpected

/-- One call on the wire. `performed` is whether the provider carried the
operation out, which a lost answer hides from the caller. -/
structure AdapterCall where
  performed : Bool
  outcome : AdapterOutcome

/-- What one guarded call meets: the limiter, the breaker, and for each
in-process attempt a bulkhead slot and the provider itself. -/
structure ProviderWeather where
  rateLimited : Bool := false
  retryAfter : Option Rat := none
  circuitOpen : Bool := false
  bulkheadFull : Nat → Bool := fun _ => false
  call : Nat → AdapterCall

def rateLimitError (retryAfter : Option Rat) : ProviderError :=
  { code := "provider_rate_limited"
    message := "the client-side rate limit for this provider is exhausted"
    category := .providerRateLimit
    retryable := true
    retryAfterSeconds := retryAfter }

def circuitOpenError (provider : ProviderSlug) : ProviderError :=
  { code := "provider_circuit_open"
    message := "the circuit breaker for provider '" ++ provider.value ++ "' is open"
    category := .providerUnavailable
    retryable := true }

def bulkheadRejectedError (provider : ProviderSlug) : ProviderError :=
  { code := "provider_concurrency_exhausted"
    message := "provider '" ++ provider.value ++ "' has no free concurrency slots"
    category := .providerUnavailable
    retryable := true }

/-- Only genuinely transient transport problems are worth an immediate retry. -/
def isRetryableInProcess (error : ProviderError) : Bool :=
  error.retryable && (error.category = .providerTimeout || error.category = .providerUnavailable)

def inProcessMaxAttempts : Nat := 2

/-- What a guarded call returns, how many operations the provider carried out
for it, and how many calls of the adapter it made. -/
structure GuardedOutcome where
  result : Except Exn ProviderOperationResult
  performed : Nat
  issued : Nat

/-- The attempt loop of `_guarded`, with `remaining` attempts left from the
attempt number `index` on. -/
def guardedAttempts (provider : ProviderSlug) (weather : ProviderWeather) : Nat → Nat → GuardedOutcome
  | 0, _ => { result := .error .unexpected, performed := 0, issued := 0 }
  | remaining + 1, index =>
    if weather.bulkheadFull index then
      { result := .error (.provider (bulkheadRejectedError provider)), performed := 0, issued := 0 }
    else
      let made := weather.call index
      match made.outcome.toExcept with
      | .error (.provider error) =>
        if remaining = 0 || ¬ isRetryableInProcess error then
          { result := .error (.provider error), performed := made.performed.toNat, issued := 1 }
        else
          let again := guardedAttempts provider weather remaining (index + 1)
          { result := again.result, performed := made.performed.toNat + again.performed, issued := 1 + again.issued }
      | settled => { result := settled, performed := made.performed.toNat, issued := 1 }

/-- Rate limiter, circuit breaker, then the bounded attempts. -/
def guarded (provider : ProviderSlug) (allowInProcessRetry : Bool) (weather : ProviderWeather) :
    GuardedOutcome :=
  if weather.rateLimited then
    { result := .error (.provider (rateLimitError weather.retryAfter)), performed := 0, issued := 0 }
  else if weather.circuitOpen then
    { result := .error (.provider (circuitOpenError provider)), performed := 0, issued := 0 }
  else guardedAttempts provider weather (if allowInProcessRetry then inProcessMaxAttempts else 1) 0

/-- A create may only be repeated in process when the provider guarantees it
will collapse the duplicate. -/
def createOperation (descriptor : ProviderDescriptor) (weather : ProviderWeather) : GuardedOutcome :=
  guarded descriptor.slug descriptor.supportsProviderIdempotency weather

def getOperationStatus (descriptor : ProviderDescriptor) (weather : ProviderWeather) : GuardedOutcome :=
  guarded descriptor.slug true weather

def cancelOperation (descriptor : ProviderDescriptor) (weather : ProviderWeather) : GuardedOutcome :=
  guarded descriptor.slug true weather

theorem guardedAttempts_issued_le (provider : ProviderSlug) (weather : ProviderWeather) (attempts index : Nat) :
    (guardedAttempts provider weather attempts index).issued ≤ attempts := by
  induction attempts generalizing index with
  | zero => exact Nat.zero_le _
  | succ remaining ih =>
    unfold guardedAttempts
    split
    · exact Nat.zero_le _
    · dsimp only
      split
      · split
        · exact Nat.le_add_left ..
        · have again := ih (index + 1)
          show 1 + _ ≤ remaining + 1
          omega
      · exact Nat.le_add_left ..

/-- A guarded create calls the adapter at most once, or at most twice if the
provider collapses duplicates. -/
theorem createOperation_issued_le (descriptor : ProviderDescriptor) (weather : ProviderWeather) :
    (createOperation descriptor weather).issued ≤
      if descriptor.supportsProviderIdempotency then inProcessMaxAttempts else 1 := by
  unfold createOperation guarded
  split
  · exact Nat.zero_le _
  · split
    · exact Nat.zero_le _
    · exact guardedAttempts_issued_le ..

/-- Without provider idempotency one guarded create reaches the provider at
most once. -/
theorem createOperation_performed_le {descriptor : ProviderDescriptor} (weather : ProviderWeather)
    (noIdempotency : descriptor.supportsProviderIdempotency = false) :
    (createOperation descriptor weather).performed ≤ 1 := by
  have once : (guardedAttempts descriptor.slug weather 1 0).performed ≤ 1 := by
    unfold guardedAttempts
    split
    · exact Nat.zero_le 1
    · dsimp only
      split
      · simp [Bool.toNat_le]
      · exact Bool.toNat_le _
  unfold createOperation guarded
  rw [noIdempotency]
  split
  · exact Nat.zero_le 1
  · split
    · exact Nat.zero_le 1
    · exact once

end IntegrationOrchestrator
