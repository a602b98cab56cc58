import IntegrationOrchestrator.Domain.Errors

namespace IntegrationOrchestrator

/-- The request transition table. -/
def transitions : RequestStatus → List RequestStatus
  | .received => [.validating, .failed, .cancelled]
  | .validating => [.dispatching, .failed, .cancelled]
  | .dispatching => [.pending, .succeeded, .failed, .retryScheduled, .manualReview, .cancelled]
  | .pending => [.succeeded, .failed, .cancelled, .manualReview]
  | .failed => [.retryScheduled, .manualReview, .cancelled]
  | .retryScheduled => [.dispatching, .failed, .cancelled, .manualReview]
  | .manualReview => [.dispatching, .retryScheduled, .succeeded, .failed, .cancelled]
  | .succeeded => []
  | .cancelled => []

def canTransition (current requested : RequestStatus) : Bool := requested ∈ transitions current

def claimableForRetry : List RequestStatus := [.retryScheduled]

def reconcilableStatuses : List RequestStatus := [.dispatching, .pending]

def manuallyRetryableStatuses : List RequestStatus := [.failed, .manualReview]

def cancellableStatuses : List RequestStatus :=
  [.received, .validating, .pending, .retryScheduled, .failed, .manualReview]

/-- How a normalized provider status maps onto a request status. An unknown
provider status has no projection. -/
def projectNormalizedStatus : NormalizedStatus → Option RequestStatus
  | .accepted => some .pending
  | .pending => some .pending
  | .succeeded => some .succeeded
  | .failed => some .failed
  | .cancelled => some .cancelled
  | .unknown => none

def isForwardProgress (current candidate : RequestStatus) : Bool :=
  if current = candidate then false
  else if current.isTerminal then false
  else canTransition current candidate

theorem canTransition_succeeded (requested : RequestStatus) :
    canTransition .succeeded requested = false := by
  simp [canTransition, transitions]

end IntegrationOrchestrator
