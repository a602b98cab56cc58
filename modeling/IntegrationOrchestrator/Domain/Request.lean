import IntegrationOrchestrator.Domain.Json
import IntegrationOrchestrator.Domain.StateMachine
import IntegrationOrchestrator.Domain.ValueObjects
import IntegrationOrchestrator.Foundation.Mutator
import IntegrationOrchestrator.Foundation.Rows

namespace IntegrationOrchestrator

/-- A record of one applied status change. -/
structure StatusTransition where
  previousStatus : RequestStatus
  newStatus : RequestStatus
  occurredAt : Instant

/-- The normalized reason a request failed, stored for operators. -/
structure FailureDetail where
  code : String
  message : String
  category : ErrorCategory
  retryable : Bool
  providerCode : Option String := none

/-- The aggregate root tracking one externally fulfilled operation. -/
structure IntegrationRequest where
  id : UUID
  provider : ProviderSlug
  operationType : OperationType
  externalReference : ExternalReference
  normalizedPayload : Payload
  correlationId : CorrelationId
  createdAt : Instant
  updatedAt : Instant
  status : RequestStatus := .received
  providerPayload : Option Payload := none
  providerReference : Option String := none
  attemptCount : Int := 0
  lastErrorCode : Option String := none
  lastErrorMessage : Option String := none
  lastErrorCategory : Option ErrorCategory := none
  nextRetryAt : Option Instant := none
  completedAt : Option Instant := none
  manualReviewReason : Option String := none
  version : Int := 0
  ownerSubject : Option String := none

/-- Python's truth value of an optional string. -/
def truthy (text : Option String) : Bool := text.getD "" ≠ ""

namespace IntegrationRequest

def create (id : UUID) (provider : ProviderSlug) (operationType : OperationType)
    (externalReference : ExternalReference) (normalizedPayload : Payload)
    (correlationId : CorrelationId) (now : Instant) (ownerSubject : Option String := none) : IntegrationRequest :=
  { id := id, provider := provider, operationType := operationType,
    externalReference := externalReference, normalizedPayload := normalizedPayload,
    correlationId := correlationId, createdAt := now, updatedAt := now, ownerSubject := ownerSubject }

/-- Advance `updated_at` and the optimistic concurrency version. -/
def touched (q : IntegrationRequest) (now : Instant) : IntegrationRequest :=
  { q with updatedAt := now, version := q.version + 1 }

/-- The request after an allowed status change. -/
def moved (q : IntegrationRequest) (requested : RequestStatus) (now : Instant) : IntegrationRequest :=
  { q with status := requested }.touched now

def transition (requested : RequestStatus) (now : Instant) :
    Mutator Exn IntegrationRequest StatusTransition := do
  let q ← get
  if canTransition q.status requested then
    set (q.moved requested now)
    return { previousStatus := q.status, newStatus := requested, occurredAt := now }
  else throw (.invalidRequestTransition q.status requested)

/-- A status change followed by the writes of the method that made it. -/
def transitionThen (requested : RequestStatus) (now : Instant)
    (write : IntegrationRequest → IntegrationRequest) :
    Mutator Exn IntegrationRequest StatusTransition := do
  let applied ← transition requested now
  modify write
  return applied

def withFailure (q : IntegrationRequest) (failure : FailureDetail) : IntegrationRequest :=
  { q with
    lastErrorCode := some failure.code
    lastErrorMessage := some failure.message
    lastErrorCategory := some failure.category }

def clearedError (q : IntegrationRequest) : IntegrationRequest :=
  { q with lastErrorCode := none, lastErrorMessage := none, lastErrorCategory := none }

def beginValidation (now : Instant) : Mutator Exn IntegrationRequest StatusTransition :=
  transition .validating now

/-- The attempt is counted before the provider is called, not after. -/
def beginDispatch (now : Instant) : Mutator Exn IntegrationRequest StatusTransition :=
  transitionThen .dispatching now fun q =>
    { q with attemptCount := q.attemptCount + 1, nextRetryAt := none }

def recordProviderPayload (q : IntegrationRequest) (payload : Payload) : IntegrationRequest :=
  { q with providerPayload := some payload }

/-- The provider accepted the operation and will complete it later. -/
def markAccepted (providerReference : String) (now : Instant) :
    Mutator Exn IntegrationRequest StatusTransition :=
  if providerReference = "" then
    throw (.validation "a provider reference is required to mark a request pending")
  else transitionThen .pending now fun q =>
    { q with providerReference := some providerReference }.clearedError

def markSucceeded (now : Instant) (providerReference : Option String) :
    Mutator Exn IntegrationRequest StatusTransition :=
  transitionThen .succeeded now fun q =>
    { q with
      providerReference := if truthy providerReference then providerReference else q.providerReference
      completedAt := some now
      nextRetryAt := none }.clearedError

def markFailed (failure : FailureDetail) (now : Instant) :
    Mutator Exn IntegrationRequest StatusTransition :=
  transitionThen .failed now fun q =>
    { q.withFailure failure with completedAt := some now, nextRetryAt := none }

def scheduleRetry (failure : FailureDetail) (nextRetryAt : Instant) (now : Instant) :
    Mutator Exn IntegrationRequest StatusTransition :=
  transitionThen .retryScheduled now fun q =>
    { q.withFailure failure with nextRetryAt := some nextRetryAt, completedAt := none }

def markCancelled (now : Instant) (reason : Option String) :
    Mutator Exn IntegrationRequest StatusTransition :=
  transitionThen .cancelled now fun q =>
    { q with
      completedAt := some now
      nextRetryAt := none
      manualReviewReason := if truthy reason then none else q.manualReviewReason
      lastErrorMessage := if truthy reason then reason else q.lastErrorMessage }

/-- Escalate to a human. -/
def markManualReview (reason : String) (now : Instant) :
    Mutator Exn IntegrationRequest StatusTransition :=
  transitionThen .manualReview now fun q =>
    { q with manualReviewReason := some reason, nextRetryAt := none }

/-- Operator-requested retry from a failed or manually reviewed state. -/
def restoreForRetry (nextRetryAt : Instant) (now : Instant) :
    Mutator Exn IntegrationRequest StatusTransition :=
  transitionThen .retryScheduled now fun q =>
    { q with nextRetryAt := some nextRetryAt, completedAt := none, manualReviewReason := none }

def reportedFailure : FailureDetail :=
  { code := "provider_reported_failure"
    message := "the provider reported the operation as failed"
    category := .providerUnavailable
    retryable := false }

/-- A reference the provider reported is kept if none is known yet. -/
def linked (q : IntegrationRequest) (providerReference : Option String) : IntegrationRequest :=
  if truthy providerReference && ¬ truthy q.providerReference then
    { q with providerReference := providerReference }
  else q

/-- The status change a projected provider report asks for. -/
def applyTarget (target : RequestStatus) (now : Instant) (providerReference : Option String)
    (failure : Option FailureDetail) : Mutator Exn IntegrationRequest (Option StatusTransition) :=
  match target with
  | .succeeded => some <$> markSucceeded now providerReference
  | .failed => some <$> markFailed (failure.getD reportedFailure) now
  | .cancelled => some <$> markCancelled now (some "cancelled by the provider")
  | .pending => do
    let q ← get
    let reference := if truthy providerReference then providerReference else q.providerReference
    if ¬ truthy reference then return none
    else some <$> markAccepted (reference.getD "") now
  | _ => return none

/-- Apply a provider-reported outcome from a webhook or a status poll. `none`
means that the update carries no forward progress. -/
def applyNormalizedStatus (status : NormalizedStatus) (now : Instant)
    (providerReference : Option String) (failure : Option FailureDetail) :
    Mutator Exn IntegrationRequest (Option StatusTransition) := do
  let q ← get
  match projectNormalizedStatus status with
  | none => return none
  | some target =>
    if ¬ isForwardProgress q.status target then return none
    else
      modify (·.linked providerReference)
      applyTarget target now providerReference failure

/-- Record the provider's identifier without changing status. -/
def attachProviderReference (reference : String) (now : Instant) :
    Mutator Exn IntegrationRequest Unit := do
  let q ← get
  if reference = "" then throw (.validation "a provider reference must not be empty")
  else if truthy q.providerReference && q.providerReference ≠ some reference then
    throw (.conflict "the request is already linked to a different provider reference")
  else set ({ q with providerReference := some reference }.touched now)

def isDueForRetry (q : IntegrationRequest) (now : Instant) : Bool :=
  q.status = .retryScheduled && q.nextRetryAt.any (· ≤ now)

open Mutator

theorem call_transition (q : IntegrationRequest) (requested : RequestStatus) (now : Instant) :
    call (transition requested now) q =
      if canTransition q.status requested then
        .ok ({ previousStatus := q.status, newStatus := requested, occurredAt := now },
          q.moved requested now)
      else .error (.invalidRequestTransition q.status requested) := by
  by_cases allowed : canTransition q.status requested = true <;>
    simp [transition, Except.bind, Except.map, allowed]

theorem call_transitionThen (q : IntegrationRequest) (requested : RequestStatus) (now : Instant)
    (write : IntegrationRequest → IntegrationRequest) :
    call (transitionThen requested now write) q =
      if canTransition q.status requested then
        .ok ({ previousStatus := q.status, newStatus := requested, occurredAt := now },
          write (q.moved requested now))
      else .error (.invalidRequestTransition q.status requested) := by
  by_cases allowed : canTransition q.status requested = true <;>
    simp [transitionThen, call_transition, Except.bind, Except.map, allowed]

/-- What every status change keeps: the operation's identity and the number
of attempts; and the table allowed it. -/
structure Moved (q q' : IntegrationRequest) (requested : RequestStatus) : Prop where
  allowed : canTransition q.status requested = true
  status : q'.status = requested
  id : q'.id = q.id
  provider : q'.provider = q.provider
  attemptCount : q'.attemptCount = q.attemptCount

/-- A write that leaves the life cycle alone. -/
structure Kept (q q' : IntegrationRequest) : Prop where
  status : q'.status = q.status
  id : q'.id = q.id
  provider : q'.provider = q.provider
  attemptCount : q'.attemptCount = q.attemptCount

theorem Kept.moved {q linked q' : IntegrationRequest} {requested : RequestStatus} (kept : Kept q linked)
    (change : Moved linked q' requested) : Moved q q' requested :=
  ⟨kept.status ▸ change.allowed, change.status, change.id.trans kept.id,
    change.provider.trans kept.provider, change.attemptCount.trans kept.attemptCount⟩

theorem moved_of_transitionThen {q q' : IntegrationRequest} {requested : RequestStatus} {now : Instant}
    {write : IntegrationRequest → IntegrationRequest} {applied : StatusTransition}
    (run : call (transitionThen requested now write) q = .ok (applied, q'))
    (keeps : ∀ q, Kept q (write q)) : Moved q q' requested := by
  rw [call_transitionThen] at run
  split at run
  · rename_i allowed
    cases run
    have kept := keeps (q.moved requested now)
    exact ⟨allowed, kept.status, kept.id, kept.provider, kept.attemptCount⟩
  · cases run

theorem moved_of_markAccepted {q q' : IntegrationRequest} {reference : String} {now : Instant}
    {applied : StatusTransition} (run : call (markAccepted reference now) q = .ok (applied, q')) :
    Moved q q' .pending := by
  unfold markAccepted at run
  split at run
  · simp at run
  · exact moved_of_transitionThen run fun _ => ⟨rfl, rfl, rfl, rfl⟩

theorem call_some_map {q q' : IntegrationRequest} {method : Mutator Exn IntegrationRequest StatusTransition}
    {applied : Option StatusTransition} (run : call (some <$> method) q = .ok (applied, q')) :
    ∃ made, applied = some made ∧ call method q = .ok (made, q') := by
  rw [call_map] at run
  obtain ⟨⟨made, q''⟩, inner, same⟩ := Rows.map_eq_ok.mp run
  cases same
  exact ⟨made, rfl, inner⟩

theorem moved_of_applyTarget {q q' : IntegrationRequest} {target : RequestStatus} {now : Instant}
    {reference : Option String} {failure : Option FailureDetail} {made : StatusTransition}
    (run : call (applyTarget target now reference failure) q = .ok (some made, q')) :
    Moved q q' target := by
  unfold applyTarget at run
  split at run
  case h_4 =>
    simp only [call_bind, call_get, Except.bind, call_ite] at run
    generalize (if truthy reference then reference else q.providerReference) = known at run
    split at run
    · simp at run
    · obtain ⟨_, _, run⟩ := call_some_map run
      exact moved_of_markAccepted run
  case h_5 => simp at run
  all_goals
    obtain ⟨_, _, run⟩ := call_some_map run
    exact moved_of_transitionThen run fun _ => ⟨rfl, rfl, rfl, rfl⟩

/-- A provider report that is applied is one allowed status change to the
status it projects to. -/
theorem moved_of_applyNormalizedStatus {q q' : IntegrationRequest} {status : NormalizedStatus} {now : Instant}
    {reference : Option String} {failure : Option FailureDetail} {made : StatusTransition}
    (run : call (applyNormalizedStatus status now reference failure) q = .ok (some made, q')) :
    ∃ target, projectNormalizedStatus status = some target ∧ Moved q q' target := by
  simp only [applyNormalizedStatus, call_bind, call_get, Except.bind] at run
  split at run
  · simp at run
  · rename_i target projected
    rw [call_ite] at run
    split at run
    · simp at run
    · simp only [call_bind, call_modify, Except.bind] at run
      have kept : Kept q (q.linked reference) := by
        unfold linked
        split <;> exact ⟨rfl, rfl, rfl, rfl⟩
      exact ⟨target, projected, kept.moved (moved_of_applyTarget run)⟩

theorem attachProviderReference_ok {q q' : IntegrationRequest} {reference : String} {now : Instant}
    (run : perform (attachProviderReference reference now) q = .ok q') :
    reference ≠ "" ∧ q' = { q with providerReference := some reference }.touched now := by
  obtain ⟨out, called, rfl⟩ := Rows.map_eq_ok.mp run
  simp only [attachProviderReference, call_bind, call_get, Except.bind, call_ite] at called
  split at called
  · simp at called
  · rename_i given
    split at called
    · simp at called
    · simp only [call_set, Except.ok.injEq] at called
      subst called
      exact ⟨given, rfl⟩

end IntegrationRequest

end IntegrationOrchestrator
