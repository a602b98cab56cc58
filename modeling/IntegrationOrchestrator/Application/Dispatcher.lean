import IntegrationOrchestrator.Domain.Policies
import IntegrationOrchestrator.Providers.Gateway
import IntegrationOrchestrator.Store

namespace IntegrationOrchestrator

/-- `WorkflowJournal.record_transition`. -/
def transitionRecord (q : IntegrationRequest) (made : StatusTransition) (action : AuditAction)
    (actor : Actor) (published : Bool) : RequestRecord :=
  { requestId := q.id, action := action, actor := actor, previous := some made.previousStatus
    new := made.newStatus, occurredAt := made.occurredAt, published := published }

/-- `WorkflowJournal.record_request_action`. -/
def actionRecord (q : IntegrationRequest) (action : AuditAction) (actor : Actor) (now : Instant) :
    RequestRecord :=
  { requestId := q.id, action := action, actor := actor, previous := some q.status
    new := q.status, occurredAt := now, published := false }

/-- `WorkflowJournal.record_creation`. -/
def creationRecord (q : IntegrationRequest) (actor : Actor) : RequestRecord :=
  { requestId := q.id, action := .requestReceived, actor := actor, previous := none
    new := q.status, occurredAt := q.createdAt, published := true }

namespace RequestDispatcher

open IntegrationRequest Mutator

/-- A request as one transaction leaves it, with the rows written about it. -/
abbrev Outcome := Except Exn (IntegrationRequest × List RequestRecord)

/-- Make one status change and record it. -/
def recorded (q : IntegrationRequest) (method : Mutator Exn IntegrationRequest StatusTransition)
    (action : AuditAction) (actor : Actor) (published : Bool) : Outcome := do
  let (made, q) ← call method q
  return (q, [transitionRecord q made action actor published])

def claimForDispatch (q : IntegrationRequest) (actor : Actor) (now : Instant) : Outcome :=
  recorded q (beginDispatch now) .dispatchAttempted actor true

def validated (q : IntegrationRequest) (actor : Actor) (now : Instant) : Outcome :=
  if q.status = .received then recorded q (beginValidation now) .requestValidated actor false
  else .ok (q, [])

/-- Phase 1 of `dispatch`: the claim transaction, which reads the clock for
each change. -/
def claim (q : IntegrationRequest) (actor : Actor) (now later : Instant) : Outcome := do
  let (q, first) ← validated q actor now
  let (q, second) ← claimForDispatch q actor later
  return (q, first ++ second)

/-- The exception handling of `_call_provider`. -/
def providerAnswer : Except Exn ProviderOperationResult → Except Exn ProviderOperationResult
  | .error (.unsupportedOperation message) => .ok (.failure
      { code := "unsupported_operation", message := message, category := .unsupportedOperation
        retryable := false })
  | .error (.provider error) => .ok (.failure error)
  | .error (.providerOperationNotFound error) => .ok (.failure error)
  | answer => answer

def escalate (q : IntegrationRequest) (reason : String) (actor : Actor) (now : Instant) : Outcome :=
  recorded q (markManualReview reason now) .movedToManualReview actor true

def applyAcceptance (q : IntegrationRequest) (result : ProviderOperationResult) (actor : Actor)
    (now : Instant) : Outcome :=
  match result.normalizedStatus with
  | .succeeded => recorded q (markSucceeded now result.providerReference) .providerAccepted actor true
  | .accepted | .pending =>
    if truthy result.providerReference then
      recorded q (markAccepted (result.providerReference.getD "") now) .providerAccepted actor true
    else escalate q "the provider accepted the operation without returning a reference" actor now
  | .cancelled => recorded q (markCancelled now (some "cancelled by the provider")) .requestCancelled actor true
  | .failed | .unknown =>
    escalate q ("the provider reported a status the adapter could not interpret: " ++
      (if truthy result.providerStatus then result.providerStatus.getD "" else "unspecified")) actor now

/-- The reason used if a rejected result carried none. -/
def missingError : ProviderErrorInfo :=
  { code := "provider_error"
    message := "the provider call failed without a reported reason"
    category := .internal
    retryable := false }

def applyFailure (policy : RetryPolicy) (q : IntegrationRequest) (result : ProviderOperationResult)
    (actor : Actor) (now : Instant) (jitter : Rat) : Outcome := do
  let error := result.error.getD missingError
  if policy.shouldRetry q.attemptCount error.retryable then
    let nextRetryAt ← policy.nextRetryAt now q.attemptCount jitter error.retryAfterSeconds
    recorded q (scheduleRetry error.toFailureDetail nextRetryAt now) .retryScheduled actor true
  else
    let exhausted := error.retryable && ¬ policy.hasAttemptsRemaining q.attemptCount
    if exhausted && error.category = .providerTimeout then
      escalate q "retries were exhausted on an ambiguous provider timeout" actor now
    else
      recorded q (markFailed error.toFailureDetail now)
        (if exhausted then .retriesExhausted else .providerFailed) actor true

def attachedIfNew (q : IntegrationRequest) (result : ProviderOperationResult) (now : Instant) :
    Except Exn IntegrationRequest :=
  if truthy result.providerReference && ¬ truthy q.providerReference then
    perform (attachProviderReference (result.providerReference.getD "") now) q
  else .ok q

/-- A dispatch outcome that arrived after the request already moved on. -/
def recordSuperseded (q : IntegrationRequest) (result : ProviderOperationResult) (actor : Actor)
    (now : Instant) : Outcome := do
  let q ← attachedIfNew q result now
  return (q, [actionRecord q .stateReconciled actor now])

/-- The redacted provider-shaped request an adapter handed back. -/
def withProviderRequest (q : IntegrationRequest) (result : ProviderOperationResult) : IntegrationRequest :=
  match Payload.get result.rawResponseMetadata "provider_request" with
  | some (.obj payload) => q.recordProviderPayload payload
  | _ => q

/-- Phase 3: the settle transaction of `complete_attempt`, on the reloaded row. -/
def settle (policy : RetryPolicy) (current : IntegrationRequest) (result : ProviderOperationResult)
    (actor : Actor) (now : Instant) (jitter : Rat) : Outcome :=
  if current.status ≠ .dispatching then recordSuperseded current result actor now
  else if result.accepted then applyAcceptance (withProviderRequest current result) result actor now
  else applyFailure policy (withProviderRequest current result) result actor now jitter

/-- The statuses after which `dispatch` calls the terminal hook. -/
def notifiesTerminal (status : RequestStatus) : Bool :=
  status ∈ [.succeeded, .failed, .cancelled, .manualReview, .pending]

variable {q q' : IntegrationRequest} {actor : Actor} {now : Instant} {records : List RequestRecord}

theorem recorded_ok {method : Mutator Exn IntegrationRequest StatusTransition} {action : AuditAction}
    {published : Bool} (run : recorded q method action actor published = .ok (q', records)) :
    ∃ made, call method q = .ok (made, q') := by
  obtain ⟨⟨made, q''⟩, called, done⟩ := Rows.bind_eq_ok.mp run
  cases done
  exact ⟨made, called⟩

theorem withProviderRequest_kept (q : IntegrationRequest) (result : ProviderOperationResult) :
    Kept q (withProviderRequest q result) := by
  unfold withProviderRequest
  split <;> exact ⟨rfl, rfl, rfl, rfl⟩

theorem escalate_moved {reason : String} (run : escalate q reason actor now = .ok (q', records)) :
    Moved q q' .manualReview := by
  obtain ⟨_, called⟩ := recorded_ok run
  exact moved_of_transitionThen called fun _ => ⟨rfl, rfl, rfl, rfl⟩

/-- An accepted answer settles a request; it never schedules a retry. -/
theorem applyAcceptance_moved {result : ProviderOperationResult}
    (run : applyAcceptance q result actor now = .ok (q', records)) :
    ∃ target ∈ [RequestStatus.pending, .succeeded, .cancelled, .manualReview], Moved q q' target := by
  unfold applyAcceptance at run
  split at run
  · obtain ⟨_, called⟩ := recorded_ok run
    exact ⟨.succeeded, by simp, moved_of_transitionThen called fun _ => ⟨rfl, rfl, rfl, rfl⟩⟩
  · split at run
    · obtain ⟨_, called⟩ := recorded_ok run
      exact ⟨.pending, by simp, moved_of_markAccepted called⟩
    · exact ⟨.manualReview, by simp, escalate_moved run⟩
  · split at run
    · obtain ⟨_, called⟩ := recorded_ok run
      exact ⟨.pending, by simp, moved_of_markAccepted called⟩
    · exact ⟨.manualReview, by simp, escalate_moved run⟩
  · obtain ⟨_, called⟩ := recorded_ok run
    exact ⟨.cancelled, by simp, moved_of_transitionThen called fun _ => ⟨rfl, rfl, rfl, rfl⟩⟩
  · exact ⟨.manualReview, by simp, escalate_moved run⟩
  · exact ⟨.manualReview, by simp, escalate_moved run⟩

/-- A failure schedules a durable retry exactly on a retryable error with
attempts left; otherwise the request fails or is escalated. -/
theorem applyFailure_moved {policy : RetryPolicy} {result : ProviderOperationResult} {jitter : Rat}
    (run : applyFailure policy q result actor now jitter = .ok (q', records)) :
    (Moved q q' .retryScheduled ∧
      policy.shouldRetry q.attemptCount (result.error.getD missingError).retryable = true) ∨
    Moved q q' .failed ∨ Moved q q' .manualReview := by
  unfold applyFailure at run
  dsimp only at run
  split at run
  · rename_i retry
    obtain ⟨_, _, run⟩ := Rows.bind_eq_ok.mp run
    obtain ⟨_, called⟩ := recorded_ok run
    exact Or.inl ⟨moved_of_transitionThen called fun _ => ⟨rfl, rfl, rfl, rfl⟩, retry⟩
  · split at run
    · exact Or.inr (Or.inr (escalate_moved run))
    · obtain ⟨_, called⟩ := recorded_ok run
      exact Or.inr (Or.inl (moved_of_transitionThen called fun _ => ⟨rfl, rfl, rfl, rfl⟩))

theorem recordSuperseded_kept {result : ProviderOperationResult}
    (run : recordSuperseded q result actor now = .ok (q', records)) : Kept q q' := by
  obtain ⟨q'', attached, done⟩ := Rows.bind_eq_ok.mp run
  cases done
  unfold attachedIfNew at attached
  split at attached
  · obtain ⟨_, rfl⟩ := attachProviderReference_ok attached
    exact ⟨rfl, rfl, rfl, rfl⟩
  · cases attached
    exact ⟨rfl, rfl, rfl, rfl⟩

/-- The statuses a settled attempt can leave its request in. -/
def settledStatuses : List RequestStatus :=
  [.pending, .succeeded, .cancelled, .manualReview, .retryScheduled, .failed]

/-- Everything the settle transaction can do: an outcome that arrives late
leaves the life cycle alone, and otherwise the attempt ends in one status
change, to `retry_scheduled` only on a retryable error with attempts left. -/
theorem settle_cases {policy : RetryPolicy} {result : ProviderOperationResult} {jitter : Rat}
    (run : settle policy q result actor now jitter = .ok (q', records)) :
    (q.status ≠ .dispatching ∧ Kept q q') ∨
    (q.status = .dispatching ∧ ∃ target ∈ settledStatuses, Moved q q' target ∧
      (target = .retryScheduled → result.accepted = false ∧
        policy.shouldRetry q.attemptCount (result.error.getD missingError).retryable = true)) := by
  have kept := withProviderRequest_kept q result
  unfold settle at run
  split at run
  · rename_i late
    exact Or.inl ⟨late, recordSuperseded_kept run⟩
  · rename_i current
    refine Or.inr ⟨not_not.mp current, ?_⟩
    split at run
    · obtain ⟨target, member, change⟩ := applyAcceptance_moved run
      refine ⟨target, ?_, kept.moved change, ?_⟩
      · simp only [List.mem_cons, List.not_mem_nil, or_false] at member
        rcases member with rfl | rfl | rfl | rfl <;> simp [settledStatuses]
      · rintro rfl
        simp at member
    · rename_i rejected
      rcases applyFailure_moved run with ⟨change, retry⟩ | change | change
      · rw [kept.attemptCount] at retry
        exact ⟨.retryScheduled, by simp [settledStatuses], kept.moved change,
          fun _ => ⟨by simpa using rejected, retry⟩⟩
      · exact ⟨.failed, by simp [settledStatuses], kept.moved change, by simp⟩
      · exact ⟨.manualReview, by simp [settledStatuses], kept.moved change, by simp⟩

/-- A claim moves the request into `dispatching` and counts the attempt. -/
theorem claimForDispatch_ok (run : claimForDispatch q actor now = .ok (q', records)) :
    canTransition q.status .dispatching = true ∧ q'.status = .dispatching ∧ q'.id = q.id ∧
      q'.provider = q.provider ∧ q'.attemptCount = q.attemptCount + 1 := by
  obtain ⟨_, called⟩ := recorded_ok run
  simp only [beginDispatch, call_transitionThen] at called
  split at called
  · rename_i allowed
    cases called
    exact ⟨allowed, rfl, rfl, rfl, rfl⟩
  · cases called

theorem claim_ok {later : Instant} (run : claim q actor now later = .ok (q', records)) :
    (q.status = .received ∨ canTransition q.status .dispatching = true) ∧ q'.status = .dispatching ∧
      q'.id = q.id ∧ q'.provider = q.provider ∧ q'.attemptCount = q.attemptCount + 1 := by
  obtain ⟨⟨ready, _⟩, first, run⟩ := Rows.bind_eq_ok.mp run
  obtain ⟨⟨claimed, _⟩, second, done⟩ := Rows.bind_eq_ok.mp run
  cases done
  obtain ⟨allowed, status, id, provider, attempts⟩ := claimForDispatch_ok second
  unfold validated at first
  split at first
  · rename_i received
    obtain ⟨_, called⟩ := recorded_ok first
    simp only [beginValidation, call_transition] at called
    split at called
    · cases called
      exact ⟨Or.inl received, status, id, provider, attempts⟩
    · cases called
  · cases first
    exact ⟨Or.inr allowed, status, id, provider, attempts⟩

end RequestDispatcher

end IntegrationOrchestrator
