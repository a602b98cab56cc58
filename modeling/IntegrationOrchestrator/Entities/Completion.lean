import IntegrationOrchestrator.Entities.RequestLife

namespace IntegrationOrchestrator

open Mutator

namespace IntegrationRequest

/-- The columns that tell an operator how a request ended, or why it waits for
one. -/
@[mk_iff] structure Coherent (q : IntegrationRequest) : Prop where
  completedAt : q.completedAt.isSome = true ↔ q.status = .succeeded ∨ q.status = .failed ∨ q.status = .cancelled
  manualReviewReason : q.manualReviewReason.isSome = true ↔ q.status = .manualReview

end IntegrationRequest

/-- The operation clears the columns of the status it leaves: it does not
escalate a failed request, and it takes a request out of manual review only by
restoring it for a retry or by cancelling it for a reason. -/
def RequestOperation.tidies (q : IntegrationRequest) : RequestOperation → Bool
  | .beginDispatch _ => q.status ≠ .manualReview
  | .markSucceeded _ _ => q.status ≠ .manualReview
  | .markFailed _ _ => q.status ≠ .manualReview
  | .scheduleRetry _ _ _ => q.status ≠ .manualReview
  | .markCancelled _ reason => q.status ≠ .manualReview || truthy reason
  | .markManualReview _ _ => q.status ≠ .failed
  | .applyNormalizedStatus status _ _ _ => q.status ≠ .manualReview || status ∉ [.succeeded, .failed]
  | _ => true

/-- Every operation of the sequence clears the columns of the status it leaves. -/
def IntegrationRequest.tidy (q : IntegrationRequest) : List RequestOperation → Bool
  | [] => true
  | operation :: rest => operation.tidies q && (operation.after q).tidy rest

namespace IntegrationRequest

variable {q : IntegrationRequest} {now : Instant}

theorem coherent_transitionThen_iff {requested : RequestStatus} {write : IntegrationRequest → IntegrationRequest}
    {condition : Bool} (coherent : Coherent q)
    (changed : canTransition q.status requested = true →
      (Coherent (write (q.moved requested now)) ↔ condition = true))
    (refused : canTransition q.status requested = false → condition = true) :
    Coherent (Mutator.after (transitionThen requested now write) q) ↔ condition = true := by
  rw [after_transitionThen]
  by_cases allowed : canTransition q.status requested = true
  · rw [if_pos allowed]
    exact changed allowed
  · rw [if_neg allowed]
    exact ⟨fun _ => refused (by simpa using allowed), fun _ => coherent⟩

theorem after_applyNormalizedStatus (status : NormalizedStatus) (reported : Option String)
    (failure : Option FailureDetail) (target : RequestStatus) (projected : projectNormalizedStatus status = some target) :
    Mutator.after (applyNormalizedStatus status now reported failure) q =
      if isForwardProgress q.status target then
        Mutator.after (applyTarget target now reported failure) (q.linked reported) else q := by
  rw [applyNormalizedStatus, after_bind _ (call_get q), projected]
  dsimp only
  by_cases forward : isForwardProgress q.status target = true
  · rw [if_neg (not_not.mpr forward), if_pos forward, after_bind _ (call_modify _ q)]
  · rw [if_pos forward, if_neg forward, after_pure]

theorem after_discard {α : Type} (method : Mutator Exn IntegrationRequest α) (q : IntegrationRequest) :
    Mutator.after (Functor.discard method) q = Mutator.after method q := after_map ..

section changes

variable (coherent : Coherent q)
include coherent

theorem coherent_markSucceeded_iff (reference : Option String) :
    Coherent (Mutator.after (markSucceeded now reference) q) ↔ decide (q.status ≠ .manualReview) = true := by
  refine coherent_transitionThen_iff coherent (fun allowed => ?_) (fun refused => ?_)
  · have reason := coherent.manualReviewReason
    simp only [coherent_iff, clearedError, moved, touched]
    cases status : q.status <;> simp_all [canTransition, transitions]
  · cases status : q.status <;> simp_all [canTransition, transitions]

theorem coherent_markFailed_iff (failure : FailureDetail) :
    Coherent (Mutator.after (markFailed failure now) q) ↔ decide (q.status ≠ .manualReview) = true := by
  refine coherent_transitionThen_iff coherent (fun allowed => ?_) (fun refused => ?_)
  · have reason := coherent.manualReviewReason
    simp only [coherent_iff, withFailure, moved, touched]
    cases status : q.status <;> simp_all [canTransition, transitions]
  · cases status : q.status <;> simp_all [canTransition, transitions]

theorem coherent_markCancelled_iff (reason : Option String) :
    Coherent (Mutator.after (markCancelled now reason) q) ↔
      (decide (q.status ≠ .manualReview) || truthy reason) = true := by
  refine coherent_transitionThen_iff coherent (fun allowed => ?_) (fun refused => ?_)
  · have review := coherent.manualReviewReason
    simp only [coherent_iff, moved, touched]
    cases given : truthy reason <;> cases status : q.status <;> simp_all [canTransition, transitions]
  · cases status : q.status <;> simp_all [canTransition, transitions]

theorem coherent_markAccepted (reference : String) : Coherent (Mutator.after (markAccepted reference now) q) := by
  unfold markAccepted
  split
  · exact coherent
  · rw [after_transitionThen]
    split
    · rename_i allowed
      have status := dispatching_of_pending allowed
      have completed := coherent.completedAt
      have reason := coherent.manualReviewReason
      simp_all [coherent_iff, clearedError, moved, touched]
    · exact coherent

theorem coherent_linked (reported : Option String) : Coherent (q.linked reported) := by
  unfold linked
  split
  · exact ⟨coherent.completedAt, coherent.manualReviewReason⟩
  · exact coherent

theorem coherent_applyNormalizedStatus_iff (status : NormalizedStatus) (reported : Option String)
    (failure : Option FailureDetail) :
    Coherent (Mutator.after (applyNormalizedStatus status now reported failure) q) ↔
      (decide (q.status ≠ .manualReview) || decide (status ∉ [.succeeded, .failed])) = true := by
  have there := coherent_linked coherent reported
  cases projected : projectNormalizedStatus status with
  | none =>
    have stays : call (applyNormalizedStatus status now reported failure) q = .ok (none, q) :=
      call_report_stays now reported failure (by simp [projected])
    rw [after_of_call stays]
    cases status <;> simp_all [projectNormalizedStatus]
  | some target =>
    rw [after_applyNormalizedStatus status reported failure target projected]
    by_cases forward : isForwardProgress q.status target = true
    · rw [if_pos forward]
      cases status with
      | accepted | pending =>
        cases projected
        have accepted : Coherent (Mutator.after (applyTarget .pending now reported failure) (q.linked reported)) := by
          rw [applyTarget, after_bind _ (call_get (q.linked reported))]
          dsimp only
          generalize (if truthy reported then reported else (q.linked reported).providerReference) = reference
          split
          · exact there
          · rw [after_map]
            exact coherent_markAccepted there _
        exact iff_of_true accepted (by simp)
      | succeeded =>
        cases projected
        rw [applyTarget, after_map, coherent_markSucceeded_iff there, linked_status]
        simp
      | failed =>
        cases projected
        rw [applyTarget, after_map, coherent_markFailed_iff there, linked_status]
        simp
      | cancelled =>
        cases projected
        rw [applyTarget, after_map, coherent_markCancelled_iff there, linked_status]
        simp [truthy]
      | unknown => cases projected
    · rw [if_neg forward]
      refine iff_of_true coherent ?_
      by_contra refused
      simp only [Bool.or_eq_true, decide_eq_true_eq, not_or, not_not] at refused
      obtain ⟨review, settled⟩ := refused
      rw [review] at forward
      cases status <;> cases projected <;>
        simp [isForwardProgress, canTransition, transitions, RequestStatus.isTerminal] at forward settled

/-- An operation keeps a request coherent exactly if it clears the columns of
the status it leaves. -/
theorem coherent_after_iff (operation : RequestOperation) :
    Coherent (operation.after q) ↔ operation.tidies q = true := by
  unfold RequestOperation.after RequestOperation.tidies
  have completed := coherent.completedAt
  have reason := coherent.manualReviewReason
  cases operation with
  | beginValidation now =>
    refine iff_of_true ?_ rfl
    rw [RequestOperation.method, after_discard, beginValidation, after_transition]
    split
    · rename_i allowed
      have status := received_of_validating allowed
      simp_all [coherent_iff, moved, touched]
    · exact coherent
  | recordProviderPayload payload => exact iff_of_true ⟨completed, reason⟩ rfl
  | markAccepted reference now =>
    rw [RequestOperation.method, after_discard]
    exact iff_of_true (coherent_markAccepted coherent reference) rfl
  | markSucceeded now reference =>
    rw [RequestOperation.method, after_discard]
    exact coherent_markSucceeded_iff coherent reference
  | markFailed failure now =>
    rw [RequestOperation.method, after_discard]
    exact coherent_markFailed_iff coherent failure
  | beginDispatch | scheduleRetry | markManualReview =>
    rw [RequestOperation.method, after_discard]
    refine coherent_transitionThen_iff coherent (fun allowed => ?_) (fun refused => ?_)
    · simp only [coherent_iff, withFailure, moved, touched]
      cases status : q.status <;> simp_all [canTransition, transitions]
    · cases status : q.status <;> simp_all [canTransition, transitions]
  | markCancelled now given =>
    rw [RequestOperation.method, after_discard]
    exact coherent_markCancelled_iff coherent given
  | restoreForRetry nextRetryAt now =>
    rw [RequestOperation.method, after_discard]
    refine coherent_transitionThen_iff coherent (fun _ => ?_) (fun _ => rfl)
    simp [coherent_iff, moved, touched]
  | applyNormalizedStatus status now reported failure =>
    rw [RequestOperation.method, after_discard]
    exact coherent_applyNormalizedStatus_iff coherent status reported failure
  | attachProviderReference reference now =>
    refine iff_of_true ?_ rfl
    rw [RequestOperation.method, after_attachProviderReference]
    split
    · exact coherent
    · exact ⟨completed, reason⟩
  | touch now => exact iff_of_true ⟨completed, reason⟩ rfl

end changes

/-- A request stays coherent from its creation on, after every operation of a
sequence, exactly if every operation clears the columns of the status it leaves. -/
theorem coherent_life_iff (id : UUID) (provider : ProviderSlug) (operationType : OperationType)
    (externalReference : ExternalReference) (payload : Payload) (correlationId : CorrelationId) (created : Instant)
    (ownerSubject : Option String) (operations : List RequestOperation) :
    let q := create id provider operationType externalReference payload correlationId created ownerSubject
    (∀ n, Coherent (q.life (operations.take n))) ↔ q.tidy operations = true := by
  intro q
  have start : Coherent q := ⟨by simp [q, create], by simp [q, create]⟩
  clear_value q
  induction operations generalizing q with
  | nil => exact iff_of_true (fun n => by simpa [life] using start) rfl
  | cons operation rest ih =>
    rw [tidy, Bool.and_eq_true]
    constructor
    · intro always
      have next : Coherent (operation.after q) := by simpa [life] using always 1
      exact ⟨(coherent_after_iff start operation).mp next,
        (ih (operation.after q) next).mp fun n => always (n + 1)⟩
    · rintro ⟨first, remaining⟩ n
      have next : Coherent (operation.after q) := (coherent_after_iff start operation).mpr first
      cases n with
      | zero => exact start
      | succ n => exact (ih (operation.after q) next).mpr remaining n

end IntegrationRequest

namespace Sample

def fresh : IntegrationRequest := IntegrationRequest.create 1 provider .resourceProvision reference [] correlationId 0

def unreachable : FailureDetail :=
  { code := "provider_unavailable", message := "the provider could not be reached", category := .providerUnavailable
    retryable := true }

/-- A request that an operator has to look at is reported as done. -/
def reviewedThenDone : List RequestOperation :=
  [.beginValidation 1, .beginDispatch 2, .markManualReview "no reference" 3, .markSucceeded 4 none]

/-- A failed request is handed to an operator. -/
def failedThenReviewed : List RequestOperation :=
  [.beginValidation 1, .markFailed unreachable 2, .markManualReview "no reference" 3]

end Sample

/-- A request that succeeded keeps the reason of the review it went through, and
a request in review keeps the time at which it failed. -/
theorem stale_columns_kept :
    ((Sample.fresh.life Sample.reviewedThenDone).status = .succeeded ∧
      (Sample.fresh.life Sample.reviewedThenDone).manualReviewReason = some "no reference") ∧
    (Sample.fresh.life Sample.failedThenReviewed).status = .manualReview ∧
      (Sample.fresh.life Sample.failedThenReviewed).completedAt = some 2 :=
  ⟨⟨rfl, rfl⟩, rfl, rfl⟩

end IntegrationOrchestrator
