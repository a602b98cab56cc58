import IntegrationOrchestrator.Foundation.Exceptions
import IntegrationOrchestrator.Saga.Deadline
import IntegrationOrchestrator.Saga.Links
import IntegrationOrchestrator.Saga.Refreshing

namespace IntegrationOrchestrator

open WorkflowExecution Exceptions Mutator

/-- A computation that never asks a state machine for a transition that its
table does not have. -/
abbrev Legal {α : Type} (x : Except Exn α) : Prop := Avoids Exn.isInvalidStateTransition x

namespace WorkflowStepExecution

variable {step : WorkflowStepExecution} {status : WorkflowStepStatus} {now : Instant}

theorem legal_transitionTo (allowed : status ∈ stepTransitions step.status) :
    Legal (perform (transitionTo status now) step) := by
  rw [perform_transitionTo, if_pos allowed]
  exact avoids_ok _

theorem legal_markFailed (allowed : .failed ∈ stepTransitions step.status) (code message : Option String) :
    Legal (perform (markFailed now code message) step) := by
  rw [perform_markFailed_allowed allowed]
  exact avoids_ok _

theorem legal_markCompensated (compensating : step.status = .compensating) (requestId : Option UUID) :
    Legal (perform (markCompensated now requestId) step) := by
  rw [markCompensated, perform_write]
  exact legal_transitionTo (by simp [compensating, stepTransitions])

theorem legal_startStep (ready : step.status = .ready) (requestId : UUID) :
    Legal (perform (WorkflowOrchestrator.startStep now requestId) step) := by
  have started : perform (WorkflowStepExecution.markRunning now) step =
      .ok ({ step with attemptCount := step.attemptCount + 1 }.moved .running now) := by
    rw [markRunning, perform_write, perform_transitionTo, if_pos (by simp [ready, stepTransitions])]
  obtain ⟨⟨_, running⟩, called, _⟩ := Rows.map_eq_ok.mp started
  intro raised run
  simp [perform, WorkflowOrchestrator.startStep, called, Except.bind, Except.map] at run

end WorkflowStepExecution

namespace RequestDispatcher

open IntegrationRequest

variable {q : IntegrationRequest} {result : ProviderOperationResult} {actor : Actor} {now : Instant}

theorem legal_recorded {requested : RequestStatus} (allowed : canTransition q.status requested = true)
    (write : IntegrationRequest → IntegrationRequest) (action : AuditAction) (actor : Actor) (published : Bool) :
    Legal (recorded q (transitionThen requested now write) action actor published) := by
  refine Avoids.bind ?_ fun _ _ => avoids_ok _
  rw [call_transitionThen, if_pos allowed]
  exact avoids_ok _

theorem legal_claim (received : q.status = .received) (actor : Actor) (now later : Instant) :
    Legal (claim q actor now later) := by
  have validation : validated q actor now = .ok (q.moved .validating now, [transitionRecord (q.moved .validating now)
      { previousStatus := q.status, newStatus := .validating, occurredAt := now } .requestValidated actor false]) := by
    simp [validated, received, recorded, beginValidation, call_transition, canTransition, transitions, bind,
      Except.bind, pure, Except.pure]
  rw [claim, validation]
  have dispatch : Legal (claimForDispatch (q.moved .validating now) actor later) := legal_recorded rfl _ _ _ _
  exact dispatch.bind fun _ _ => avoids_ok _

theorem legal_escalate (dispatching : q.status = .dispatching) (reason : String) (actor : Actor) (now : Instant) :
    Legal (escalate q reason actor now) :=
  legal_recorded (by simp [dispatching, canTransition, transitions]) _ _ _ _

theorem legal_applyAcceptance (dispatching : q.status = .dispatching) (result : ProviderOperationResult)
    (actor : Actor) (now : Instant) : Legal (applyAcceptance q result actor now) := by
  have accepted : ∀ reference, Legal (recorded q (markAccepted reference now) .providerAccepted actor true) := by
    intro reference
    unfold markAccepted
    split
    · exact (avoids_error rfl).bind fun _ _ => avoids_ok _
    · exact legal_recorded (by simp [dispatching, canTransition, transitions]) _ _ _ _
  unfold applyAcceptance
  split
  · exact legal_recorded (by simp [dispatching, canTransition, transitions]) _ _ _ _
  · split
    · exact accepted _
    · exact legal_escalate dispatching _ _ _
  · split
    · exact accepted _
    · exact legal_escalate dispatching _ _ _
  · exact legal_recorded (by simp [dispatching, canTransition, transitions]) _ _ _ _
  · exact legal_escalate dispatching _ _ _
  · exact legal_escalate dispatching _ _ _

theorem legal_applyFailure (dispatching : q.status = .dispatching) (policy : RetryPolicy)
    (result : ProviderOperationResult) (actor : Actor) (now : Instant) (jitter : Rat) :
    Legal (applyFailure policy q result actor now jitter) := by
  unfold applyFailure
  dsimp only
  split
  · refine Avoids.bind ?_ fun _ _ => ?_
    · refine Avoids.bind ?_ fun _ _ => avoids_ok _
      unfold RetryPolicy.computeDelaySeconds
      split
      · exact avoids_error rfl
      · split
        · exact avoids_error rfl
        · dsimp only
          split
          · split <;> exact avoids_ok _
          · exact avoids_ok _
    · exact legal_recorded (by simp [dispatching, canTransition, transitions]) _ _ _ _
  · split
    · exact legal_escalate dispatching _ _ _
    · exact legal_recorded (by simp [dispatching, canTransition, transitions]) _ _ _ _

/-- The settle transaction of an attempt is legal: a request that has moved on
is left alone. -/
theorem legal_settle (policy : RetryPolicy) (current : IntegrationRequest) (result : ProviderOperationResult)
    (actor : Actor) (now : Instant) (jitter : Rat) : Legal (settle policy current result actor now jitter) := by
  unfold settle
  split
  · refine Avoids.bind ?_ fun _ _ => avoids_ok _
    unfold attachedIfNew
    split
    · refine Avoids.map ?_ _
      simp only [attachProviderReference, call_bind, call_get, Except.bind, call_ite, call_throw, call_set]
      split
      · exact avoids_error rfl
      · split
        · exact avoids_error rfl
        · exact avoids_ok _
    · exact avoids_ok _
  · rename_i dispatching
    have same := (withProviderRequest_kept current result).status.trans (not_not.mp dispatching)
    split
    · exact legal_applyAcceptance same result actor now
    · exact legal_applyFailure same policy result actor now jitter

end RequestDispatcher

namespace WorkflowExecution

variable {e : WorkflowExecution} {step : WorkflowStepExecution} {now : Instant}

theorem legal_transitionTo {status : WorkflowStatus} (allowed : status ∈ workflowTransitions e.status) :
    Legal (perform (transitionTo status now) e) := by
  rw [perform_transitionTo, if_pos allowed]
  exact avoids_ok _

theorem legal_stepByKey (e : WorkflowExecution) (key : String) : Legal (e.stepByKey key) := by
  unfold stepByKey
  split
  · exact avoids_ok _
  · exact avoids_error rfl

theorem legal_stepById (e : WorkflowExecution) (stepId : UUID) : Legal (e.stepById stepId) := by
  unfold stepById
  split
  · exact avoids_ok _
  · exact avoids_error rfl

theorem legal_allSucceeded (e : WorkflowExecution) (keys : List String) : Legal (e.allSucceeded keys) := by
  induction keys with
  | nil => exact avoids_ok _
  | cons key rest ih =>
    refine (legal_stepByKey e key).bind fun step _ => ?_
    split
    · exact avoids_ok _
    · exact ih

theorem legal_promoteReadySteps (e : WorkflowExecution) (now : Instant) : Legal (e.promoteReadySteps now) := by
  refine (avoids_mapM fun step _ => ?_).bind fun _ _ => avoids_ok _
  split
  · rename_i pending
    refine (legal_allSucceeded e step.dependsOn).bind fun satisfied _ => ?_
    split
    · exact WorkflowStepExecution.legal_transitionTo (by simp [pending, stepTransitions])
    · exact avoids_ok _
  · exact avoids_ok _

theorem legal_onStep {stepId : UUID} {method : Mutator Exn WorkflowStepExecution Unit}
    (found : ∀ step, e.steps.find? (·.id = stepId) = some step → Legal (perform method step)) :
    Legal (e.onStep stepId method) :=
  (avoids_modifyFirst rfl found).bind fun _ _ => avoids_ok _

end WorkflowExecution

namespace WorkflowOrchestrator

variable {e e' : WorkflowExecution} {t : Readings} {now : Instant} {stepId requestId minted : UUID}

theorem legal_movedTo {status : WorkflowStatus} (allowed : status ∈ workflowTransitions e.status)
    (action : AuditAction) (actor : Actor) (recordedAt : Instant) :
    Legal (movedTo e status action actor now recordedAt) :=
  (legal_transitionTo allowed).bind fun _ _ => avoids_ok _

/-- A refresh is legal unless a step failed before the execution ran. -/
theorem legal_refreshExecutionStatus (t : Readings)
    (started : ∀ step ∈ e.steps, step.status = .failed → e.status ∉ [WorkflowStatus.created, .queued]) :
    Legal (refreshExecutionStatus e t) := by
  unfold refreshExecutionStatus
  split
  · exact avoids_ok _
  · rename_i live
    split
    · rename_i fails
      simp only [Bool.and_eq_true, List.any_eq_true, decide_eq_true_eq] at fails
      obtain ⟨⟨step, member, failed⟩, forward⟩ := fails
      have moving := started step member failed
      refine legal_movedTo ?_ _ _ _
      cases status : e.status <;> simp_all [workflowTransitions]
    · split
      · rename_i waits
        simp only [Bool.and_eq_true, decide_eq_true_eq] at waits
        exact legal_movedTo (by simp [waits.2, workflowTransitions]) _ _ _
      · refine Avoids.bind ?_ fun resumed _ => ?_
        · unfold resumeRunning
          split
          · rename_i resumes
            simp only [Bool.and_eq_true, decide_eq_true_eq] at resumes
            refine (legal_transitionTo (by simp [resumes.1.1, workflowTransitions])).bind fun running _ => ?_
            exact legal_promoteReadySteps running _
          · exact avoids_ok _
        · unfold completeIfSucceeded
          split
          · rename_i complete
            simp only [Bool.and_eq_true, decide_eq_true_eq] at complete
            exact legal_movedTo (by simp [complete.2, workflowTransitions]) _ _ _
          · exact avoids_ok _

theorem legal_advance (requests : UUID → Option IntegrationRequest) (t : Readings) (queued : e.status ≠ .created) :
    Legal (advance e requests t) := by
  unfold advance
  split
  · exact avoids_ok _
  · split
    · exact avoids_ok _
    · split
      · exact avoids_ok _
      · refine Avoids.bind ?_ fun running dequeue => ?_
        · unfold dequeued
          split
          · rename_i waits
            exact legal_transitionTo (by simp [waits, workflowTransitions])
          · exact avoids_ok _
        have dequeued : running.status ∉ [WorkflowStatus.created, .queued] := by
          unfold WorkflowOrchestrator.dequeued at dequeue
          split at dequeue
          · obtain ⟨_, rfl⟩ := perform_transitionTo_ok dequeue
            simp
          · rename_i started
            cases dequeue
            simp [queued, started]
        refine (avoids_mapM fun step _ => ?_).bind fun steps _ => ?_
        · rcases resumeWaitingStep_cases requests t.now step with ⟨_, step', ran, _⟩ | ⟨_, ran⟩
          · rw [ran]
            exact avoids_ok _
          · rw [ran]
            exact avoids_ok _
        refine (legal_promoteReadySteps _ _).bind fun promoted promotion => ?_
        have status : promoted.status = running.status := by rw [(promoteReadySteps_each promotion).1]
        refine (legal_refreshExecutionStatus t fun _ _ _ => status ▸ dequeued).bind fun _ _ => ?_
        exact avoids_ok _

theorem legal_stepRequest (e : WorkflowExecution) (step : WorkflowStepExecution) (operation : OperationType)
    (reference : String) (requestId minted : UUID) (now : Instant) :
    Legal (stepRequest e step operation reference requestId minted now) := by
  have correlation : ∀ text, Legal (CorrelationId.new text) := by
    intro text
    unfold CorrelationId.new
    split
    · exact avoids_ok _
    · exact avoids_error rfl
  refine Avoids.bind ?_ fun provider _ => Avoids.bind ?_ fun external _ => Avoids.bind ?_ fun _ _ => avoids_ok _
  · unfold ProviderSlug.parse ProviderSlug.new
    split
    · exact avoids_error rfl
    · split
      · exact avoids_ok _
      · exact avoids_error rfl
  · unfold ExternalReference.new
    split
    · exact avoids_error rfl
    · split
      · exact avoids_ok _
      · exact avoids_error rfl
  · unfold CorrelationId.parse
    split <;> exact correlation _

theorem legal_runForwardStep (e : WorkflowExecution) (stepId requestId minted : UUID) (now : Instant) :
    Legal (runForwardStep e stepId requestId minted now) := by
  refine (legal_stepById e stepId).bind fun step here => ?_
  split
  · exact avoids_ok _
  · rename_i ready
    split
    · exact avoids_ok _
    · split
      · exact avoids_ok _
      · refine (legal_onStep fun other found => ?_).bind fun _ _ => ?_
        · cases found.symm.trans (stepById_ok here)
          exact WorkflowStepExecution.legal_startStep (not_not.mp ready) requestId
        · exact (legal_stepRequest _ _ _ _ _ _ _).bind fun _ _ => avoids_ok _

/-- An execution at work expires legally. -/
theorem legal_enforceDeadline (forward : e.status ∈ forwardPhase) (t : Readings) : Legal (enforceDeadline e t) := by
  have expirable : e.status ∈ expirableStatuses := by
    simp only [forwardPhase, expirableStatuses, List.mem_cons, List.not_mem_nil, or_false] at forward ⊢
    grind
  obtain ⟨e', records, run⟩ := (expire_isOk_iff e t).mpr expirable
  unfold enforceDeadline
  split
  · exact avoids_ok _
  · split
    · exact avoids_ok _
    · split
      · exact avoids_ok _
      · rw [run]
        exact avoids_ok _

/-- The outcome of a dispatch is legal for a step that still runs. -/
theorem legal_forwardStep {dispatched : IntegrationRequest} {step : WorkflowStepExecution} (requestId : UUID)
    (now : Instant) (running : step.status = .running) : Legal (forwardStep requestId dispatched now step) := by
  unfold forwardStep
  split
  · rw [WorkflowStepExecution.perform_markSucceeded_allowed (by simp [running, stepTransitions])]
    exact avoids_ok _
  · rw [if_pos (by simp [running])]
    exact WorkflowStepExecution.legal_transitionTo (by simp [running, stepTransitions])
  · rw [if_pos (by simp [running])]
    exact WorkflowStepExecution.legal_markFailed (by simp [running, stepTransitions]) _ _
  · rw [if_pos (by simp [running])]
    exact WorkflowStepExecution.legal_markFailed (by simp [running, stepTransitions]) _ _
  · rw [if_pos running]
    exact WorkflowStepExecution.legal_transitionTo (by simp [running, stepTransitions])
  · exact avoids_ok _

theorem legal_settleForward {dispatched : IntegrationRequest} {step : WorkflowStepExecution}
    (found : e.steps.find? (·.id = stepId) = some step) (running : step.status = .running)
    (dequeued : e.status ∉ [WorkflowStatus.created, .queued]) (requestId : UUID) (t : Readings) :
    Legal (settleForward e stepId requestId dispatched t) := by
  refine (avoids_modifyFirst rfl fun other here => ?_).bind fun _ _ => ?_
  · cases found.symm.trans here
    exact legal_forwardStep requestId t.now running
  · exact legal_refreshExecutionStatus t fun _ _ _ => dequeued

/-- An outcome other than success changes nothing once its step has failed or
was cancelled. -/
theorem settleForward_again {dispatched : IntegrationRequest} {step : WorkflowStepExecution}
    (found : e.steps.find? (·.id = stepId) = some step) (unsuccessful : dispatched.status ≠ .succeeded)
    (closed : step.status ∈ [WorkflowStepStatus.failed, .cancelled]) (fixed : Refreshed e) (requestId : UUID)
    (t : Readings) : settleForward e stepId requestId dispatched t = .ok (e, []) := by
  have same : forwardStep requestId dispatched t.now step = .ok step := by
    unfold forwardStep
    rcases List.mem_pair.mp closed with status | status <;> split <;> simp_all
  rw [settleForward, Rows.modifyFirst_same found same]
  exact fixed.refresh t

/-- A terminal request that did not succeed is legal for the running step it
was created for. -/
theorem legal_applyTerminal {request : IntegrationRequest} {step : WorkflowStepExecution}
    (found : e.steps.find? (Database.linksRequest request.id) = some step) (running : step.status = .running)
    (dequeued : e.status ∉ [WorkflowStatus.created, .queued]) (unsuccessful : request.status ≠ .succeeded)
    (t : Readings) : Legal (applyTerminal e request t) := by
  unfold applyTerminal
  rw [found]
  refine (avoids_modifyFirst rfl fun other here => ?_).bind fun steps _ => ?_
  · cases found.symm.trans here
    unfold terminalStep
    rw [if_pos (by simp [running])]
    split
    · rename_i succeeded
      exact absurd succeeded unsuccessful
    · rw [if_neg (by simp [running])]
      exact WorkflowStepExecution.legal_markFailed (by simp [running, stepTransitions]) _ _
    · rw [if_neg (by simp [running])]
      exact WorkflowStepExecution.legal_markFailed (by simp [running, stepTransitions]) _ _
    · exact WorkflowStepExecution.legal_transitionTo (by simp [running, stepTransitions])
    · exact avoids_ok _
  · have kept : compensationRejected { e with steps := steps } step request t = .ok ({ e with steps := steps }, []) := by
      simp [compensationRejected, running]
    rw [kept]
    have refresh : Legal (refreshExecutionStatus { e with steps := steps } t) :=
      legal_refreshExecutionStatus t fun _ _ _ => dequeued
    exact refresh.bind fun _ _ => avoids_ok _

theorem legal_continueCompensation (unique : (e.steps.map (·.id)).Nodup) (t : Readings) :
    Legal (continueCompensation e t) := by
  unfold continueCompensation
  split
  · exact avoids_ok _
  · rename_i unwinding
    have compensating : e.status = .compensating := not_not.mp unwinding
    split
    · rename_i step rest order
      obtain ⟨member, succeeded, _⟩ := succeededInReverse_head order
      refine (legal_onStep fun other found => ?_).bind fun _ _ => avoids_ok _
      cases found.symm.trans (find?_id_eq unique member rfl)
      exact WorkflowStepExecution.legal_transitionTo (by simp [succeeded, stepTransitions])
    · refine Avoids.bind ?_ fun _ _ => avoids_ok _
      unfold finishUnwind
      split
      · split
        · exact legal_movedTo (by simp [compensating, workflowTransitions]) _ _ _
        · exact legal_movedTo (by simp [compensating, workflowTransitions]) _ _ _
      · exact avoids_ok _

theorem legal_compensateStep {step : WorkflowStepExecution} (found : e.steps.find? (·.id = stepId) = some step)
    (compensating : step.status = .compensating) (requestId minted : UUID) (now : Instant) :
    Legal (compensateStep e stepId requestId minted now) := by
  refine (legal_stepById e stepId).bind fun other _ => ?_
  split
  · refine (legal_onStep fun other here => ?_).bind fun _ _ => avoids_ok _
    cases found.symm.trans here
    exact WorkflowStepExecution.legal_markCompensated compensating _
  · refine (legal_stepRequest _ _ _ _ _ _ _).bind fun _ _ => ?_
    exact (legal_onStep fun _ _ => avoids_ok _).bind fun _ _ => avoids_ok _

theorem legal_settleCompensation {dispatched : IntegrationRequest} {step : WorkflowStepExecution}
    (found : e.steps.find? (·.id = stepId) = some step) (compensating : step.status = .compensating)
    (unwinding : e.status = .compensating) (requestId : UUID) (now : Instant) :
    Legal (settleCompensation e stepId requestId dispatched now) := by
  have only : ∀ other, e.steps.find? (·.id = stepId) = some other → other.status = .compensating := by
    intro other here
    cases found.symm.trans here
    exact compensating
  unfold settleCompensation
  split
  · exact legal_onStep fun other here => WorkflowStepExecution.legal_markCompensated (only other here) _
  · exact avoids_ok _
  · refine (legal_stepById e stepId).bind fun other _ => ?_
    refine (legal_onStep fun other here => ?_).bind fun failed changed => ?_
    · exact WorkflowStepExecution.legal_markFailed (by simp [only other here, stepTransitions]) _ _
    · have status : failed.status = .compensating := by
        obtain ⟨steps, _, done⟩ := Rows.bind_eq_ok.mp changed
        cases done
        exact unwinding
      exact legal_transitionTo (by simp [status, workflowTransitions])

theorem refreshExecutionStatus_timedOut {records : List WorkflowRecord}
    (run : refreshExecutionStatus e t = .ok (e', records)) (before : e.status ≠ .timedOut) :
    e'.status ≠ .timedOut := by
  unfold refreshExecutionStatus at run
  split at run
  · cases run
    exact before
  · split at run
    · rw [(movedTo_ok run).2]
      simp
    · split at run
      · rw [(movedTo_ok run).2]
        simp
      · obtain ⟨resumed, first, second⟩ := Rows.bind_eq_ok.mp run
        have kept : resumed.status ≠ .timedOut := by
          unfold resumeRunning at first
          split at first
          · obtain ⟨running, moved, promoted⟩ := Rows.bind_eq_ok.mp first
            rw [(promoteReadySteps_each promoted).1, (perform_transitionTo_ok moved).2]
            simp
          · cases first
            exact before
        unfold completeIfSucceeded at second
        split at second
        · rw [(movedTo_ok second).2]
          simp
        · cases second
          exact kept

theorem compensationRejected_timedOut {records : List WorkflowRecord} {step : WorkflowStepExecution}
    {request : IntegrationRequest} (run : compensationRejected e step request t = .ok (e', records))
    (before : e.status ≠ .timedOut) : e'.status ≠ .timedOut := by
  rcases compensationRejected_cases run with ⟨rfl, _⟩ | ⟨_, _, _, rfl, ⟨_, rfl⟩ | ⟨_, rfl⟩⟩
  · exact before
  · simp
  · exact before

theorem unwindOrCancel_timedOut {previous : WorkflowStatus} {actor : Actor} {at' recordedAt : Instant}
    {records : List WorkflowRecord} (run : unwindOrCancel e previous actor at' recordedAt = .ok (e', records)) :
    e'.status ≠ .timedOut := by
  rcases unwindOrCancel_ok run with ⟨_, rfl⟩ | ⟨_, _, rfl⟩ <;> simp

end WorkflowOrchestrator

/-- No transaction leaves its execution timed out: the expiry goes on to
unwind or to cancel it. -/
theorem Transaction.timedOut {requests : UUID → Option IntegrationRequest} {input : Input} {e e' : WorkflowExecution}
    (transaction : Transaction requests input e e') (before : e.status ≠ .timedOut) : e'.status ≠ .timedOut := by
  cases transaction with
  | claim => exact before
  | advance run =>
    obtain ⟨_, running, steps, promoted, dequeue, _, promotion, refreshed⟩ := WorkflowOrchestrator.advance_commit run
    refine WorkflowOrchestrator.refreshExecutionStatus_timedOut refreshed ?_
    rw [(WorkflowOrchestrator.promoteReadySteps_each promotion).1]
    unfold WorkflowOrchestrator.dequeued at dequeue
    split at dequeue
    · rw [(perform_transitionTo_ok dequeue).2]
      simp
    · cases dequeue
      exact before
  | refresh run => exact WorkflowOrchestrator.refreshExecutionStatus_timedOut run before
  | start run =>
    obtain ⟨_, _, _, _, _, _, _, _, swap⟩ := WorkflowOrchestrator.runForwardStep_start run
    rw [swap.rest]
    exact before
  | settleForward run =>
    obtain ⟨steps, _, refreshed⟩ := Rows.bind_eq_ok.mp run
    exact WorkflowOrchestrator.refreshExecutionStatus_timedOut refreshed before
  | expire run =>
    obtain ⟨unprocessed, expired⟩ := WorkflowOrchestrator.enforceDeadline_ok run
    have status := (WorkflowOrchestrator.expire_expired expired unprocessed).status
    rcases List.mem_pair.mp status with status | status <;> simp [status]
  | cancel run =>
    rcases WorkflowOrchestrator.cancel_ok run with ⟨_, rfl, _⟩ | ⟨_, _, _, ending⟩
    · exact before
    · exact WorkflowOrchestrator.unwindOrCancel_timedOut ending
  | terminal run =>
    obtain ⟨_, _, rejected, _, _, _, _, noted, refreshed, _⟩ := WorkflowOrchestrator.applyTerminal_ok run
    have kept : rejected.status ≠ .timedOut := WorkflowOrchestrator.compensationRejected_timedOut noted before
    exact WorkflowOrchestrator.refreshExecutionStatus_timedOut refreshed kept
  | begin run =>
    obtain ⟨_, _, _, _, _, changed⟩ := WorkflowOrchestrator.continueCompensation_begun run
    obtain ⟨steps, _, done⟩ := Rows.bind_eq_ok.mp changed
    cases done
    exact before
  | finish run =>
    obtain ⟨_, finished⟩ := WorkflowOrchestrator.continueCompensation_finish run
    unfold WorkflowOrchestrator.finishUnwind at finished
    split at finished
    · split at finished <;> rw [(WorkflowOrchestrator.movedTo_ok finished).2] <;> simp
    · cases finished
      exact before
  | release run =>
    obtain ⟨_, _, _, changed⟩ := WorkflowOrchestrator.compensateStep_released run
    obtain ⟨steps, _, done⟩ := Rows.bind_eq_ok.mp changed
    cases done
    exact before
  | compensate run =>
    obtain ⟨_, _, _, _, _, _, swap⟩ := WorkflowOrchestrator.compensateStep_start run
    rw [swap.rest]
    exact before
  | settleCompensation run =>
    unfold WorkflowOrchestrator.settleCompensation at run
    split at run
    · obtain ⟨steps, _, done⟩ := Rows.bind_eq_ok.mp run
      cases done
      exact before
    · cases run
      exact before
    · obtain ⟨_, _, run⟩ := Rows.bind_eq_ok.mp run
      obtain ⟨_, _, performed⟩ := Rows.bind_eq_ok.mp run
      rw [(perform_transitionTo_ok performed).2]
      simp

/-- No run stores a timed-out execution. -/
theorem reachable_timedOut {settings : Settings} {allowed : Restriction} {c : Config}
    (reach : ReachableUnder settings allowed c) {executionId : UUID} {e : WorkflowExecution}
    (stored : c.state.db.executions.get executionId = some e) : e.status ≠ .timedOut := by
  refine reach.state_invariant (fun s => ∀ executionId e, s.db.executions.get executionId = some e →
    e.status ≠ .timedOut) (fun _ _ none => by cases none) ?_ executionId e stored
  intro c task input frame rest state pushed _ held _ _ ran executionId e stored
  cases Frame.executionStep ran with
  | same executions => exact held _ _ (executions ▸ stored)
  | inserts _ started _ executions =>
    rw [executions, Table.get_put] at stored
    split at stored
    · cases stored
      obtain ⟨origin, fresh, promoted⟩ := WorkflowOrchestrator.startExecution_ok started
      rw [(WorkflowOrchestrator.promoteReadySteps_each promoted).1]
      simp [fresh.queued]
    · exact held _ _ stored
  | commits before transaction executions =>
    rw [executions, Table.get_put] at stored
    split at stored
    · cases stored
      exact transaction.timedOut (held _ _ before)
    · exact held _ _ stored

section

variable {settings : Settings} {c : Config} {executionId : UUID} {e : WorkflowExecution} (reach : Reachable settings c)
  (stored : c.state.db.executions.get executionId = some e)

include reach stored

/-- No run commits an execution as timed out, created, failed, dead lettered or
scheduled for a retry, or a step as skipped or dead lettered. -/
theorem execution_statuses :
    e.status ∉ [WorkflowStatus.timedOut, .created, .retryScheduled, .failed, .deadLettered] ∧
      ∀ step ∈ e.steps, step.status ∉ [WorkflowStepStatus.skipped, .deadLettered] := by
  have sound := (reachable_good (Restriction.within_any _) reach).1.sound executionId e stored
  exact ⟨List.not_mem_cons_of_ne_of_not_mem (reachable_timedOut reach stored) sound.statuses, sound.stepStatuses⟩

/-- At no commit does an execution need a refresh, whatever the time. -/
theorem execution_refreshed (t : WorkflowOrchestrator.Readings) :
    WorkflowOrchestrator.refreshExecutionStatus e t = .ok (e, []) :=
  (reachable_refreshed reach executionId e stored).refresh t

/-- A request that a step is linked to leads to the execution and to the step. -/
theorem linked_step_found {step : WorkflowStepExecution} {requestId : UUID} (member : step ∈ e.steps)
    (link : Database.linksRequest requestId step = true) :
    c.state.db.executionByRequestId requestId = .ok (some e) ∧
      e.steps.find? (Database.linksRequest requestId) = some step :=
  ⟨executionByRequestId_linked reach stored member link, find_linked reach stored member link⟩

end

theorem Sample.linked : ∃ c, Reachable settings c ∧ ∃ e, c.state.db.executions.get 100 = some e ∧
    ∃ step ∈ e.steps, Database.linksRequest 200 step = true :=
  reachable_replay settings nearlyDone _ (by decide +kernel)

theorem execution_statuses_linked : ∃ c, Reachable Sample.settings c ∧
    ∃ e ∈ c.state.db.executions.rows, e.status ≠ .timedOut := by
  obtain ⟨c, reach, e, stored, _⟩ := Sample.linked
  exact ⟨c, reach, e, Table.mem_of_get stored, List.ne_of_not_mem_cons (execution_statuses reach stored).1⟩

theorem execution_refreshed_linked : ∃ e : WorkflowExecution, e.steps ≠ [] ∧
    ∀ t, WorkflowOrchestrator.refreshExecutionStatus e t = .ok (e, []) := by
  obtain ⟨c, reach, e, stored, step, member, _⟩ := Sample.linked
  exact ⟨e, List.ne_nil_of_mem member, execution_refreshed reach stored⟩

theorem linked_step_found_linked : ∃ c : Config, ∃ e, c.state.db.executionByRequestId 200 = .ok (some e) := by
  obtain ⟨c, reach, e, stored, step, member, link⟩ := Sample.linked
  exact ⟨c, e, (linked_step_found reach stored member link).1⟩

end IntegrationOrchestrator
