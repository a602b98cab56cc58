import IntegrationOrchestrator.Saga.StepFacts

namespace IntegrationOrchestrator

namespace WorkflowOrchestrator

open WorkflowExecution Mutator

variable {ev : Evidence} {licence : Licence} {now : Instant} {t : Readings} {e e' : WorkflowExecution}
  {records : List WorkflowRecord}

/-- What the transactions rely on about the requests a step is linked to. -/
structure Linked (ev : Evidence) (e : WorkflowExecution) : Prop where
  forward : ∀ step ∈ e.steps, ∀ requestId, step.integrationRequestId = some requestId →
    ev.created .forward step.id requestId
  phase : ∀ step ∈ e.steps, step.compensationRequestId ≠ none →
    step.status ∈ [WorkflowStepStatus.compensating, .compensated, .failed]
  compensation : ∀ step ∈ e.steps, ∀ requestId, step.status = .compensating →
    step.compensationRequestId = some requestId → ev.created .compensation step.id requestId

theorem promoteReadySteps_moves {at' : Instant} (run : e.promoteReadySteps at' = .ok e')
    (live : e.status.isTerminal = false) : Moves ev licence now e e' := by
  obtain ⟨steps, each, done⟩ := Rows.bind_eq_ok.mp run
  cases done
  refine (Move.steps ?_).moves
  refine (Rows.mapM_ok_iff.mp each).imp fun step step' change => ?_
  split at change
  · rename_i pending
    obtain ⟨satisfied, deps, change⟩ := Rows.bind_eq_ok.mp change
    split at change
    · rename_i yes
      subst yes
      obtain ⟨_, rfl⟩ := WorkflowStepExecution.perform_transitionTo_ok change
      exact .ready pending deps live
    · cases change
      exact .keep
  · cases change
    exact .keep

theorem movedTo_ok {status : WorkflowStatus} {action : AuditAction} {actor : Actor} {at' recordedAt : Instant}
    (run : movedTo e status action actor at' recordedAt = .ok (e', records)) :
    status ∈ workflowTransitions e.status ∧ e' = e.moved status at' := by
  obtain ⟨moved, performed, done⟩ := Rows.bind_eq_ok.mp run
  cases done
  exact perform_transitionTo_ok performed

theorem movedTo_allowed {status : WorkflowStatus} (allowed : status ∈ workflowTransitions e.status)
    (action : AuditAction) (actor : Actor) (at' recordedAt : Instant) :
    movedTo e status action actor at' recordedAt =
      .ok (e.moved status at', [record e action actor e.status status recordedAt]) := by
  unfold movedTo
  rw [perform_transitionTo, if_pos allowed]
  rfl

theorem resumeRunning_moves {at' : Instant} (run : resumeRunning e at' = .ok e') : Moves ev licence now e e' := by
  unfold resumeRunning at run
  split at run
  · rename_i resumes
    obtain ⟨resumed, performed, run⟩ := Rows.bind_eq_ok.mp run
    obtain ⟨_, rfl⟩ := perform_transitionTo_ok performed
    have waiting : e.status = .waiting := by simp_all
    have first : Moves ev licence now e (e.moved .running at') := (Move.status (.run (by simp [waiting]))).moves
    exact first.trans (promoteReadySteps_moves run rfl)
  · cases run
    exact .refl

theorem completeIfSucceeded_moves (run : completeIfSucceeded e t = .ok (e', records)) : Moves ev licence now e e' := by
  unfold completeIfSucceeded at run
  split at run
  · rename_i complete
    obtain ⟨_, rfl⟩ := movedTo_ok run
    simp only [Bool.and_eq_true, decide_eq_true_eq, allForwardSucceeded, List.all_eq_true] at complete
    exact (Move.status (.succeed complete.2 complete.1)).moves
  · cases run
    exact .refl

theorem compensating_from {status : WorkflowStatus} (allowed : .compensating ∈ workflowTransitions status) :
    status ∈ [WorkflowStatus.running, .waiting, .retryScheduled, .timedOut] ∨ status = .manualReview := by
  cases status <;> simp [workflowTransitions] at allowed ⊢

theorem refreshExecutionStatus_moves (run : refreshExecutionStatus e t = .ok (e', records)) :
    Moves ev licence now e e' := by
  unfold refreshExecutionStatus at run
  split at run
  · cases run
    exact .refl
  · split at run
    · rename_i failed
      obtain ⟨allowed, rfl⟩ := movedTo_ok run
      rcases compensating_from allowed with forward | reviewed
      · exact (Move.status (.unwind forward)).moves
      · simp [reviewed] at failed
    · split at run
      · rename_i waits
        obtain ⟨_, rfl⟩ := movedTo_ok run
        simp only [Bool.and_eq_true, decide_eq_true_eq] at waits
        exact (Move.status (.wait waits.2)).moves
      · obtain ⟨resumed, first, run⟩ := Rows.bind_eq_ok.mp run
        exact (resumeRunning_moves first).trans (completeIfSucceeded_moves run)

theorem resumeWaitingStep_change {requests : UUID → Option IntegrationRequest} {step step' : WorkflowStepExecution}
    (forward : ∀ requestId, step.integrationRequestId = some requestId → ev.created .forward step.id requestId)
    (ids : ∀ requestId q, requests requestId = some q → q.id = requestId)
    (settled : ∀ requestId q, requests requestId = some q → q.status = .succeeded → ev.succeeded requestId)
    (run : resumeWaitingStep requests now step = .ok step') : StepChange ev licence now e step step' := by
  unfold resumeWaitingStep at run
  split at run
  · split at run
    · rename_i waiting _ request found
      split at run
      · rename_i succeeded
        obtain ⟨requestId, linked, stored⟩ := Option.bind_eq_some_iff.mp found
        obtain ⟨_, rfl⟩ := WorkflowStepExecution.perform_markSucceeded_ok run
        have same := ids requestId request stored
        rw [same]
        exact .succeed (by simp [waiting]) (forward requestId linked)
          (settled requestId request stored succeeded)
      · cases run
        exact .keep
    · cases run
      exact .keep
  · cases run
    exact .keep

theorem dequeued_moves {at' : Instant} (run : dequeued e at' = .ok e') : Moves ev licence now e e' := by
  unfold dequeued at run
  split at run
  · rename_i queued
    obtain ⟨_, rfl⟩ := perform_transitionTo_ok run
    exact (Move.status (.run (by simp [queued]))).moves
  · cases run
    exact .refl

theorem dequeued_steps {at' : Instant} (run : dequeued e at' = .ok e') :
    e'.steps = e.steps ∧ (e.status.isTerminal = false → e'.status.isTerminal = false) ∧
      e'.status ≠ .queued := by
  unfold dequeued at run
  split at run
  · obtain ⟨_, rfl⟩ := perform_transitionTo_ok run
    exact ⟨rfl, fun _ => rfl, by simp⟩
  · rename_i started
    cases run
    exact ⟨rfl, id, started⟩

theorem advance_commit {requests : UUID → Option IntegrationRequest}
    (run : advance e requests t = .ok (.commit e' records)) :
    e.status.isTerminal = false ∧ ∃ running steps promoted, dequeued e t.now = .ok running ∧
      running.steps.mapM (resumeWaitingStep requests t.now) = .ok steps ∧
      ({ running with steps := steps } : WorkflowExecution).promoteReadySteps t.now = .ok promoted ∧
      refreshExecutionStatus promoted t = .ok (e', records) := by
  unfold advance at run
  split at run
  · cases run
  · rename_i live
    split at run
    · cases run
    · split at run
      · cases run
      · obtain ⟨running, first, run⟩ := Rows.bind_eq_ok.mp run
        obtain ⟨steps, resumed, run⟩ := Rows.bind_eq_ok.mp run
        obtain ⟨promoted, second, run⟩ := Rows.bind_eq_ok.mp run
        obtain ⟨⟨refreshed, rows⟩, third, done⟩ := Rows.bind_eq_ok.mp run
        cases done
        exact ⟨by simpa using live, running, steps, promoted, first, resumed, second, third⟩

/-- The first transaction of `advance` refines the saga's moves and leaves no
execution queued. -/
theorem advance_moves {requests : UUID → Option IntegrationRequest}
    (forward : ∀ step ∈ e.steps, ∀ requestId, step.integrationRequestId = some requestId →
      ev.created .forward step.id requestId)
    (ids : ∀ requestId q, requests requestId = some q → q.id = requestId)
    (settled : ∀ requestId q, requests requestId = some q → q.status = .succeeded → ev.succeeded requestId)
    (run : advance e requests t = .ok (.commit e' records)) :
    Moves ev licence t.now e e' ∧ e'.status ≠ .queued := by
  obtain ⟨live, running, steps, promoted, first, resumed, second, third⟩ := advance_commit run
  obtain ⟨same, alive, started⟩ := dequeued_steps first
  have each : List.Forall₂ (StepChange ev licence t.now running) running.steps steps :=
    Rows.forall₂_imp_mem (Rows.mapM_ok_iff.mp resumed) fun step member step' change =>
      resumeWaitingStep_change (forward step (same ▸ member)) ids settled change
  have rest : Moves ev licence t.now running e' := ((Move.steps each).moves.trans
    (promoteReadySteps_moves second (alive live))).trans (refreshExecutionStatus_moves third)
  exact ⟨(dequeued_moves first).trans rest, rest.dequeued started⟩

/-- What a terminal request does to its step is one of the saga's changes.
Without a compensation request the link can only be the forward one. -/
theorem terminalStep_change {request : IntegrationRequest} {step step' : WorkflowStepExecution}
    (links : Linked ev e) (member : step ∈ e.steps) (link : Database.linksRequest request.id step = true)
    (settled : request.status = .succeeded → ev.succeeded request.id)
    (late : step.status = .compensating → step.integrationRequestId = some request.id → licence.lateSuccess)
    (run : terminalStep request now step = .ok step') : StepChange ev licence now e step step' := by
  unfold terminalStep at run
  split at run
  · rename_i active
    split at run
    · rename_i succeeded
      split at run
      · rename_i compensating
        obtain ⟨_, rfl⟩ := WorkflowStepExecution.perform_markCompensated_ok run
        by_cases forward : step.integrationRequestId = some request.id
        · exact .lateSuccess (late compensating forward) compensating forward
        · have own : step.compensationRequestId = some request.id := by
            simpa [Database.linksRequest, forward] using link
          exact .compensate compensating (links.compensation step member _ compensating own)
            (settled succeeded)
      · rename_i notCompensating
        obtain ⟨allowed, rfl⟩ := WorkflowStepExecution.perform_markSucceeded_ok run
        have forward : step.integrationRequestId = some request.id := by
          by_contra other
          have own : step.compensationRequestId = some request.id := by
            simpa [Database.linksRequest, other] using link
          have phase := links.phase step member (by simp [own])
          have from' := succeeded_from allowed
          simp only [List.mem_cons, List.not_mem_nil, or_false] at phase from'
          rcases from' with same | same <;> simp [same] at phase
        exact .succeed (succeeded_from allowed) (links.forward step member _ forward) (settled succeeded)
    · split at run
      · cases run
        exact .keep
      · rename_i notCompensating
        obtain ⟨allowed, rfl⟩ := WorkflowStepExecution.perform_markFailed_ok run
        exact .fail ((failed_from allowed).resolve_right notCompensating)
    · split at run
      · cases run
        exact .keep
      · rename_i notCompensating
        obtain ⟨allowed, rfl⟩ := WorkflowStepExecution.perform_markFailed_ok run
        exact .fail ((failed_from allowed).resolve_right notCompensating)
    · obtain ⟨allowed, rfl⟩ := WorkflowStepExecution.perform_transitionTo_ok run
      refine .cancel ?_
      simp only [List.mem_cons, List.not_mem_nil, or_false] at active
      rcases active with same | same | same <;> simp [same, stepTransitions] at allowed ⊢
    · cases run
      exact .keep
  · cases run
    exact .keep

/-- What `on_request_terminal` notes on an execution. -/
theorem compensationRejected_cases {request : IntegrationRequest} {step : WorkflowStepExecution}
    (run : compensationRejected e step request t = .ok (e', records)) :
    (e' = e ∧ ¬ (step.status = .compensating ∧ request.status ∈ [RequestStatus.failed, .manualReview])) ∨
    (step.status = .compensating ∧ request.status ∈ [RequestStatus.failed, .manualReview] ∧
      ∃ noted, noted = { e with manualReviewReason := some ("compensation failed for step " ++ step.stepKey) } ∧
        ((e.status = .compensating ∧ e' = noted.moved .manualReview t.now) ∨ (e.status ≠ .compensating ∧ e' = noted))) := by
  unfold compensationRejected at run
  split at run
  · rename_i rejected
    simp only [Bool.and_eq_true, decide_eq_true_eq] at rejected
    refine Or.inr ⟨rejected.1, rejected.2, _, rfl, ?_⟩
    dsimp only at run
    split at run
    · rename_i reviewed
      cases run
      exact Or.inr ⟨by simp [reviewed], rfl⟩
    · split at run
      · rename_i unwinding
        obtain ⟨moved, performed, done⟩ := Rows.bind_eq_ok.mp run
        cases done
        exact Or.inl ⟨unwinding, (perform_transitionTo_ok performed).2⟩
      · rename_i elsewhere
        cases run
        exact Or.inr ⟨elsewhere, rfl⟩
  · rename_i accepted
    cases run
    simp only [Bool.and_eq_true, decide_eq_true_eq] at accepted
    exact Or.inl ⟨rfl, accepted⟩

theorem compensationRejected_moves {request : IntegrationRequest} {step : WorkflowStepExecution}
    (kept : step.status = .compensating → request.status ∈ [RequestStatus.failed, .manualReview] →
      step ∈ e.steps)
    (run : compensationRejected e step request t = .ok (e', records)) : Moves ev licence now e e' := by
  rcases compensationRejected_cases run with ⟨rfl, _⟩ | ⟨compensating, failed, _, rfl, ⟨unwinding, rfl⟩ | ⟨elsewhere, rfl⟩⟩
  · exact .refl
  · exact (Move.review unwinding).moves
  · exact (Move.remark elsewhere ⟨step, kept compensating failed, compensating⟩).moves

theorem applyTerminal_ok {request : IntegrationRequest} (run : applyTerminal e request t = .ok (some (e', records))) :
    ∃ step steps rejected first second, e.steps.find? (Database.linksRequest request.id) = some step ∧
      Rows.modifyFirst .stopIteration (Database.linksRequest request.id) (terminalStep request t.now) e.steps =
        .ok steps ∧
      compensationRejected { e with steps := steps } step request t = .ok (rejected, first) ∧
      refreshExecutionStatus rejected t = .ok (e', second) ∧ records = first ++ second := by
  unfold applyTerminal at run
  split at run
  · cases run
  · rename_i step found
    obtain ⟨steps, changed, run⟩ := Rows.bind_eq_ok.mp run
    obtain ⟨⟨rejected, first⟩, noted, run⟩ := Rows.bind_eq_ok.mp run
    obtain ⟨⟨refreshed, second⟩, refresh, done⟩ := Rows.bind_eq_ok.mp run
    cases done
    exact ⟨step, steps, rejected, first, second, found, changed, noted, refresh, rfl⟩

/-- A step whose compensation was rejected is itself left alone. -/
theorem rejected_kept {request : IntegrationRequest} {steps : List WorkflowStepExecution}
    (found : e.steps.find? (Database.linksRequest request.id) = some step)
    (changed : Rows.modifyFirst .stopIteration (Database.linksRequest request.id) (terminalStep request now) e.steps =
      .ok steps)
    (compensating : step.status = .compensating) (failed : request.status ∈ [RequestStatus.failed, .manualReview]) :
    step ∈ steps := by
  obtain ⟨step', member, same⟩ := Rows.modifyFirst_mem found changed
  simp only [List.mem_cons, List.not_mem_nil, or_false] at failed
  have unchanged : step' = step := by
    rcases failed with status | status <;>
      simpa [terminalStep, compensating, status, eq_comm] using same
  exact unchanged ▸ member

/-- The locked transaction of `on_request_terminal` refines the saga's moves. -/
theorem applyTerminal_moves {request : IntegrationRequest} (links : Linked ev e)
    (settled : request.status = .succeeded → ev.succeeded request.id)
    (late : ∀ step ∈ e.steps, step.status = .compensating →
      step.integrationRequestId = some request.id → licence.lateSuccess)
    (run : applyTerminal e request t = .ok (some (e', records))) : Moves ev licence t.now e e' := by
  obtain ⟨step, steps, _, _, _, found, changed, noted, refreshed, _⟩ := applyTerminal_ok run
  have each : List.Forall₂ (StepChange ev licence t.now e) e.steps steps :=
    Rows.modifyFirst_forall₂ (fun _ => .keep) (fun step step' found change =>
      have member := List.mem_of_find?_eq_some found
      terminalStep_change links member (List.find?_some found) settled (late step member) change) changed
  exact ((Move.steps each).moves.trans (compensationRejected_moves (rejected_kept found changed) noted)).trans
    (refreshExecutionStatus_moves refreshed)

theorem forwardStep_change {requestId : UUID} {dispatched : IntegrationRequest} {step step' : WorkflowStepExecution}
    (origin : ev.created .forward step.id requestId)
    (settled : dispatched.status = .succeeded → ev.succeeded requestId)
    (late : step.status = .compensating → licence.lateFailure)
    (run : forwardStep requestId dispatched now step = .ok step') : StepChange ev licence now e step step' := by
  have failing : perform (WorkflowStepExecution.markFailed now dispatched.lastErrorCode
      dispatched.lastErrorMessage) step = .ok step' → StepChange ev licence now e step step' := by
    intro run
    obtain ⟨allowed, rfl⟩ := WorkflowStepExecution.perform_markFailed_ok run
    rcases failed_from allowed with active | compensating
    · exact .fail active
    · exact .lateFailure (late compensating) compensating
  unfold forwardStep at run
  split at run
  · rename_i succeeded
    obtain ⟨allowed, rfl⟩ := WorkflowStepExecution.perform_markSucceeded_ok run
    exact .succeed (succeeded_from allowed) origin (settled succeeded)
  · split at run
    · obtain ⟨allowed, rfl⟩ := WorkflowStepExecution.perform_transitionTo_ok run
      exact .wait (waiting_from allowed)
    · cases run
      exact .keep
  · split at run
    · exact failing run
    · cases run
      exact .keep
  · split at run
    · exact failing run
    · cases run
      exact .keep
  · split at run
    · rename_i running
      obtain ⟨_, rfl⟩ := WorkflowStepExecution.perform_transitionTo_ok run
      exact .retry running
    · cases run
      exact .keep
  · cases run
    exact .keep

/-- The settle transaction of `_run_forward_step` refines the saga's moves. -/
theorem settleForward_moves {stepId requestId : UUID} {dispatched : IntegrationRequest}
    (origin : ev.created .forward stepId requestId)
    (settled : dispatched.status = .succeeded → ev.succeeded requestId)
    (late : ∀ step ∈ e.steps, step.id = stepId → step.status = .compensating → licence.lateFailure)
    (run : settleForward e stepId requestId dispatched t = .ok (e', records)) : Moves ev licence t.now e e' := by
  obtain ⟨steps, changed, run⟩ := Rows.bind_eq_ok.mp run
  have each : List.Forall₂ (StepChange ev licence t.now e) e.steps steps :=
    Rows.modifyFirst_forall₂ (fun _ => .keep) (fun step step' found change => by
      have same : step.id = stepId := by simpa using List.find?_some found
      exact forwardStep_change (same ▸ origin) settled
        (late step (List.mem_of_find?_eq_some found) same) change) changed
  exact (Move.steps each).moves.trans (refreshExecutionStatus_moves run)

end WorkflowOrchestrator

end IntegrationOrchestrator
