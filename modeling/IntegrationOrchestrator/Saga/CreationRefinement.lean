import IntegrationOrchestrator.Saga.CompensationRefinement

namespace IntegrationOrchestrator

namespace WorkflowOrchestrator

open WorkflowExecution Mutator

variable {e e' : WorkflowExecution} {step step' : WorkflowStepExecution} {request : IntegrationRequest}
  {stepId requestId minted : UUID} {now : Instant}

theorem perform_startStep_ok (run : perform (startStep now requestId) step = .ok step') :
    step' = step.started requestId now := by
  obtain ⟨out, called, rfl⟩ := Rows.map_eq_ok.mp run
  simp only [startStep, WorkflowStepExecution.markRunning, call_bind, call_modify, Except.bind] at called
  split at called
  · cases called
  · rename_i moved ran
    have performed : perform (WorkflowStepExecution.transitionTo .running now)
        { step with attemptCount := step.attemptCount + 1 } = .ok moved.2 := by
      simp [perform, ran, Except.map]
    obtain ⟨_, same⟩ := WorkflowStepExecution.perform_transitionTo_ok performed
    cases called
    simp only [same]
    rfl

theorem stepRequest_ok {operation : OperationType} {reference : String}
    (run : stepRequest e step operation reference requestId minted now = .ok request) :
    request.id = requestId ∧ request.status = .received ∧ request.attemptCount = 0 := by
  obtain ⟨_, _, run⟩ := Rows.bind_eq_ok.mp run
  obtain ⟨_, _, run⟩ := Rows.bind_eq_ok.mp run
  obtain ⟨_, _, done⟩ := Rows.bind_eq_ok.mp run
  cases done
  exact ⟨rfl, rfl, rfl⟩

/-- A forward request is created only for a ready step of an execution that
is still working forward, and the step starts running in the same transaction. -/
theorem runForwardStep_start (run : runForwardStep e stepId requestId minted now = .ok (.start e' request)) :
    ∃ step, e.steps.find? (·.id = stepId) = some step ∧ step.status = .ready ∧
      e.status ∉ [WorkflowStatus.cancelled, .compensating, .manualReview, .timedOut] ∧
      e.status.isTerminal = false ∧ request.id = requestId ∧ request.status = .received ∧
      request.attemptCount = 0 ∧ StepReplaced e e' step (step.started requestId now) := by
  obtain ⟨step, here, run⟩ := Rows.bind_eq_ok.mp run
  have found := stepById_ok here
  split at run
  · cases run
  · rename_i ready
    split at run
    · cases run
    · rename_i live
      split at run
      · cases run
      · obtain ⟨started, changed, run⟩ := Rows.bind_eq_ok.mp run
        obtain ⟨created, made, done⟩ := Rows.bind_eq_ok.mp run
        cases done
        obtain ⟨step', performed⟩ := onStep_performed found changed
        have same := perform_startStep_ok performed
        subst same
        simp only [Bool.or_eq_true, decide_eq_true_eq, not_or, Bool.not_eq_true] at live
        obtain ⟨id, status, attempts⟩ := stepRequest_ok made
        exact ⟨step, found, not_not.mp ready, live.1, live.2, id, status, attempts,
          onStep_replaced found performed changed⟩

theorem compensateStep_start (run : compensateStep e stepId requestId minted now = .ok (.start e' request)) :
    ∃ step, e.steps.find? (·.id = stepId) = some step ∧ step.compensateOperation ≠ none ∧
      request.id = requestId ∧ request.status = .received ∧ request.attemptCount = 0 ∧
      StepReplaced e e' step { step with compensationRequestId := some requestId } := by
  obtain ⟨step, here, run⟩ := Rows.bind_eq_ok.mp run
  have found := stepById_ok here
  split at run
  · obtain ⟨_, _, done⟩ := Rows.bind_eq_ok.mp run
    cases done
  · rename_i operation hasOperation
    obtain ⟨created, made, run⟩ := Rows.bind_eq_ok.mp run
    obtain ⟨linked, changed, done⟩ := Rows.bind_eq_ok.mp run
    cases done
    obtain ⟨id, status, attempts⟩ := stepRequest_ok made
    exact ⟨step, found, by simp [hasOperation], id, status, attempts, onStep_replaced found rfl changed⟩

theorem newSteps_pending {executionId : UUID} {newId : Nat → UUID} {payload : Payload} {index : Nat}
    {templates : List WorkflowStepDefinition} {steps : List WorkflowStepExecution}
    (run : newSteps executionId newId payload now index templates = .ok steps) :
    ∀ step ∈ steps, step.status = .pending ∧ step.integrationRequestId = none ∧
      step.compensationRequestId = none ∧ step.completedAt = none := by
  induction templates generalizing index steps with
  | nil => cases run; simp
  | cons template rest ih =>
    obtain ⟨own, _, run⟩ := Rows.bind_eq_ok.mp run
    obtain ⟨others, below, done⟩ := Rows.bind_eq_ok.mp run
    cases done
    intro step member
    rcases List.mem_cons.mp member with rfl | member
    · exact ⟨rfl, rfl, rfl, rfl⟩
    · exact ih below step member

theorem startExecution_ok {command : StartCommand} {newId : Nat → UUID}
    (run : startExecution command newId now = .ok e) :
    ∃ origin : WorkflowExecution, origin.Fresh ∧ origin.promoteReadySteps now = .ok e := by
  obtain ⟨steps, made, run⟩ := Rows.bind_eq_ok.mp run
  obtain ⟨queued, moved, promoted⟩ := Rows.bind_eq_ok.mp run
  obtain ⟨_, rfl⟩ := perform_transitionTo_ok moved
  exact ⟨_, ⟨rfl, rfl, newSteps_pending made⟩, promoted⟩

end WorkflowOrchestrator

end IntegrationOrchestrator
