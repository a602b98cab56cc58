import IntegrationOrchestrator.Saga.Refresh
import IntegrationOrchestrator.Saga.Sound

namespace IntegrationOrchestrator

namespace WorkflowOrchestrator

open WorkflowExecution

variable {ev : Evidence} {t t' : Readings} {now : Instant} {e e' : WorkflowExecution}
  {records : List WorkflowRecord} {step step' : WorkflowStepExecution} {request : IntegrationRequest}

/-- The step statuses a terminal request acts on. -/
def attentive : List WorkflowStepStatus := [.running, .waiting, .compensating]

/-- The request has nothing to say to the step: the step does not attend to
it, or it is not settled, or it is a failed compensation, which only the
execution records. -/
def Inert (request : IntegrationRequest) (step : WorkflowStepExecution) : Prop :=
  step.status ∉ attentive ∨ request.status ∉ terminalRequests ∨
    (step.status = .compensating ∧ request.status ∈ [RequestStatus.failed, .manualReview])

theorem terminalStep_inert (inert : Inert request step) : terminalStep request now step = .ok step := by
  unfold terminalStep
  rcases inert with deaf | open' | ⟨compensating, failed⟩
  · exact if_neg deaf
  · simp only [terminalRequests, List.mem_cons, List.not_mem_nil, or_false, not_or] at open'
    cases status : request.status <;> simp_all
  · simp only [List.mem_cons, List.not_mem_nil, or_false] at failed
    rcases failed with status | status <;> simp [status, compensating]

/-- Everything a settled request can do to its step. -/
theorem terminalStep_cases (run : terminalStep request now step = .ok step') :
    (Inert request step ∧ step' = step) ∨
    (step.status = .compensating ∧ request.status = .succeeded ∧
      step' = { step with compensationRequestId := some request.id }.moved .compensated now) ∨
    (step.status ∈ [WorkflowStepStatus.running, .waiting] ∧ ∃ output,
      step' = { step with integrationRequestId := some request.id, outputPayload := output }.moved .succeeded now) ∨
    (step.status ∈ [WorkflowStepStatus.running, .waiting] ∧ ∃ code message,
      step' = { step with errorCode := code, errorMessage := message }.moved .failed now) ∨
    (step.status ∈ [WorkflowStepStatus.running, .waiting] ∧ step' = step.moved .cancelled now) := by
  unfold terminalStep at run
  split at run
  · rename_i attentive
    have working : step.status ≠ .compensating → step.status ∈ [WorkflowStepStatus.running, .waiting] := by
      intro forward
      simp only [List.mem_cons, List.not_mem_nil, or_false] at attentive ⊢
      grind
    have failure : ∀ status ∈ [RequestStatus.failed, .manualReview], request.status = status →
        step.status = .compensating → Inert request step :=
      fun status member same compensating => Or.inr (Or.inr ⟨compensating, same ▸ member⟩)
    split at run
    · rename_i succeeded
      split at run
      · rename_i compensating
        obtain ⟨_, made⟩ := WorkflowStepExecution.perform_markCompensated_ok run
        exact Or.inr (Or.inl ⟨compensating, succeeded, made⟩)
      · rename_i forward
        obtain ⟨_, made⟩ := WorkflowStepExecution.perform_markSucceeded_ok run
        exact Or.inr (Or.inr (Or.inl ⟨working forward, _, made⟩))
    · rename_i failed
      split at run
      · rename_i compensating
        cases run
        exact Or.inl ⟨failure .failed (by simp) failed compensating, rfl⟩
      · rename_i forward
        obtain ⟨_, made⟩ := WorkflowStepExecution.perform_markFailed_ok run
        exact Or.inr (Or.inr (Or.inr (Or.inl ⟨working forward, _, _, made⟩)))
    · rename_i reviewed
      split at run
      · rename_i compensating
        cases run
        exact Or.inl ⟨failure .manualReview (by simp) reviewed compensating, rfl⟩
      · rename_i forward
        obtain ⟨_, made⟩ := WorkflowStepExecution.perform_markFailed_ok run
        exact Or.inr (Or.inr (Or.inr (Or.inl ⟨working forward, _, _, made⟩)))
    · obtain ⟨allowed, made⟩ := WorkflowStepExecution.perform_transitionTo_ok run
      refine Or.inr (Or.inr (Or.inr (Or.inr ⟨working ?_, made⟩)))
      intro compensating
      simp [compensating, stepTransitions] at allowed
    · cases run
      refine Or.inl ⟨Or.inr (Or.inl ?_), rfl⟩
      simp_all [terminalRequests]
  · rename_i deaf
    cases run
    exact Or.inl ⟨Or.inl deaf, rfl⟩

/-- A settled request acts on its step once. -/
theorem terminalStep_once (run : terminalStep request now step = .ok step') : Inert request step' := by
  rcases terminalStep_cases run with ⟨inert, same⟩ | ⟨_, _, made⟩ | ⟨_, _, made⟩ | ⟨_, _, _, made⟩ | ⟨_, made⟩
  · rw [same]
    exact inert
  all_goals
    rw [made]
    exact Or.inl (by simp [attentive])

/-- The step keeps its link to the request that acts on it. -/
theorem terminalStep_links (run : terminalStep request now step = .ok step')
    (link : Database.linksRequest request.id step = true) : Database.linksRequest request.id step' = true := by
  rcases terminalStep_cases run with ⟨_, made⟩ | ⟨_, _, made⟩ | ⟨_, _, made⟩ | ⟨_, _, _, made⟩ | ⟨_, made⟩
  · rw [made]
    exact link
  · simp [made, Database.linksRequest, WorkflowStepExecution.moved]
  · simp [made, Database.linksRequest, WorkflowStepExecution.moved]
  · rw [made]
    exact link
  · rw [made]
    exact link

theorem compensationRejected_again (noted : e.manualReviewReason =
      some ("compensation failed for step " ++ step.stepKey)) (elsewhere : e.status ≠ .compensating) :
    ∃ records, compensationRejected e step request t = .ok (e, records) := by
  have same : { e with manualReviewReason := some ("compensation failed for step " ++ step.stepKey) } = e := by
    rw [← noted]
  unfold compensationRejected
  rw [same]
  split
  · split
    · exact ⟨_, rfl⟩
    · exact ⟨_, rfl⟩
  · exact ⟨_, rfl⟩

theorem compensationRejected_unconcerned (unconcerned : ¬ (step.status = .compensating ∧
      request.status ∈ [RequestStatus.failed, .manualReview])) :
    compensationRejected e step request t = .ok (e, []) := by
  unfold compensationRejected
  rw [if_neg]
  simpa only [Bool.and_eq_true, decide_eq_true_eq] using unconcerned

/-- A transaction that finds nothing to do for a refreshed execution. -/
theorem applyTerminal_fixed (found : e.steps.find? (Database.linksRequest request.id) = some step)
    (inert : Inert request step) (noted : ∃ rows, compensationRejected e step request t = .ok (e, rows))
    (fixed : Refreshed e) : ∃ records, applyTerminal e request t = .ok (some (e, records)) := by
  obtain ⟨rows, noted⟩ := noted
  have idle : terminalStep request t.now step = .ok step := terminalStep_inert inert
  have unchanged : Rows.modifyFirst Exn.stopIteration (Database.linksRequest request.id)
      (terminalStep request t.now) e.steps = .ok e.steps := Rows.modifyFirst_same found idle
  refine ⟨rows ++ [], ?_⟩
  simp only [applyTerminal, found, unchanged, noted, fixed.refresh, bind, Except.bind, pure, Except.pure]

/-- Delivering a terminal notification again leaves the execution as the
first delivery left it. -/
theorem applyTerminal_again (sound : Sound ev e) (run : applyTerminal e request t = .ok (some (e', records)))
    (t' : Readings) : ∃ records', applyTerminal e' request t' = .ok (some (e', records')) := by
  obtain ⟨step, steps, noted, _, _, found, changed, rejected, refreshed, _⟩ := applyTerminal_ok run
  have member := List.mem_of_find?_eq_some found
  have link : Database.linksRequest request.id step = true := List.find?_some found
  obtain ⟨acted, action, here⟩ := Rows.modifyFirst_find? found
    (fun _ acts => terminalStep_links acts link) changed
  have inert := terminalStep_once action
  have fixed := refreshExecutionStatus_refreshed refreshed
  rcases compensationRejected_cases rejected with ⟨rfl, unconcerned⟩ | ⟨compensating, failed, _, rfl, outcome⟩
  · -- the refresh may have promoted steps, but none that attends to the request
    have related := Rows.find?_forall₂ (Database.linksRequest request.id)
      (fun old new change => by rcases change with rfl | ⟨_, rfl⟩ <;> rfl)
      (refreshExecutionStatus_steps refreshed)
    rw [here] at related
    cases found' : e'.steps.find? (Database.linksRequest request.id) with
    | none =>
      rw [found'] at related
      cases related
    | some last =>
      rw [found'] at related
      have change : last = acted ∨ (acted.status = .pending ∧ last = acted.moved .ready t.refreshedAt) := by
        cases related with
        | some change => exact change
      have still : last.status = .compensating → step.status = .compensating := by
        intro compensating
        rcases change with rfl | ⟨_, rfl⟩
        · rcases terminalStep_cases action with ⟨_, rfl⟩ | ⟨_, _, rfl⟩ | ⟨_, _, rfl⟩ | ⟨_, _, _, rfl⟩ | ⟨_, rfl⟩
          · exact compensating
          all_goals cases compensating
        · cases compensating
      refine applyTerminal_fixed found' ?_ ⟨[], compensationRejected_unconcerned fun both =>
        unconcerned ⟨still both.1, both.2⟩⟩ fixed
      rcases change with rfl | ⟨_, rfl⟩
      · exact inert
      · exact Or.inl (by simp [attentive])
  · -- a failed compensation leaves the step alone and the execution under review or cancelled
    have unchanged : acted = step := by
      have idle : Inert request step := Or.inr (Or.inr ⟨compensating, failed⟩)
      exact Except.ok.inj (action.symm.trans (terminalStep_inert idle))
    subst unchanged
    have status := sound.unwinding_compensating member compensating
    have same : noted.steps = steps := by
      rcases outcome with ⟨_, rfl⟩ | ⟨_, rfl⟩ <;> rfl
    have reason : noted.manualReviewReason = some ("compensation failed for step " ++ acted.stepKey) := by
      rcases outcome with ⟨_, rfl⟩ | ⟨_, rfl⟩ <;> rfl
    have ended : noted.status ∈ [WorkflowStatus.manualReview, .cancelled] := by
      rcases outcome with ⟨_, rfl⟩ | ⟨elsewhere, rfl⟩
      · simp
      · simpa [show e.status ≠ .compensating from elsewhere] using status
    have settled : Refreshed noted := .of_status (by
      simp only [List.mem_cons, List.not_mem_nil, or_false] at ended ⊢
      grind)
    cases refreshed.symm.trans (settled.refresh t)
    refine applyTerminal_fixed (same ▸ here) inert (compensationRejected_again reason ?_) settled
    intro unwinding
    simp [unwinding] at ended

end WorkflowOrchestrator

end IntegrationOrchestrator
