import IntegrationOrchestrator.Saga.CreationRefinement
import IntegrationOrchestrator.Saga.Notification
import IntegrationOrchestrator.Saga.Totality

namespace IntegrationOrchestrator

open WorkflowExecution WorkflowOrchestrator

variable {e e' : WorkflowExecution} {step step' : WorkflowStepExecution} {t : Readings} {now : Instant}
  {records : List WorkflowRecord} {stepId requestId : UUID}

/-- How often a step in this status can still be started or unwound. -/
def WorkflowStepStatus.left : WorkflowStepStatus → Nat
  | .pending | .ready => 2
  | .running | .waiting | .retryScheduled | .succeeded => 1
  | _ => 0

def WorkflowExecution.left (e : WorkflowExecution) : Nat := (e.steps.map (·.status.left)).sum

/-- The execution keeps its steps, and has no more work left in them. -/
structure WorkflowExecution.Ebbs (e e' : WorkflowExecution) : Prop where
  id : e'.id = e.id
  length : e'.steps.length = e.steps.length
  left : e'.left ≤ e.left

namespace WorkflowExecution.Ebbs

theorem of_steps (id : e'.id = e.id) (steps : e'.steps = e.steps) : e.Ebbs e' :=
  ⟨id, by rw [steps], by rw [WorkflowExecution.left, steps]; exact le_rfl⟩

theorem trans {e'' : WorkflowExecution} (first : e.Ebbs e') (second : e'.Ebbs e'') : e.Ebbs e'' :=
  ⟨second.id.trans first.id, second.length.trans first.length, second.left.trans first.left⟩

theorem of_each (id : e'.id = e.id)
    (each : List.Forall₂ (fun old new => new.status.left ≤ old.status.left) e.steps e'.steps) : e.Ebbs e' := by
  refine ⟨id, each.length_eq.symm, List.Forall₂.sum_le_sum ?_⟩
  rw [List.forall₂_map_left_iff, List.forall₂_map_right_iff]
  exact each.flip

end WorkflowExecution.Ebbs

theorem WorkflowExecution.StepChange.left_le {ev : Evidence} {licence : Licence}
    (change : StepChange ev licence now e step step') : step'.status.left ≤ step.status.left := by
  cases change with
  | keep | link => exact le_rfl
  | cancel | fail | release | compensate | compensationFailed | lateSuccess | lateFailure => exact Nat.zero_le _
  | ready status | wait status | retry status =>
    rw [status]
    exact le_rfl
  | start status | beginCompensation _ status =>
    rw [status]
    exact Nat.le_succ _
  | succeed status =>
    rcases List.mem_pair.mp status with status | status <;> rw [status] <;> exact le_rfl

/-- No move of a saga brings work back. -/
theorem WorkflowExecution.Moves.ebbs (now : Instant) (moves : Moves .any .any now e e') : e.Ebbs e' :=
  .of_each moves.id (moves.steps (fun _ => le_rfl) (fun _ _ _ first second => second.trans first)
    fun _ _ _ change => change.left_le)

/-- A change of one step that brings no work back. -/
theorem ebbs_of_modifyFirst {test : WorkflowStepExecution → Bool}
    {change : WorkflowStepExecution → Except Exn WorkflowStepExecution} {steps : List WorkflowStepExecution}
    (lowers : ∀ step step', change step = .ok step' → step'.status.left ≤ step.status.left)
    (run : Rows.modifyFirst .stopIteration test change e.steps = .ok steps) : e.Ebbs { e with steps := steps } :=
  .of_each rfl (Rows.modifyFirst_forall₂ (fun _ => le_rfl) (fun step step' _ => lowers step step') run)

theorem ebbs_of_onStep {method : Mutator Exn WorkflowStepExecution Unit}
    (lowers : ∀ step step', Mutator.perform method step = .ok step' → step'.status.left ≤ step.status.left)
    (run : e.onStep stepId method = .ok e') : e.Ebbs e' := by
  obtain ⟨steps, modified, done⟩ := Rows.bind_eq_ok.mp run
  cases done
  exact ebbs_of_modifyFirst lowers modified

/-- A change of one step that uses work up. -/
theorem left_lt_of_onStep {method : Mutator Exn WorkflowStepExecution Unit}
    (uses : ∀ step step', e.steps.find? (·.id = stepId) = some step → Mutator.perform method step = .ok step' →
      step'.status.left + 1 = step.status.left)
    (run : e.onStep stepId method = .ok e') : e.Ebbs e' ∧ e'.left + 1 = e.left := by
  obtain ⟨steps, modified, done⟩ := Rows.bind_eq_ok.mp run
  cases done
  obtain ⟨row, row', found, performed, balance⟩ := Rows.modifyFirst_sum (fun step => step.status.left) modified
  have used := uses row row' found performed
  have less : (steps.map (·.status.left)).sum + 1 = e.left := by
    rw [WorkflowExecution.left]
    omega
  have each := Rows.modifyFirst_forall₂ (R := fun _ _ => True) (fun _ => trivial) (fun _ _ _ _ => trivial) modified
  exact ⟨⟨rfl, each.length_eq.symm, (Nat.le_succ _).trans_eq less⟩, less⟩

namespace WorkflowOrchestrator

theorem advance_ebbs {requests : UUID → Option IntegrationRequest}
    (ids : ∀ requestId q, requests requestId = some q → q.id = requestId)
    (run : advance e requests t = .ok (.commit e' records)) : e.Ebbs e' :=
  (advance_moves (fun _ _ _ _ => trivial) ids (fun _ _ _ _ => trivial) run).1.ebbs t.now

theorem terminalStep_left {request : IntegrationRequest} (run : terminalStep request now step = .ok step') :
    step'.status.left ≤ step.status.left := by
  rcases terminalStep_cases run with ⟨_, rfl⟩ | ⟨_, _, rfl⟩ | ⟨active, _, rfl⟩ | ⟨active, _, _, rfl⟩ | ⟨_, rfl⟩
  · exact le_rfl
  · exact Nat.zero_le _
  · rcases List.mem_pair.mp active with status | status <;> rw [status] <;> exact le_rfl
  · exact Nat.zero_le _
  · exact Nat.zero_le _

theorem applyTerminal_ebbs {request : IntegrationRequest} (run : applyTerminal e request t = .ok (some (e', records))) :
    e.Ebbs e' := by
  obtain ⟨step, steps, rejected, _, _, found, changed, noted, refreshed, _⟩ := applyTerminal_ok run
  have settle := ebbs_of_modifyFirst (fun _ _ => terminalStep_left) changed
  have reject : Moves .any .any t.now { e with steps := steps } rejected :=
    compensationRejected_moves (rejected_kept found changed) noted
  exact settle.trans (Moves.ebbs t.now (reject.trans (refreshExecutionStatus_moves refreshed)))

theorem settleForward_ebbs {dispatched : IntegrationRequest}
    (run : settleForward e stepId requestId dispatched t = .ok (e', records)) : e.Ebbs e' :=
  (settleForward_moves trivial (fun _ => trivial) (fun _ _ _ _ => trivial) run).ebbs t.now

/-- Starting a step uses its first unit of work up. -/
theorem runForwardStep_uses {minted : UUID} {request : IntegrationRequest}
    (run : runForwardStep e stepId requestId minted now = .ok (.start e' request)) :
    e.Ebbs e' ∧ e'.left + 1 = e.left := by
  obtain ⟨ready, here, run⟩ := Rows.bind_eq_ok.mp run
  split at run
  · cases run
  · rename_i unstarted
    split at run
    · cases run
    · split at run
      · cases run
      · obtain ⟨started, changed, run⟩ := Rows.bind_eq_ok.mp run
        obtain ⟨made, _, done⟩ := Rows.bind_eq_ok.mp run
        cases done
        refine left_lt_of_onStep (fun step step' found performed => ?_) changed
        cases (stepById_ok here).symm.trans found
        rw [perform_startStep_ok performed, not_not.mp unstarted]
        rfl

theorem continueCompensation_uses (run : continueCompensation e t = .ok (.begin e' stepId)) :
    e.Ebbs e' ∧ e'.left + 1 = e.left := by
  obtain ⟨_, _, _, _, _, changed⟩ := continueCompensation_begun run
  refine left_lt_of_onStep (fun step step' _ performed => ?_) changed
  obtain ⟨allowed, rfl⟩ := WorkflowStepExecution.perform_transitionTo_ok performed
  cases status : step.status <;> simp [status, stepTransitions] at allowed
  rfl

theorem compensateStep_start_ebbs {minted : UUID} {request : IntegrationRequest}
    (run : compensateStep e stepId requestId minted now = .ok (.start e' request)) : e.Ebbs e' := by
  obtain ⟨step, _, run⟩ := Rows.bind_eq_ok.mp run
  split at run
  · obtain ⟨_, _, done⟩ := Rows.bind_eq_ok.mp run
    cases done
  · obtain ⟨_, _, run⟩ := Rows.bind_eq_ok.mp run
    obtain ⟨linked, changed, done⟩ := Rows.bind_eq_ok.mp run
    cases done
    refine ebbs_of_onStep (fun step step' performed => ?_) changed
    cases performed
    exact le_rfl

theorem settleCompensation_ebbs {dispatched : IntegrationRequest}
    (run : settleCompensation e stepId requestId dispatched now = .ok e') : e.Ebbs e' := by
  unfold settleCompensation at run
  split at run
  · refine ebbs_of_onStep (fun step step' performed => ?_) run
    obtain ⟨_, rfl⟩ := WorkflowStepExecution.perform_markCompensated_ok performed
    exact Nat.zero_le _
  · cases run
    exact .of_steps rfl rfl
  · obtain ⟨step, _, run⟩ := Rows.bind_eq_ok.mp run
    obtain ⟨failed, changed, performed⟩ := Rows.bind_eq_ok.mp run
    obtain ⟨_, rfl⟩ := perform_transitionTo_ok performed
    refine (ebbs_of_onStep (fun step step' performed => ?_) changed).trans (.of_steps rfl rfl)
    obtain ⟨_, rfl⟩ := WorkflowStepExecution.perform_markFailed_ok performed
    exact Nat.zero_le _

end WorkflowOrchestrator

end IntegrationOrchestrator
