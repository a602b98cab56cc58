import IntegrationOrchestrator.Saga.EffectSafety

namespace IntegrationOrchestrator

open WorkflowExecution WorkflowOrchestrator

variable {settings : Settings} {ev : Evidence} {e : WorkflowExecution} {c : Config}
  {s : State} {executionId : UUID}

/-- The step statuses at which the unwind waits. -/
def unfinishedStatuses : List WorkflowStepStatus := [.ready, .running, .waiting, .retryScheduled, .compensating]

/-- Without succeeded steps the test that ends an unwind passes exactly when
every step is at rest. -/
theorem unwound_iff (sound : Sound ev e) (none : ∀ step ∈ e.steps, step.status ≠ .succeeded) :
    (e.steps.all (fun step => step.status ∈ unwoundStatuses) &&
      e.steps.all (fun step => step.status ≠ .succeeded && step.status ≠ .compensating)) = true ↔
      ∀ step ∈ e.steps, step.status ∉ unfinishedStatuses := by
  simp only [Bool.and_eq_true, List.all_eq_true, decide_eq_true_eq, unwoundStatuses, unfinishedStatuses]
  constructor
  · rintro ⟨settled, _⟩ step member
    have rest := settled step member
    simp only [List.mem_cons, List.not_mem_nil, or_false] at rest ⊢
    grind
  · intro rest
    refine ⟨fun step member => ?_, fun step member => ⟨none step member, ?_⟩⟩
    · have atRest := rest step member
      have alive := sound.stepStatuses step member
      have unsuccessful := none step member
      cases status : step.status <;> simp_all
    · intro compensating
      simpa [compensating] using rest step member

theorem finishUnwind_rest (sound : Sound ev e) (unwinding : e.status = .compensating)
    (none : ∀ step ∈ e.steps, step.status ≠ .succeeded)
    (rest : ∀ step ∈ e.steps, step.status ∉ unfinishedStatuses) (t : Readings) :
    ∃ e' records, finishUnwind e t = .ok (e', records) ∧ e'.id = e.id ∧
      e'.status ∈ [WorkflowStatus.compensated, .cancelled, .manualReview] := by
  unfold finishUnwind
  rw [if_pos ((unwound_iff sound none).mpr rest)]
  split
  · have allowed : .cancelled ∈ workflowTransitions e.status := by rw [unwinding]; decide
    exact ⟨_, _, movedTo_allowed allowed _ _ _ _, rfl, by simp⟩
  · have allowed : .compensated ∈ workflowTransitions e.status := by rw [unwinding]; decide
    exact ⟨_, _, movedTo_allowed allowed _ _ _ _, rfl, by simp⟩

theorem finishUnwind_busy (sound : Sound ev e) (none : ∀ step ∈ e.steps, step.status ≠ .succeeded)
    (busy : ¬ ∀ step ∈ e.steps, step.status ∉ unfinishedStatuses) (t : Readings) :
    finishUnwind e t = .ok (e, []) := by
  unfold finishUnwind
  rw [if_neg fun ends => busy ((unwound_iff sound none).mp ends)]

/-- With nothing left to compensate the walk only tries to end the unwind. -/
theorem continueCompensation_last (unwinding : e.status = .compensating)
    (none : ∀ step ∈ e.steps, step.status ≠ .succeeded) (t : Readings) :
    continueCompensation e t = (finishUnwind e t).bind fun out => .ok (.finish out.1 out.2) := by
  have nothing : e.steps.filter (·.status = .succeeded) = [] := by
    rw [List.filter_eq_nil_iff]
    intro step member succeeded
    exact none step member (of_decide_eq_true succeeded)
  have empty : e.succeededInReverse = [] := by
    rw [succeededInReverse, nothing]
    rfl
  unfold continueCompensation
  rw [if_neg (not_not.mpr unwinding), empty]
  rfl

/-- What one call of the compensation walk commits. -/
theorem execContinueCompensation_last (sound : Sound ev e) (stored : s.db.executions.get executionId = some e)
    (unwinding : e.status = .compensating) (none : ∀ step ∈ e.steps, step.status ≠ .succeeded) (input : Input) :
    ∃ s' e', Frame.execContinueCompensation executionId input s = .ok (s', []) ∧
      s'.db.executions.get executionId = some e' ∧
      (e'.status ∈ [WorkflowStatus.compensated, .cancelled, .manualReview] ↔
        ∀ step ∈ e.steps, step.status ∉ unfinishedStatuses) := by
  have id := Table.get_key stored
  have walk : ∀ {e' records}, finishUnwind e input.readings = .ok (e', records) →
      Frame.execContinueCompensation executionId input s = .ok (s.savedExecution e' records, []) := by
    intro e' records finished
    simp only [Frame.execContinueCompensation, State.execution, stored,
      continueCompensation_last unwinding none, finished, bind, Except.bind, pure, Except.pure]
  by_cases rest : ∀ step ∈ e.steps, step.status ∉ unfinishedStatuses
  · obtain ⟨e', records, finished, sameId, status⟩ := finishUnwind_rest sound unwinding none rest input.readings
    refine ⟨_, e', walk finished, ?_, fun _ => rest, fun _ => status⟩
    rw [← id, ← sameId]
    exact Table.get_put_self _ _
  · refine ⟨_, e, walk (finishUnwind_busy sound none rest input.readings), ?_, fun ended => ?_, fun atRest => absurd atRest rest⟩
    · rw [← id]
      exact Table.get_put_self _ _
    · simp [unwinding] at ended

/-- Exactly when one call of the compensation walk ends an unwind that has no
succeeded step left: when no step is ready, running, waiting, scheduled for a
retry or being compensated. -/
theorem compensation_walk_ends_iff (reach : Reachable settings c)
    (stored : c.state.db.executions.get executionId = some e) (unwinding : e.status = .compensating)
    (none : ∀ step ∈ e.steps, step.status ≠ .succeeded) (input : Input) :
    (∃ s' pushed e', Frame.exec settings (.continueCompensation executionId) input c.state = .ok (s', pushed) ∧
      s'.db.executions.get executionId = some e' ∧
      e'.status ∈ [WorkflowStatus.compensated, .cancelled, .manualReview]) ↔
    ∀ step ∈ e.steps, step.status ∉ unfinishedStatuses := by
  have sound := (reachable_good (Restriction.within_any _) reach).1.sound executionId e stored
  obtain ⟨s', e', run, after, ends⟩ := execContinueCompensation_last sound stored unwinding none input
  constructor
  · rintro ⟨other, pushed, e'', ran, here, status⟩
    cases run.symm.trans ran
    cases after.symm.trans here
    exact ends.mp status
  · intro rest
    exact ⟨s', [], e', run, after, ends.mpr rest⟩

namespace Sample

/-- Starts these steps, and the provider refuses the first one. -/
def refused (steps : List WorkflowStepDefinition) : List Action :=
  .spawn (start steps none) :: work 0 1 100 2 ++ work 0 2 200 3 ++ answer 0 3 (.refused refusal) :: work 0 4 300 3

end Sample

/-- A sibling that was ready when the first step failed wedges the unwind: all
requests are settled, all work is done, and no call of the walk ends it. -/
theorem ready_sibling_wedges :
    ∃ c, Reachable Sample.settings c ∧ c.frames.length = 0 ∧ ∃ e, c.state.db.executions.get 100 = some e ∧
      e.status = .compensating ∧ (∀ step ∈ e.steps, step.status ≠ .succeeded) ∧
      (∀ q ∈ c.state.db.requests.rows, q.status ∈ terminalRequests) ∧
      ∀ input s' pushed e', Frame.exec Sample.settings (.continueCompensation 100) input c.state =
        .ok (s', pushed) → s'.db.executions.get 100 = some e' →
        e'.status ∉ [WorkflowStatus.compensated, .cancelled, .manualReview] := by
  obtain ⟨c, reach, idle, settled, e, stored, unwinding, none, step, member, ready⟩ := reachable_replay Sample.settings
    (Sample.refused [Sample.stage "first" [], Sample.stage "second" []] ++ Sample.work 0 5 400 6)
    (fun c => c.frames.length = 0 ∧ (∀ q ∈ c.state.db.requests.rows, q.status ∈ terminalRequests) ∧
      ∃ e, c.state.db.executions.get 100 = some e ∧ e.status = .compensating ∧
        (∀ step ∈ e.steps, step.status ≠ .succeeded) ∧ ∃ step ∈ e.steps, step.status = .ready) (by decide)
  refine ⟨c, reach, idle, e, stored, unwinding, none, settled, fun input s' pushed e' ran here ended => ?_⟩
  have sound := (reachable_good (Restriction.within_any _) reach).1.sound 100 e stored
  obtain ⟨after, e'', run, kept, ends⟩ := execContinueCompensation_last sound stored unwinding none input
  cases run.symm.trans ran
  cases kept.symm.trans here
  exact ends.mp ended step member (by simp [unfinishedStatuses, ready])

theorem compensation_walk_ends_single :
    ∃ c, Reachable Sample.settings c ∧ ∃ e, c.state.db.executions.get 100 = some e ∧ e.status = .compensating ∧
      ∃ s' pushed e', Frame.exec Sample.settings (.continueCompensation 100)
        (Sample.input 5 0 .crashed) c.state = .ok (s', pushed) ∧ s'.db.executions.get 100 = some e' ∧
        e'.status ∈ [WorkflowStatus.compensated, .cancelled, .manualReview] := by
  obtain ⟨c, reach, e, stored, unwinding, none, rest⟩ := reachable_replay Sample.settings
    (Sample.refused [Sample.stage "only" []]) (fun c => ∃ e, c.state.db.executions.get 100 = some e ∧
      e.status = .compensating ∧ (∀ step ∈ e.steps, step.status ≠ .succeeded) ∧
      ∀ step ∈ e.steps, step.status ∉ unfinishedStatuses) (by decide)
  exact ⟨c, reach, e, stored, unwinding, (compensation_walk_ends_iff reach stored unwinding none _).mpr rest⟩

end IntegrationOrchestrator
