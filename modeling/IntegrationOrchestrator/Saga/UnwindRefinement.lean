import IntegrationOrchestrator.Saga.Refinement

namespace IntegrationOrchestrator

namespace WorkflowOrchestrator

open WorkflowExecution Mutator

variable {ev : Evidence} {licence : Licence} {now : Instant} {t : Readings} {e e' : WorkflowExecution}
  {records : List WorkflowRecord} {step step' : WorkflowStepExecution}

/-- The step statuses in which work is still going on or yet to start. -/
def activeStatuses : List WorkflowStepStatus := [.pending, .ready, .running, .waiting, .retryScheduled]

theorem cancelStep_change {at' : Instant} (run : cancelStep at' step = .ok step') :
    StepChange ev licence now e step step' ∧ step'.status ∉ activeStatuses := by
  unfold cancelStep at run
  split at run
  · rename_i active
    obtain ⟨_, rfl⟩ := WorkflowStepExecution.perform_transitionTo_ok run
    simp only [List.mem_cons, List.not_mem_nil, or_false] at active
    exact ⟨.cancel (by rcases active with same | same | same | same <;> simp [same]),
      by simp [activeStatuses]⟩
  · rename_i inactive
    split at run
    · rename_i running
      obtain ⟨_, rfl⟩ := WorkflowStepExecution.perform_transitionTo_ok run
      exact ⟨.cancel (by simp [running]), by simp [activeStatuses]⟩
    · rename_i notRunning
      cases run
      exact ⟨.keep, by simp_all [activeStatuses]⟩

theorem expireStep_change {at' : Instant} (run : expireStep at' step = .ok step') :
    StepChange ev licence now e step step' ∧ step'.status ∉ activeStatuses := by
  unfold expireStep at run
  split at run
  · rename_i unstarted
    obtain ⟨_, rfl⟩ := WorkflowStepExecution.perform_transitionTo_ok run
    simp only [List.mem_cons, List.not_mem_nil, or_false] at unstarted
    exact ⟨.cancel (by rcases unstarted with same | same <;> simp [same]), by simp [activeStatuses]⟩
  · rename_i started
    split at run
    · rename_i active
      obtain ⟨_, rfl⟩ := WorkflowStepExecution.perform_markFailed_ok run
      simp only [List.mem_cons, List.not_mem_nil, or_false] at active
      exact ⟨.fail (by rcases active with same | same | same <;> simp [same]), by simp [activeStatuses]⟩
    · rename_i inactive
      cases run
      exact ⟨.keep, by simp_all [activeStatuses]⟩

theorem unwindOrCancel_ok {previous : WorkflowStatus} {actor : Actor} {at' recordedAt : Instant}
    (run : unwindOrCancel e previous actor at' recordedAt = .ok (e', records)) :
    (.compensating ∈ workflowTransitions e.status ∧ e' = e.moved .compensating at') ∨
    ((∀ step ∈ e.steps, step.status ≠ .succeeded) ∧ .cancelled ∈ workflowTransitions e.status ∧
      e' = e.moved .cancelled at') := by
  unfold unwindOrCancel at run
  split at run
  · obtain ⟨moved, performed, done⟩ := Rows.bind_eq_ok.mp run
    cases done
    exact Or.inl (perform_transitionTo_ok performed)
  · rename_i none
    obtain ⟨moved, performed, done⟩ := Rows.bind_eq_ok.mp run
    cases done
    exact Or.inr ⟨by simpa [hasSucceededSteps] using none, perform_transitionTo_ok performed⟩

theorem truthy_either {first second : Option String} (fallback : truthy second = true) :
    truthy (either first second) = true := by
  unfold either
  split
  · assumption
  · exact fallback

/-- Stopping every active step leaves only settled ones. -/
theorem stopped_moves {change : WorkflowStepExecution → Except Exn WorkflowStepExecution}
    {steps : List WorkflowStepExecution}
    (stops : ∀ step step', change step = .ok step' →
      StepChange ev licence now e step step' ∧ step'.status ∉ activeStatuses)
    (run : e.steps.mapM change = .ok steps) :
    Moves ev licence now e { e with steps := steps } ∧ ∀ step ∈ steps, step.status ∉ activeStatuses := by
  have each := Rows.mapM_ok_iff.mp run
  refine ⟨(Move.steps (each.imp fun step step' changed => (stops step step' changed).1)).moves, ?_⟩
  intro step' member
  obtain ⟨step, _, changed⟩ := Rows.forall₂_mem_right each member
  exact (stops step step' changed).2

theorem settled_of_stopped (stopped : step.status ∉ activeStatuses) (unsuccessful : step.status ≠ .succeeded) :
    step.status ∉
      [WorkflowStepStatus.pending, .ready, .running, .waiting, .retryScheduled, .succeeded] := by
  simp_all [activeStatuses]

theorem cancel_ok {actor : Actor} {reason : Option String} (run : cancel e actor reason t = .ok (some (e', records))) :
    (e.status = .compensating ∧ e' = withCancelReason e reason ∧
      records = [record e .workflowCancelled actor .compensating .compensating t.recordedAt]) ∨
    (e.status ≠ .compensating ∧ ∃ steps, e.steps.mapM (cancelStep t.now) = .ok steps ∧
      unwindOrCancel { withCancelReason e reason with steps := steps } e.status actor t.now t.recordedAt =
        .ok (e', records)) := by
  unfold cancel at run
  split at run
  · cases run
  · split at run
    · cases run
    · split at run
      · rename_i unwinding
        cases run
        exact Or.inl ⟨unwinding, rfl, rfl⟩
      · rename_i notUnwinding
        obtain ⟨steps, changed, run⟩ := Rows.bind_eq_ok.mp run
        obtain ⟨⟨ended, rows⟩, ending, same⟩ := Rows.map_eq_ok.mp run
        cases same
        exact Or.inr ⟨notUnwinding, steps, changed, ending⟩

/-- The transaction of `cancel` refines the saga's moves. -/
theorem cancel_moves {actor : Actor} {reason : Option String}
    (run : cancel e actor reason t = .ok (some (e', records))) : Moves ev licence now e e' := by
  have asked : truthy (withCancelReason e reason).cancelReason = true :=
    truthy_either (truthy_either rfl)
  rcases cancel_ok run with ⟨_, rfl, _⟩ | ⟨notUnwinding, steps, changed, ending⟩
  · exact (Move.askCancel asked).moves
  · obtain ⟨moves, stopped⟩ := stopped_moves (fun _ _ => cancelStep_change) changed
    have marked : Moves ev licence now e _ := moves.tail (.askCancel asked)
    rcases unwindOrCancel_ok ending with ⟨allowed, rfl⟩ | ⟨unsuccessful, _, rfl⟩
    · rcases compensating_from allowed with forward | reviewed
      · exact marked.tail (.status (.unwind forward))
      · exact marked.tail (.status (.unwindReviewed reviewed asked))
    · exact marked.tail (.status (.cancel notUnwinding fun step member =>
        settled_of_stopped (stopped step member) (unsuccessful step member)))

theorem timedOut_from {status : WorkflowStatus} (allowed : .timedOut ∈ workflowTransitions status) :
    status ∈ [WorkflowStatus.queued, .running, .waiting, .retryScheduled] := by
  cases status <;> simp [workflowTransitions] at allowed ⊢

theorem expire_moves (run : expire e t = .ok (e', records)) : Moves ev licence now e e' := by
  obtain ⟨steps, changed, run⟩ := Rows.bind_eq_ok.mp run
  obtain ⟨⟨timedOut, first⟩, expired, run⟩ := Rows.bind_eq_ok.mp run
  obtain ⟨⟨ended, second⟩, ending, done⟩ := Rows.bind_eq_ok.mp run
  cases done
  obtain ⟨moves, stopped⟩ := stopped_moves (fun _ _ => expireStep_change) changed
  obtain ⟨allowed, rfl⟩ := movedTo_ok expired
  have late : Moves ev licence now e _ := (moves.tail (.deadline (t := t.now))).tail
    (.status (t := t.now) (.timeOut (timedOut_from allowed)))
  rcases unwindOrCancel_ok ending with ⟨_, rfl⟩ | ⟨unsuccessful, _, rfl⟩
  · exact late.tail (.status (.unwind (by simp)))
  · exact (late.tail (.status (.cancel (by simp) fun step member =>
      settled_of_stopped (stopped step member) (unsuccessful step member)))).tail
      (.askCancel (truthy_either rfl))

theorem enforceDeadline_ok (run : enforceDeadline e t = .ok (some (e', records))) :
    e.deadlineProcessedAt = none ∧ expire e t = .ok (e', records) := by
  unfold enforceDeadline at run
  split at run
  · cases run
  · split at run
    · cases run
    · split at run
      · cases run
      · rename_i unprocessed
        obtain ⟨⟨ended, rows⟩, expired, same⟩ := Rows.map_eq_ok.mp run
        cases same
        exact ⟨by simpa using unprocessed, expired⟩

/-- The transaction of `enforce_deadline` refines the saga's moves. -/
theorem enforceDeadline_moves (run : enforceDeadline e t = .ok (some (e', records))) :
    Moves ev licence now e e' :=
  expire_moves (enforceDeadline_ok run).2

end WorkflowOrchestrator

end IntegrationOrchestrator
