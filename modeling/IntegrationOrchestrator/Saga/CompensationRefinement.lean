import IntegrationOrchestrator.Saga.UnwindRefinement

namespace IntegrationOrchestrator

namespace WorkflowOrchestrator

open WorkflowExecution Mutator

variable {ev : Evidence} {licence : Licence} {now : Instant} {t : Readings} {e e' : WorkflowExecution}
  {records : List WorkflowRecord} {step step' : WorkflowStepExecution}

theorem onStep_forall₂ {stepId : UUID} {method : Mutator Exn WorkflowStepExecution Unit}
    {R : WorkflowStepExecution → WorkflowStepExecution → Prop} (keep : ∀ step, R step step)
    (changed : ∀ step step', e.steps.find? (·.id = stepId) = some step → perform method step = .ok step' →
      R step step')
    (run : e.onStep stepId method = .ok e') :
    ∃ steps, e' = { e with steps := steps } ∧ List.Forall₂ R e.steps steps := by
  obtain ⟨steps, modified, done⟩ := Rows.bind_eq_ok.mp run
  cases done
  exact ⟨steps, rfl, Rows.modifyFirst_forall₂ keep changed modified⟩

theorem onStep_performed {stepId : UUID} {method : Mutator Exn WorkflowStepExecution Unit}
    (found : e.steps.find? (·.id = stepId) = some step) (run : e.onStep stepId method = .ok e') :
    ∃ step', perform method step = .ok step' := by
  obtain ⟨steps, modified, _⟩ := Rows.bind_eq_ok.mp run
  obtain ⟨step', _, performed⟩ := Rows.modifyFirst_mem found modified
  exact ⟨step', performed⟩

theorem onStep_replaced {stepId : UUID} {method : Mutator Exn WorkflowStepExecution Unit}
    (found : e.steps.find? (·.id = stepId) = some step) (made : perform method step = .ok step')
    (run : e.onStep stepId method = .ok e') : StepReplaced e e' step step' := by
  obtain ⟨steps, modified, done⟩ := Rows.bind_eq_ok.mp run
  cases done
  obtain ⟨replacement, inside, performed⟩ := Rows.modifyFirst_mem found modified
  cases made.symm.trans performed
  refine ⟨rfl, Rows.modifyFirst_forall₂ (fun _ => Or.inl rfl) (fun old new here changed => ?_) modified, inside⟩
  cases found.symm.trans here
  exact Or.inr ⟨rfl, Except.ok.inj (changed.symm.trans made)⟩

theorem stepById_ok {stepId : UUID} (run : e.stepById stepId = .ok step) :
    e.steps.find? (·.id = stepId) = some step := by
  unfold WorkflowExecution.stepById at run
  split at run
  · rename_i found
    cases run
    exact found
  · cases run

theorem find?_id_eq {stepId : UUID} (unique : (e.steps.map (·.id)).Nodup) (member : step ∈ e.steps)
    (same : step.id = stepId) : e.steps.find? (·.id = stepId) = some step := by
  cases found : e.steps.find? (·.id = stepId) with
  | none => simpa [same] using List.find?_eq_none.mp found step member
  | some other =>
    have sameId : other.id = step.id := by simpa [same] using List.find?_some found
    rw [List.inj_on_of_nodup_map unique (List.mem_of_find?_eq_some found) member sameId]

/-- The head of the unwind order is a succeeded step that no succeeded step
completed after. -/
theorem succeededInReverse_head {rest : List WorkflowStepExecution}
    (order : e.succeededInReverse = step :: rest) :
    step ∈ e.steps ∧ step.status = .succeeded ∧
      ∀ other ∈ e.steps, other.status = .succeeded → completionTime other ≤ completionTime step := by
  let later : WorkflowStepExecution → WorkflowStepExecution → Prop :=
    fun a b => completionTime b ≤ completionTime a
  have total : Std.Total later := ⟨fun a b => le_total _ _⟩
  have trans : IsTrans _ later := ⟨fun a b c ab bc => le_trans bc ab⟩
  have sorted : (step :: rest).Pairwise later :=
    order ▸ List.pairwise_insertionSort later (e.steps.filter (·.status = .succeeded))
  have members : ∀ other, other ∈ step :: rest ↔ other ∈ e.steps ∧ other.status = .succeeded := by
    intro other
    rw [← order, succeededInReverse, List.mem_insertionSort, List.mem_filter]
    simp
  obtain ⟨member, succeeded⟩ := (members step).mp (List.mem_cons_self ..)
  refine ⟨member, succeeded, fun other inside status => ?_⟩
  rcases List.mem_cons.mp ((members other).mpr ⟨inside, status⟩) with same | below
  · exact same ▸ le_refl _
  · exact (List.pairwise_cons.mp sorted).1 other below

theorem continueCompensation_begun {stepId : UUID} (run : continueCompensation e t = .ok (.begin e' stepId)) :
    e.status = .compensating ∧ ∃ step rest, e.succeededInReverse = step :: rest ∧ step.id = stepId ∧
      e.onStep stepId (WorkflowStepExecution.beginCompensation t.now) = .ok e' := by
  unfold continueCompensation at run
  split at run
  · cases run
  · rename_i unwinding
    split at run
    · rename_i step rest order
      obtain ⟨begun, changed, done⟩ := Rows.bind_eq_ok.mp run
      cases done
      exact ⟨not_not.mp unwinding, step, rest, order, rfl, changed⟩
    · obtain ⟨_, _, done⟩ := Rows.bind_eq_ok.mp run
      cases done

theorem continueCompensation_begin {stepId : UUID} (unique : (e.steps.map (·.id)).Nodup)
    (run : continueCompensation e t = .ok (.begin e' stepId)) :
    e.status = .compensating ∧ ∃ step ∈ e.steps, step.id = stepId ∧ step.status = .succeeded ∧
      (∀ other ∈ e.steps, other.status = .succeeded → completionTime other ≤ completionTime step) ∧
      StepReplaced e e' step (step.moved .compensating t.now) := by
  obtain ⟨unwinding, step, rest, order, rfl, changed⟩ := continueCompensation_begun run
  obtain ⟨member, succeeded, latest⟩ := succeededInReverse_head order
  have found := find?_id_eq unique member rfl
  obtain ⟨step', performed⟩ := onStep_performed found changed
  cases (WorkflowStepExecution.perform_transitionTo_ok performed).2
  exact ⟨unwinding, step, member, rfl, succeeded, latest, onStep_replaced found performed changed⟩

theorem finishUnwind_moves (unwinding : e.status = .compensating)
    (run : finishUnwind e t = .ok (e', records)) : Moves ev licence now e e' := by
  unfold finishUnwind at run
  split at run
  · rename_i unwound
    have settled : ∀ step ∈ e.steps, step.status ∈ unwoundStatuses := by
      simp only [Bool.and_eq_true, List.all_eq_true, decide_eq_true_eq] at unwound
      exact unwound.1
    split at run
    · rename_i asked
      obtain ⟨_, rfl⟩ := movedTo_ok run
      exact (Move.status (.finishCancelled unwinding asked settled)).moves
    · rename_i unasked
      obtain ⟨_, rfl⟩ := movedTo_ok run
      exact (Move.status (.finish unwinding (by simpa using unasked) settled)).moves
  · cases run
    exact .refl

theorem continueCompensation_finish (run : continueCompensation e t = .ok (.finish e' records)) :
    e.status = .compensating ∧ finishUnwind e t = .ok (e', records) := by
  unfold continueCompensation at run
  split at run
  · cases run
  · rename_i unwinding
    split at run
    · obtain ⟨begun, _, done⟩ := Rows.bind_eq_ok.mp run
      cases done
    · obtain ⟨⟨ended, rows⟩, finished, done⟩ := Rows.bind_eq_ok.mp run
      cases done
      exact ⟨not_not.mp unwinding, finished⟩

/-- Without a compensating operation `_compensate_step` releases the step. -/
theorem compensateStep_released {stepId requestId minted : UUID}
    (run : compensateStep e stepId requestId minted now = .ok (.done e')) :
    ∃ step, e.steps.find? (·.id = stepId) = some step ∧ step.compensateOperation = none ∧
      e.onStep stepId (WorkflowStepExecution.markCompensated now none) = .ok e' := by
  obtain ⟨step, here, run⟩ := Rows.bind_eq_ok.mp run
  split at run
  · rename_i noOperation
    obtain ⟨done, changed, same⟩ := Rows.bind_eq_ok.mp run
    cases same
    exact ⟨step, stepById_ok here, noOperation, changed⟩
  · obtain ⟨request, _, run⟩ := Rows.bind_eq_ok.mp run
    obtain ⟨linked, _, done⟩ := Rows.bind_eq_ok.mp run
    cases done

theorem compensateStep_done {stepId requestId minted : UUID}
    (run : compensateStep e stepId requestId minted now = .ok (.done e')) : Moves ev licence now e e' := by
  obtain ⟨step, found, noOperation, changed⟩ := compensateStep_released run
  obtain ⟨steps, rfl, each⟩ := onStep_forall₂ (R := StepChange ev licence now e) (fun _ => .keep)
    (fun old new here performed => by
      rw [found] at here
      cases here
      obtain ⟨allowed, rfl⟩ := WorkflowStepExecution.perform_markCompensated_ok performed
      exact .release (compensated_from allowed) noOperation) changed
  exact (Move.steps each).moves

theorem manualReview_from {status : WorkflowStatus} (allowed : .manualReview ∈ workflowTransitions status)
    (unwinding : status ∈ [WorkflowStatus.compensating, .manualReview, .cancelled]) :
    status = .compensating := by
  cases status <;> simp [workflowTransitions] at allowed unwinding ⊢

/-- The settle transaction of `_compensate_step` refines the saga's moves.
On a failure the execution is reviewed first and the step fails under review:
the two writes of the transaction commute. -/
theorem settleCompensation_moves {stepId requestId : UUID} {dispatched : IntegrationRequest}
    (origin : ev.created .compensation stepId requestId)
    (settled : dispatched.status = .succeeded → ev.succeeded requestId)
    (phase : ∀ step ∈ e.steps, step.id = stepId →
      step.status ∈ [WorkflowStepStatus.compensating, .compensated, .failed])
    (unwinding : ∀ step ∈ e.steps, step.status = .compensating →
      e.status ∈ [WorkflowStatus.compensating, .manualReview, .cancelled])
    (run : settleCompensation e stepId requestId dispatched now = .ok e') : Moves ev licence now e e' := by
  unfold settleCompensation at run
  split at run
  · rename_i succeeded
    obtain ⟨steps, rfl, each⟩ := onStep_forall₂ (R := StepChange ev licence now e) (fun _ => .keep)
      (fun old new here performed => by
        have same : old.id = stepId := by simpa using List.find?_some here
        obtain ⟨allowed, rfl⟩ := WorkflowStepExecution.perform_markCompensated_ok performed
        exact .compensate (compensated_from allowed) (same ▸ origin) (settled succeeded)) run
    exact (Move.steps each).moves
  · cases run
    exact .refl
  · obtain ⟨step, here, run⟩ := Rows.bind_eq_ok.mp run
    have found := stepById_ok here
    obtain ⟨failed, changed, performed⟩ := Rows.bind_eq_ok.mp run
    obtain ⟨allowed, rfl⟩ := perform_transitionTo_ok performed
    have compensating : .failed ∈ stepTransitions step.status → step.status = .compensating := by
      intro allowed
      have settledPhase := phase step (List.mem_of_find?_eq_some found) (by simpa using List.find?_some found)
      refine (failed_from allowed).resolve_left fun active => ?_
      simp only [List.mem_cons, List.not_mem_nil, or_false] at active settledPhase
      rcases active with status | status | status <;> simp [status] at settledPhase
    let reviewed := { e with manualReviewReason := some ("compensation failed for " ++ step.stepKey) }.moved
      .manualReview now
    obtain ⟨steps, modified, same⟩ := Rows.bind_eq_ok.mp changed
    cases same
    obtain ⟨_, _, marked⟩ := Rows.modifyFirst_mem found modified
    have failing := compensating (WorkflowStepExecution.perform_markFailed_ok marked).1
    have each : List.Forall₂ (StepChange ev licence now reviewed) reviewed.steps steps :=
      Rows.modifyFirst_forall₂ (fun _ => .keep) (fun old new here performed => by
        cases found.symm.trans here
        obtain ⟨_, rfl⟩ := WorkflowStepExecution.perform_markFailed_ok performed
        exact .compensationFailed failing rfl) modified
    have status := manualReview_from allowed (unwinding step (List.mem_of_find?_eq_some found) failing)
    have first : Move ev licence now e reviewed := .review status
    have second : Move ev licence now reviewed { reviewed with steps := steps } := .steps each
    exact first.moves.tail second

end WorkflowOrchestrator

end IntegrationOrchestrator
