import IntegrationOrchestrator.Saga.StepFacts

namespace IntegrationOrchestrator

namespace WorkflowExecution

variable {ev : Evidence} {licence : Licence} {now : Instant} {e e' : WorkflowExecution}
  {step step' : WorkflowStepExecution}

/-- The invariant of an execution over every run: where its steps stand, by
which requests they got there, and what its own status says about them. -/
structure Sound (ev : Evidence) (e : WorkflowExecution) : Prop where
  ids : (e.steps.map (·.id)).Nodup
  keys : (e.steps.map (·.stepKey)).Nodup
  statuses : e.status ∉ [WorkflowStatus.created, .retryScheduled, .failed, .deadLettered]
  stepStatuses : ∀ step ∈ e.steps, step.status ∉ [WorkflowStepStatus.skipped, .deadLettered]
  forwardLinks : ∀ step ∈ e.steps, ∀ requestId, step.integrationRequestId = some requestId →
    ev.created .forward step.id requestId
  unstarted : ∀ step ∈ e.steps, step.status ∈ [WorkflowStepStatus.pending, .ready] →
    step.integrationRequestId = none
  evidence : ∀ step ∈ e.steps, step.status ∈ [WorkflowStepStatus.succeeded, .compensating, .compensated] →
    ∃ requestId, step.integrationRequestId = some requestId ∧ ev.succeeded requestId
  compensationLinks : ∀ step ∈ e.steps, ∀ requestId, step.compensationRequestId = some requestId →
    step.status ≠ .compensated → ev.created .compensation step.id requestId
  compensationStarted : ∀ step ∈ e.steps, ∀ requestId, ev.created .compensation step.id requestId →
    step.status ∈ compensationPhase
  ready : e.status ∈ forwardPhase → ∀ step ∈ e.steps, step.status = .ready →
    ∀ key ∈ step.dependsOn, ∃ dep, e.stepByKey key = .ok dep ∧ dep.status = .succeeded
  dependencies : ∀ step ∈ e.steps, step.status ∉ [WorkflowStepStatus.pending, .cancelled] →
    ∀ key ∈ step.dependsOn, ∃ dep, e.stepByKey key = .ok dep ∧ dep.status ∈ pastSuccess
  unwinding : ∀ step ∈ e.steps, step.status ∈ [WorkflowStepStatus.compensating, .compensated] →
    e.status ∈ [WorkflowStatus.compensating, .manualReview, .cancelled, .compensated]
  queued : e.status = .queued → ∀ step ∈ e.steps,
    step.status ∈ [WorkflowStepStatus.pending, .ready, .cancelled]
  complete : e.status = .succeeded → ∀ step ∈ e.steps, step.status = .succeeded
  closed : e.status ∈ [WorkflowStatus.cancelled, .compensated] → ∀ step ∈ e.steps,
    step.status ∉ [WorkflowStepStatus.ready, .running, .waiting, .retryScheduled, .succeeded]
  unwound : e.status ∈ [WorkflowStatus.cancelled, .compensated] →
    (∃ step ∈ e.steps, step.status = .compensating) → e.manualReviewReason ≠ none
  reviewed : e.status = .manualReview → e.manualReviewReason ≠ none
  reasoned : e.manualReviewReason ≠ none → e.status ∈ [WorkflowStatus.manualReview, .cancelled] ∨
    (e.status = .compensating ∧ truthy e.cancelReason = true)

theorem StepChange.sound_step (change : StepChange ev licence now e step step') (sound : Sound ev e)
    (member : step ∈ e.steps) :
    step'.status ∉ [WorkflowStepStatus.skipped, .deadLettered] ∧
    (∀ requestId, step'.integrationRequestId = some requestId → ev.created .forward step'.id requestId) ∧
    (step'.status ∈ [WorkflowStepStatus.pending, .ready] → step'.integrationRequestId = none) ∧
    (step'.status ∈ [WorkflowStepStatus.succeeded, .compensating, .compensated] →
      ∃ requestId, step'.integrationRequestId = some requestId ∧ ev.succeeded requestId) ∧
    (∀ requestId, step'.compensationRequestId = some requestId → step'.status ≠ .compensated →
      ev.created .compensation step'.id requestId) ∧
    (∀ requestId, ev.created .compensation step'.id requestId → step'.status ∈ compensationPhase) := by
  have stepStatuses := sound.stepStatuses step member
  have forwardLinks := sound.forwardLinks step member
  have unstarted := sound.unstarted step member
  have evidence := sound.evidence step member
  have compensationLinks := sound.compensationLinks step member
  have started := sound.compensationStarted step member
  cases change <;>
    simp only [compensationPhase, List.mem_cons, List.not_mem_nil, or_false, WorkflowStepExecution.moved,
      WorkflowStepExecution.started] at * <;>
    grind

/-- The invariant survives a change of the steps: every fact is either about
one step and its change, or follows a dependency to the step it resolves to. -/
theorem Sound.steps {steps : List WorkflowStepExecution} (sound : Sound ev e)
    (each : List.Forall₂ (StepChange ev licence now e) e.steps steps) :
    Sound ev { e with steps := steps } := by
  have same : ∀ old new, StepChange ev licence now e old new → SameStep old new := fun _ _ => StepChange.same
  have origin : ∀ new ∈ steps, ∃ old ∈ e.steps, StepChange ev licence now e old new :=
    fun _ => Rows.forall₂_mem_right each
  have single : ∀ new ∈ steps, _ := fun new member =>
    let ⟨_, inside, change⟩ := origin new member
    change.sound_step sound inside
  exact {
    ids := by rw [Rows.forall₂_map_eq (fun old new change => (same old new change).id) each]; exact sound.ids
    keys := by
      rw [Rows.forall₂_map_eq (fun old new change => (same old new change).stepKey) each]; exact sound.keys
    statuses := sound.statuses
    stepStatuses := fun new member => (single new member).1
    forwardLinks := fun new member => (single new member).2.1
    unstarted := fun new member => (single new member).2.2.1
    evidence := fun new member => (single new member).2.2.2.1
    compensationLinks := fun new member => (single new member).2.2.2.2.1
    compensationStarted := fun new member => (single new member).2.2.2.2.2
    ready := by
      intro forward new member status key dependency
      obtain ⟨old, inside, change⟩ := origin new member
      rw [(same old new change).dependsOn] at dependency
      obtain ⟨dep, found, succeeded⟩ :
          ∃ dep, e.stepByKey key = .ok dep ∧ dep.status = .succeeded := by
        cases change with
        | keep => exact sound.ready forward new inside status key dependency
        | ready pending satisfied live => exact allSucceeded_true satisfied key dependency
        | link => exact sound.ready forward old inside status key dependency
        | _ => simp [WorkflowStepExecution.started_status] at status
      obtain ⟨dep', found', changed⟩ := stepByKey_moved same each found
      refine ⟨dep', found', ?_⟩
      rcases changed.from_succeeded succeeded with kept | unwinding
      · exact kept ▸ succeeded
      · simp [forwardPhase, unwinding] at forward
    dependencies := by
      intro new member status key dependency
      obtain ⟨old, inside, change⟩ := origin new member
      rw [(same old new change).dependsOn] at dependency
      obtain ⟨dep, found, past⟩ : ∃ dep, e.stepByKey key = .ok dep ∧ dep.status ∈ pastSuccess := by
        by_cases moved : old.status ∉ [WorkflowStepStatus.pending, .cancelled]
        · exact sound.dependencies old inside moved key dependency
        · obtain ⟨dep, found, succeeded⟩ := allSucceeded_true (change.activated moved status) key dependency
          exact ⟨dep, found, by simp [pastSuccess, succeeded]⟩
      obtain ⟨dep', found', changed⟩ := stepByKey_moved same each found
      exact ⟨dep', found', changed.pastSuccess_mem past⟩
    unwinding := by
      intro new member status
      obtain ⟨old, inside, change⟩ := origin new member
      rcases change.into_compensation status with before | unwinding
      · exact sound.unwinding old inside before
      · simp [unwinding]
    queued := by
      intro queued new member
      obtain ⟨old, inside, change⟩ := origin new member
      exact change.not_started queued (sound.queued queued old inside)
    complete := by
      intro complete new member
      obtain ⟨old, inside, change⟩ := origin new member
      have before := sound.complete complete old inside
      rcases change.from_succeeded before with kept | unwinding
      · exact kept ▸ before
      · exact absurd (complete.symm.trans unwinding) (by simp)
    closed := by
      intro closed new member
      obtain ⟨old, inside, change⟩ := origin new member
      refine change.closed ?_ (sound.closed closed old inside)
      simp only [List.mem_cons, List.not_mem_nil, or_false] at closed
      rcases closed with status | status <;> rw [status] <;> rfl
    unwound := by
      rintro closed ⟨new, member, compensating⟩
      obtain ⟨old, inside, change⟩ := origin new member
      refine sound.unwound closed ⟨old, inside, (change.into_compensating compensating).resolve_right ?_⟩
      intro unwinding
      simp [unwinding] at closed
    reviewed := sound.reviewed
    reasoned := sound.reasoned }

theorem Sound.status {status : WorkflowStatus} {t : Instant} (sound : Sound ev e)
    (change : StatusChange e status) : Sound ev (e.moved status t) where
  ids := sound.ids
  keys := sound.keys
  statuses := by cases change <;> simp
  stepStatuses := sound.stepStatuses
  forwardLinks := sound.forwardLinks
  unstarted := sound.unstarted
  evidence := sound.evidence
  compensationLinks := sound.compensationLinks
  compensationStarted := sound.compensationStarted
  ready := fun forward => sound.ready (change.from_forward forward)
  dependencies := sound.dependencies
  unwinding := fun step member status => change.unwinding (sound.unwinding step member status)
  queued := by
    intro queued
    cases change <;> simp at queued
  complete := by
    intro complete
    cases change with
    | succeed _ all => exact all
    | _ => simp at complete
  closed := fun closed step member => (change.closes closed member).1
  unwound := by
    rintro closed ⟨step, member, compensating⟩
    have before := sound.unwinding step member (by simp [compensating])
    have notUnwinding := (change.closes closed member).2 compensating
    simp only [List.mem_cons, List.not_mem_nil, or_false] at before
    rcases before with same | same | same | same
    · exact absurd same notUnwinding
    · exact sound.reviewed same
    · exact sound.unwound (by simp [same]) ⟨step, member, compensating⟩
    · exact sound.unwound (by simp [same]) ⟨step, member, compensating⟩
  reviewed := by
    intro reviewed
    cases change <;> simp at reviewed
  reasoned := fun given => change.reasoned (sound.reasoned given)

/-- Sending an unwinding execution to manual review. -/
theorem Sound.review {reason : String} {t : Instant} (sound : Sound ev e) :
    Sound ev ({ e with manualReviewReason := some reason }.moved .manualReview t) :=
  { sound with
    statuses := by simp
    ready := by simp [forwardPhase]
    unwinding := by simp
    queued := by simp
    complete := by simp
    closed := by simp
    unwound := by simp
    reviewed := by simp [moved]
    reasoned := by simp }

theorem Sound.unwinding_compensating (sound : Sound ev e) (member : step ∈ e.steps)
    (compensating : step.status = .compensating) :
    e.status ∈ [WorkflowStatus.compensating, .manualReview, .cancelled] := by
  have phase := sound.unwinding step member (by simp [compensating])
  have noted := fun closed => sound.reasoned (sound.unwound closed ⟨step, member, compensating⟩)
  simp only [List.mem_cons, List.not_mem_nil, or_false] at phase noted ⊢
  grind

/-- A step whose compensation is under way in an execution that is not
unwinding any more belongs to an execution under review or cancelled there. -/
theorem Sound.remark {reason : String} (sound : Sound ev e) (elsewhere : e.status ≠ .compensating)
    (compensating : ∃ step ∈ e.steps, step.status = .compensating) :
    Sound ev { e with manualReviewReason := some reason } :=
  { sound with
    unwound := by simp
    reviewed := by simp
    reasoned := by
      obtain ⟨step, member, status⟩ := compensating
      have phase := sound.unwinding_compensating member status
      simp only [List.mem_cons, List.not_mem_nil, or_false] at phase ⊢
      grind }

/-- Every move of a saga keeps the invariant. -/
theorem Sound.move (sound : Sound ev e) (move : Move ev licence now e e') : Sound ev e' := by
  cases move with
  | steps each => exact sound.steps each
  | status change => exact sound.status change
  | review => exact sound.review
  | remark elsewhere compensating => exact sound.remark elsewhere compensating
  | askCancel asked =>
    exact { sound with reasoned := fun given => (sound.reasoned given).imp (fun same => same) fun both => ⟨both.1, asked⟩ }
  | deadline => exact { sound with }
  | lease => exact { sound with }

theorem Sound.moves (sound : Sound ev e) (moves : Moves ev licence now e e') : Sound ev e' := by
  induction moves with
  | refl => exact sound
  | tail _ move ih => exact ih.move move

end WorkflowExecution

end IntegrationOrchestrator
