import IntegrationOrchestrator.Saga.Runs

namespace IntegrationOrchestrator

open WorkflowExecution

variable {licence : Licence} {now : Instant} {frame : Frame} {s s' : State}
  {pushed : List Frame} {ev : Evidence} {e e' : WorkflowExecution} {step step' : WorkflowStepExecution}
  {executionId stepId : UUID}

/-- The event records a request of this role for this step. -/
def Event.isCreation (role : Role) (executionId stepId : UUID) : Event → Bool
  | .created made e step _ => made = role && e = executionId && step = stepId
  | _ => false

/-- How many requests of this role were ever created for this step. -/
def State.createdCount (s : State) (role : Role) (executionId stepId : UUID) : Nat :=
  s.history.countP (Event.isCreation role executionId stepId)

/-- The stored step has one of these statuses. -/
def State.stepIn (s : State) (executionId stepId : UUID) (statuses : List WorkflowStepStatus) : Bool :=
  (s.db.executions.get executionId).any fun e =>
    e.steps.any fun step => step.id = stepId && step.status ∈ statuses

theorem State.stepIn_iff {statuses : List WorkflowStepStatus} :
    s.stepIn executionId stepId statuses = true ↔ ∃ e, s.db.executions.get executionId = some e ∧
      ∃ step ∈ e.steps, step.id = stepId ∧ step.status ∈ statuses := by
  simp [State.stepIn, Option.any_eq_true, List.any_eq_true]

/-- The statuses of a step whose forward request is still to be created. -/
def beforeForward : List WorkflowStepStatus := [.pending, .ready]

/-- The statuses of a step whose compensation has not begun. -/
def beforeCompensation : List WorkflowStepStatus :=
  [.pending, .ready, .running, .waiting, .retryScheduled, .succeeded]

theorem WorkflowExecution.StepChange.beforeForward_mem (change : StepChange ev licence now e step step')
    (after : step'.status ∈ beforeForward) : step.status ∈ beforeForward := by
  cases change <;>
    simp only [beforeForward, List.mem_cons, List.not_mem_nil, or_false, WorkflowStepExecution.moved_status,
      WorkflowStepExecution.started_status, compensationPhase] at * <;>
    grind

theorem WorkflowExecution.StepChange.beforeCompensation_mem (change : StepChange ev licence now e step step')
    (after : step'.status ∈ beforeCompensation) : step.status ∈ beforeCompensation := by
  cases change <;>
    simp only [beforeCompensation, List.mem_cons, List.not_mem_nil, or_false, WorkflowStepExecution.moved_status,
      WorkflowStepExecution.started_status, compensationPhase] at * <;>
    grind

/-- A set of statuses that no change enters is only ever left, or entered by
a new execution. -/
theorem Effect.stepIn (effect : Effect licence now frame s s' pushed) (executionId stepId : UUID)
    {statuses : List WorkflowStepStatus}
    (left : ∀ {ev e step step'}, StepChange ev licence now e step step' → step'.status ∈ statuses →
      step.status ∈ statuses) (after : s'.stepIn executionId stepId statuses = true) :
    s.stepIn executionId stepId statuses = true ∨ s.db.executions.get executionId = none := by
  obtain ⟨e', stored, step', member, id, status⟩ := State.stepIn_iff.mp after
  rcases effect.origin stored with ⟨e, before, moves⟩ | ⟨absent, _⟩
  · have each := moves.steps
      (R := fun old new => new.id = old.id ∧ (new.status ∈ statuses → old.status ∈ statuses))
      (fun _ => ⟨rfl, fun same => same⟩)
      (fun _ _ _ first second => ⟨second.1.trans first.1, fun inside => first.2 (second.2 inside)⟩)
      fun _ _ _ change => ⟨change.same.id, left change⟩
    obtain ⟨step, inside, sameId, kept⟩ := Rows.forall₂_mem_right each member
    exact Or.inl (State.stepIn_iff.mpr ⟨e, before, step, inside, sameId.symm.trans id, kept status⟩)
  · exact Or.inr absent

/-- After one step was replaced, the step with its id is the replacement. -/
theorem State.Replaced.stepIn (replaced : s.Replaced s' e e') (good : s'.Good)
    (swap : StepReplaced e e' step step') (same : step'.id = step.id) {statuses : List WorkflowStepStatus}
    (outside : step'.status ∉ statuses) : s'.stepIn e.id step.id statuses = false := by
  rw [Bool.eq_false_iff]
  intro inside
  obtain ⟨stored, here, other, member, id, status⟩ := State.stepIn_iff.mp inside
  have after : s'.db.executions.get e.id = some e' := by simp [replaced.get]
  cases after.symm.trans here
  have ids := (good.sound e.id e' after).ids
  cases List.inj_on_of_nodup_map ids member swap.made (id.trans same.symm)
  exact outside status

theorem State.createdCount_append {extra : List Event} (history : s'.history = s.history ++ extra)
    (role : Role) (executionId stepId : UUID) : s'.createdCount role executionId stepId =
      s.createdCount role executionId stepId + extra.countP (Event.isCreation role executionId stepId) := by
  rw [State.createdCount, State.createdCount, history, List.countP_append]

/-- A creation is counted once, and uses the step up that it is for. -/
theorem Effect.createdCount (effect : Effect licence now frame s s' pushed) (good : s.Good)
    (role : Role) (executionId stepId : UUID) :
    s'.createdCount role executionId stepId = s.createdCount role executionId stepId ∨
    (s'.createdCount role executionId stepId = s.createdCount role executionId stepId + 1 ∧
      ((role = .forward ∧ (∃ e, s.db.executions.get executionId = some e ∧ e.status ∈ forwardPhase) ∧
          s.stepIn executionId stepId beforeForward = true ∧
          s'.stepIn executionId stepId beforeForward = false) ∨
        (role = .compensation ∧ frame = .compensateStep executionId stepId))) := by
  have good' := effect.good good
  have unchanged : s'.history = s.history →
      s'.createdCount role executionId stepId = s.createdCount role executionId stepId := by
    intro history
    rw [State.createdCount, State.createdCount, history]
  cases effect with
  | requests _ _ extra _ =>
    obtain ⟨extra, history, none⟩ := extra
    have zero : extra.countP (Event.isCreation role executionId stepId) = 0 := by
      rw [List.countP_eq_zero]
      intro event member
      cases event with
      | created made e step q => exact absurd member (none made e step q)
      | _ => simp [Event.isCreation]
    rw [State.createdCount_append history, zero]
    exact Or.inl rfl
  | moves _ _ history => exact Or.inl (unchanged history)
  | begins _ _ _ _ history => exact Or.inl (unchanged history)
  | @creates e e' step q _ _ created member ready running swap =>
    rw [State.createdCount_append created.history]
    by_cases this : role = .forward ∧ executionId = e.id ∧ stepId = step.id
    · obtain ⟨rfl, rfl, rfl⟩ := this
      have forward : e.status ∈ forwardPhase := by
        rcases List.mem_pair.mp running with status | status <;> simp [forwardPhase, status]
      refine Or.inr ⟨by simp [Event.isCreation], Or.inl ⟨rfl, ⟨e, created.stored, forward⟩, ?_, ?_⟩⟩
      · exact State.stepIn_iff.mpr ⟨e, created.stored, step, member, rfl, by simp [beforeForward, ready]⟩
      · exact created.toReplaced.stepIn good' swap rfl (by simp [beforeForward, WorkflowStepExecution.started_status])
    · have other : Event.isCreation role executionId stepId (.created .forward e.id step.id q.id) = false := by
        simp only [Event.isCreation]
        grind
      exact Or.inl (by simp [other])
  | @compensates e e' step q _ frame created =>
    rw [State.createdCount_append created.history]
    by_cases this : role = .compensation ∧ executionId = e.id ∧ stepId = step.id
    · obtain ⟨rfl, rfl, rfl⟩ := this
      exact Or.inr ⟨by simp [Event.isCreation], Or.inr ⟨rfl, frame⟩⟩
    · have other : Event.isCreation role executionId stepId (.created .compensation e.id step.id q.id) = false := by
        simp only [Event.isCreation]
        grind
      exact Or.inl (by simp [other])
  | starts _ _ _ history => exact Or.inl (unchanged history)

/-- No request was created for an execution that is not stored. -/
theorem State.Good.createdCount_absent (good : s.Good) (absent : s.db.executions.get executionId = none)
    (role : Role) (stepId : UUID) : s.createdCount role executionId stepId = 0 := by
  rw [State.createdCount, List.countP_eq_zero]
  intro event member
  cases event with
  | created made other step q =>
    intro same
    simp only [Event.isCreation, Bool.and_eq_true, decide_eq_true_eq] at same
    obtain ⟨⟨_, rfl⟩, _⟩ := same
    obtain ⟨e, stored⟩ := good.known _ _ _ _ member
    exact absurd (stored.symm.trans absent) (by simp)
  | _ => simp [Event.isCreation]

end IntegrationOrchestrator
