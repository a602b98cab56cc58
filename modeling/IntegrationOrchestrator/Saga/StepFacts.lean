import IntegrationOrchestrator.Saga.Moves

namespace IntegrationOrchestrator

namespace WorkflowExecution

variable {ev : Evidence} {licence : Licence} {now : Instant} {e e' : WorkflowExecution}
  {step step' : WorkflowStepExecution}

/-- The statuses of a step that ran to success, whatever happened to it later. -/
def pastSuccess : List WorkflowStepStatus := [.succeeded, .compensating, .compensated, .failed]

theorem allSucceeded_true {keys : List String} (run : e.allSucceeded keys = .ok true) :
    ∀ key ∈ keys, ∃ dep, e.stepByKey key = .ok dep ∧ dep.status = .succeeded := by
  induction keys with
  | nil => intro key member; cases member
  | cons first rest ih =>
    obtain ⟨dep, found, run⟩ := Rows.bind_eq_ok.mp run
    split at run
    · cases run
    · rename_i succeeded
      intro key member
      rcases List.mem_cons.mp member with rfl | below
      · exact ⟨dep, found, not_not.mp succeeded⟩
      · exact ih run key below

theorem stepByKey_ok {key : String} (run : e.stepByKey key = .ok step) :
    step ∈ e.steps ∧ step.stepKey = key ∧ e.steps.find? (·.stepKey = key) = some step := by
  unfold stepByKey at run
  split at run
  · rename_i found
    cases run
    exact ⟨List.mem_of_find?_eq_some found, by simpa using List.find?_some found, found⟩
  · cases run

/-- Moving the steps moves the step a key resolves to. -/
theorem stepByKey_moved {R : WorkflowStepExecution → WorkflowStepExecution → Prop}
    {steps : List WorkflowStepExecution} {key : String} (same : ∀ old new, R old new → SameStep old new)
    (each : List.Forall₂ R e.steps steps) (run : e.stepByKey key = .ok step) :
    ∃ step', ({ e with steps := steps } : WorkflowExecution).stepByKey key = .ok step' ∧ R step step' := by
  obtain ⟨_, _, found⟩ := stepByKey_ok run
  have related := Rows.find?_forall₂ (fun step => decide (step.stepKey = key)) (fun old new change => by
    simp only [(same old new change).stepKey]) each
  rw [found] at related
  cases moved : steps.find? (fun step => decide (step.stepKey = key)) with
  | none => rw [moved] at related; cases related
  | some step' =>
    rw [moved] at related
    cases related with
    | some change => exact ⟨step', by simp only [stepByKey, moved], change⟩

/-- A step that has succeeded is only ever moved by the unwind. -/
theorem StepChange.from_succeeded (change : StepChange ev licence now e step step')
    (succeeded : step.status = .succeeded) : step' = step ∨ e.status = .compensating := by
  cases change <;> simp_all [compensationPhase]

theorem StepChange.pastSuccess_mem (change : StepChange ev licence now e step step')
    (past : step.status ∈ pastSuccess) : step'.status ∈ pastSuccess := by
  cases change <;>
    simp only [pastSuccess, List.mem_cons, List.not_mem_nil, or_false,
      WorkflowStepExecution.moved_status, WorkflowStepExecution.started_status, compensationPhase] at * <;>
    grind

/-- A step leaves `pending` for work only once its dependencies succeeded. -/
theorem StepChange.activated (change : StepChange ev licence now e step step')
    (before : ¬ step.status ∉ [WorkflowStepStatus.pending, .cancelled])
    (after : step'.status ∉ [WorkflowStepStatus.pending, .cancelled]) :
    e.dependenciesSatisfied step = .ok true := by
  cases change <;>
    simp only [List.mem_cons, List.not_mem_nil, or_false, not_not, WorkflowStepExecution.moved_status, WorkflowStepExecution.started_status, compensationPhase] at * <;>
    grind

theorem StepChange.into_compensation (change : StepChange ev licence now e step step')
    (after : step'.status ∈ [WorkflowStepStatus.compensating, .compensated]) :
    step.status ∈ [WorkflowStepStatus.compensating, .compensated] ∨ e.status = .compensating := by
  cases change <;>
    simp only [List.mem_cons, List.not_mem_nil, or_false, WorkflowStepExecution.moved_status, WorkflowStepExecution.started_status, compensationPhase] at * <;>
    grind

theorem StepChange.into_compensating (change : StepChange ev licence now e step step')
    (after : step'.status = .compensating) : step.status = .compensating ∨ e.status = .compensating := by
  cases change <;> simp_all [WorkflowStepExecution.started_status]

theorem StepChange.not_started (change : StepChange ev licence now e step step') (queued : e.status = .queued)
    (before : step.status ∈ [WorkflowStepStatus.pending, .ready, .cancelled]) :
    step'.status ∈ [WorkflowStepStatus.pending, .ready, .cancelled] := by
  cases change <;>
    simp only [List.mem_cons, List.not_mem_nil, or_false, WorkflowStepExecution.moved_status, WorkflowStepExecution.started_status, compensationPhase] at * <;>
    grind

theorem StepChange.closed (change : StepChange ev licence now e step step')
    (ended : e.status.isTerminal = true)
    (before : step.status ∉ [WorkflowStepStatus.ready, .running, .waiting, .retryScheduled, .succeeded]) :
    step'.status ∉ [WorkflowStepStatus.ready, .running, .waiting, .retryScheduled, .succeeded] := by
  cases change <;>
    simp only [List.mem_cons, List.not_mem_nil, or_false, WorkflowStepExecution.moved_status, WorkflowStepExecution.started_status, compensationPhase] at * <;>
    grind

theorem StatusChange.from_forward {status : WorkflowStatus} (change : StatusChange e status)
    (forward : status ∈ forwardPhase) : e.status ∈ forwardPhase := by
  cases change <;> simp only [forwardPhase, List.mem_cons, List.not_mem_nil, or_false] at * <;> grind

/-- An unwind is never turned back into forward work. -/
theorem StatusChange.unwinding {status : WorkflowStatus} (change : StatusChange e status)
    (before : e.status ∈ [WorkflowStatus.compensating, .manualReview, .cancelled, .compensated]) :
    status ∈ [WorkflowStatus.compensating, .manualReview, .cancelled, .compensated] := by
  cases change <;> simp only [List.mem_cons, List.not_mem_nil, or_false] at * <;> grind

theorem StatusChange.closes {status : WorkflowStatus} (change : StatusChange e status)
    (closed : status ∈ [WorkflowStatus.cancelled, .compensated]) (member : step ∈ e.steps) :
    step.status ∉ [WorkflowStepStatus.ready, .running, .waiting, .retryScheduled, .succeeded] ∧
      (step.status = .compensating → e.status ≠ .compensating) := by
  cases change with
  | cancel notUnwinding stopped =>
    have settled := stopped step member
    simp only [List.mem_cons, List.not_mem_nil, or_false] at settled ⊢
    grind
  | finishCancelled _ _ unwound =>
    have settled := unwound step member
    simp only [WorkflowOrchestrator.unwoundStatuses, List.mem_cons, List.not_mem_nil, or_false] at settled ⊢
    grind
  | finish _ _ unwound =>
    have settled := unwound step member
    simp only [WorkflowOrchestrator.unwoundStatuses, List.mem_cons, List.not_mem_nil, or_false] at settled ⊢
    grind
  | _ => simp at closed

theorem StatusChange.reasoned {status : WorkflowStatus} (change : StatusChange e status)
    (before : e.status ∈ [WorkflowStatus.manualReview, .cancelled] ∨
      (e.status = .compensating ∧ truthy e.cancelReason = true)) :
    status ∈ [WorkflowStatus.manualReview, .cancelled] ∨
      (status = .compensating ∧ truthy e.cancelReason = true) := by
  cases change <;> simp only [List.mem_cons, List.not_mem_nil, or_false] at * <;> grind

/-- What relates a step to itself and survives every change relates the steps
before a transaction to the steps after it. -/
theorem Moves.steps {R : WorkflowStepExecution → WorkflowStepExecution → Prop} (refl : ∀ step, R step step)
    (trans : ∀ a b c, R a b → R b c → R a c)
    (change : ∀ e old new, StepChange ev licence now e old new → R old new) (moves : Moves ev licence now e e') :
    List.Forall₂ R e.steps e'.steps := by
  have same : ∀ steps : List WorkflowStepExecution, List.Forall₂ R steps steps := fun steps =>
    List.forall₂_same.mpr fun step _ => refl step
  induction moves with
  | refl => exact same _
  | @tail middle after _ move ih =>
    cases move with
    | steps each => exact Rows.forall₂_trans trans ih (each.imp fun old new changed => change _ old new changed)
    | _ => exact ih

theorem SameStep.trans {a b c : WorkflowStepExecution} (first : SameStep a b) (second : SameStep b c) :
    SameStep a c :=
  ⟨second.id.trans first.id, second.stepKey.trans first.stepKey, second.dependsOn.trans first.dependsOn,
    second.compensateOperation.trans first.compensateOperation⟩

theorem Moves.same (moves : Moves ev licence now e e') : List.Forall₂ SameStep e.steps e'.steps :=
  moves.steps (fun _ => ⟨rfl, rfl, rfl, rfl⟩) (fun _ _ _ => SameStep.trans) fun _ _ _ => StepChange.same

theorem Moves.id (moves : Moves ev licence now e e') : e'.id = e.id := by
  induction moves with
  | refl => rfl
  | tail _ move ih => cases move <;> exact ih

/-- What holds of an execution and survives every move holds after the
transaction. -/
theorem Moves.invariant (holds : WorkflowExecution → Prop)
    (keep : ∀ e e', holds e → Move ev licence now e e' → holds e') (moves : Moves ev licence now e e')
    (before : holds e) : holds e' := by
  induction moves with
  | refl => exact before
  | tail _ move ih => exact keep _ _ ih move

theorem Moves.dequeued (moves : Moves ev licence now e e') (before : e.status ≠ .queued) :
    e'.status ≠ .queued := by
  refine Moves.invariant (fun e => e.status ≠ .queued) ?_ moves before
  intro e e' before move
  cases move with
  | status change => cases change <;> simp
  | review => simp
  | _ => exact before

end WorkflowExecution

end IntegrationOrchestrator
