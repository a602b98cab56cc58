import IntegrationOrchestrator.Saga.Compensation

namespace IntegrationOrchestrator

open WorkflowExecution

variable {settings : Settings} {licence : Licence} {now : Instant} {frame : Frame} {s s' : State}
  {pushed : List Frame} {ev : Evidence} {e e' e₀ : WorkflowExecution}
  {step step' step₀ : WorkflowStepExecution} {c c₀ : Config} {executionId stepId : UUID}

/-- The frame is not the settlement of a forward dispatch whose step is being
compensated. -/
def Frame.notLateSettlement (s : State) : Frame → Bool
  | .settleForward executionId stepId _ _ => (s.db.executions.get executionId).all fun e => e.steps.all fun step =>
      step.id ≠ stepId || step.status ≠ .compensating
  | _ => true

/-- No result of a step's forward request is processed while that step is
being compensated. -/
abbrev NoLateForwardResult : Restriction := .frames fun c _ frame =>
  frame.notLateForward c.state && frame.notLateSettlement c.state

theorem noLateForwardResult_notification {a : Action} (allowed : NoLateForwardResult c a) :
    NoLateForwardNotification c a := by
  simp only [Restriction.frames, Option.all_eq_true, Bool.and_eq_true] at allowed ⊢
  exact fun next scheduled => (allowed next scheduled).1

theorem noLateForwardResult_within : NoLateForwardResult.Within ⟨False, False, True⟩ := by
  intro c task input frame rest ok atTask
  have passes := Restriction.frames_run ok atTask
  rw [Bool.and_eq_true] at passes
  cases frame with
  | settleTerminal executionId request =>
    have early := noLateForwardNotification_within c task input _ rest (noLateForwardResult_notification ok) atTask
    exact early
  | settleForward executionId stepId requestId dispatched =>
    intro e stored step member id compensating
    have early := passes.2
    simp only [Frame.notLateSettlement, stored, Option.all_some, List.all_eq_true] at early
    simpa [id, compensating] using early step member
  | _ => trivial

/-- The step's success is still in force or being undone, or its compensation
failed and the execution was handed to an operator. -/
def WorkflowExecution.Answerable (e : WorkflowExecution) (step : WorkflowStepExecution) : Prop :=
  step.status ∈ [WorkflowStepStatus.succeeded, .compensating, .compensated] ∨
    (step.status = .failed ∧ e.manualReviewReason ≠ none)

theorem WorkflowExecution.StepChange.answerable (change : StepChange ev licence now e step step')
    (guarded : ¬ licence.lateFailure) (reviewed : e.status = .manualReview → e.manualReviewReason ≠ none)
    (before : e.Answerable step) : e.Answerable step' := by
  unfold Answerable at before ⊢
  cases change with
  | compensationFailed _ review => exact Or.inr ⟨rfl, reviewed review⟩
  | lateFailure late => exact absurd late guarded
  | _ =>
    simp only [List.mem_cons, List.not_mem_nil, or_false, WorkflowStepExecution.moved_status,
      WorkflowStepExecution.started_status] at *
    grind

/-- The execution answers for the success of this step, which can be undone. -/
def WorkflowExecution.Owes (stepId : UUID) (e : WorkflowExecution) : Prop :=
  ∃ step ∈ e.steps, step.id = stepId ∧ step.compensateOperation ≠ none ∧ e.Answerable step

theorem WorkflowExecution.Move.owes (move : Move ev licence now e e') (guarded : ¬ licence.lateFailure)
    (sound : Sound ev e) (before : e.Owes stepId) : e'.Owes stepId := by
  obtain ⟨step, member, id, operation, answerable⟩ := before
  cases move with
  | steps each =>
    obtain ⟨step', inside, change⟩ := Rows.forall₂_mem_left each member
    refine ⟨step', inside, change.same.id.trans id, ?_, change.answerable guarded sound.reviewed answerable⟩
    rw [change.same.compensateOperation]
    exact operation
  | review => exact ⟨step, member, id, operation, answerable.imp_right fun both => ⟨both.1, by simp [moved]⟩⟩
  | remark => exact ⟨step, member, id, operation, answerable.imp_right fun both => ⟨both.1, by simp⟩⟩
  | _ => exact ⟨step, member, id, operation, answerable⟩

theorem WorkflowExecution.Moves.owes (moves : Moves ev licence now e e') (guarded : ¬ licence.lateFailure)
    (sound : Sound ev e) (before : e.Owes stepId) : e'.Owes stepId := by
  refine (Moves.invariant (fun e => Sound ev e ∧ e.Owes stepId) ?_ moves ⟨sound, before⟩).2
  rintro e e' ⟨sound, held⟩ move
  exact ⟨sound.move move, move.owes guarded sound held⟩

/-- An answerable step of a finished unwind that no operator touched was
compensated. -/
theorem WorkflowExecution.Sound.compensated_of_answerable (sound : Sound ev e) (member : step ∈ e.steps)
    (answerable : e.Answerable step)
    (ended : e.status = .compensated ∨ (e.status = .cancelled ∧ e.manualReviewReason = none)) :
    step.status = .compensated := by
  have closed : e.status ∈ [WorkflowStatus.cancelled, .compensated] := by
    rcases ended with status | ⟨status, _⟩ <;> simp [status]
  have unreviewed : e.manualReviewReason = none := by
    rcases ended with status | ⟨_, unreviewed⟩
    · by_contra given
      have := sound.reasoned given
      simp [status] at this
    · exact unreviewed
  have open' := sound.closed closed step member
  have idle : step.status ≠ .compensating := fun compensating =>
    sound.unwound closed ⟨step, member, compensating⟩ unreviewed
  rcases answerable with status | ⟨_, reviewed⟩
  · simp only [List.mem_cons, List.not_mem_nil, or_false] at status open'
    grind
  · exact absurd unreviewed reviewed

/-- Saga effect safety, over every run in which no forward result is processed
while its step is being compensated: when an execution has ended as
compensated, or as cancelled without having been under review, every step that
had succeeded and can be undone has a succeeded compensation request. -/
theorem saga_effect_safety (reach₀ : ReachableUnder settings NoLateForwardResult c₀)
    (reach : (orchestrator settings).Reach NoLateForwardResult c₀ c)
    (stored₀ : c₀.state.db.executions.get executionId = some e₀) (member₀ : step₀ ∈ e₀.steps)
    (succeeded : step₀.status = .succeeded) (operation : step₀.compensateOperation ≠ none)
    (stored : c.state.db.executions.get executionId = some e)
    (ended : e.status = .compensated ∨ (e.status = .cancelled ∧ e.manualReviewReason = none)) :
    ∃ step ∈ e.steps, step.id = step₀.id ∧ ∃ requestId, step.compensationRequestId = some requestId ∧
      Event.created .compensation executionId step.id requestId ∈ c.state.history ∧
      c.state.Succeeded requestId := by
  have owes : ∃ e, c.state.db.executions.get executionId = some e ∧ e.Owes step₀.id := by
    refine stays (fun s => ∃ e, s.db.executions.get executionId = some e ∧ e.Owes step₀.id)
      noLateForwardResult_within ?_ reach₀ ⟨e₀, stored₀, step₀, member₀, rfl, operation, ?_⟩ reach
    · rintro c c' _ _ _ _ _ reach _ _ _ ⟨e, stored, owes⟩ effect
      have good := (reachable_good noLateForwardResult_within reach).1
      obtain ⟨e', after, moves⟩ := effect.stored stored
      exact ⟨e', after, moves.owes (fun late => late) (effect.sound good stored) owes⟩
    · exact Or.inl (by simp [succeeded])
  obtain ⟨other, here, step, member, id, undoable, answerable⟩ := owes
  cases stored.symm.trans here
  have reached : ReachableUnder settings NoLateForwardResult c := reach₀.trans reach
  have sound := (reachable_good noLateForwardResult_within reached).1.sound executionId e stored
  have compensated := sound.compensated_of_answerable member answerable ended
  have quiet : ReachableUnder settings NoLateForwardNotification c :=
    reached.mono fun _ _ => noLateForwardResult_notification
  have evidenced := compensated_evidenced quiet executionId e stored step member compensated
  exact ⟨step, member, id, evidenced.resolve_left undoable⟩

namespace Sample

/-- A step is cancelled while the provider works on it, and succeeds later. -/
def lateSuccess : List Action :=
  .spawn (start [stage "only" []] none) :: work 0 1 100 2 ++ work 0 2 200 3 ++
    answer 0 3 (answered .pending "op-1") :: work 0 4 300 4 ++
    .spawn (.cancelWorkflow 100 { type := .apiClient } none) :: work 1 5 0 1 ++
    .spawn (.processWebhook
      { provider := provider, normalizedStatus := .succeeded, providerReference := some "op-1" }) :: work 2 6 0 1

def refusal : ProviderError :=
  { code := "rejected", message := "no", category := .providerValidation, retryable := false }

/-- A compensation is refused, and the operator cancels the workflow under
review. -/
def reviewedCancel : List Action :=
  firstSucceeded ++ cancelled (.refused refusal) ++
    .spawn (.cancelWorkflow 100 { type := .apiClient } none) :: work 2 9 0 1

end Sample

/-- The step's forward request succeeded and none of its compensation requests
did, although it can be undone. -/
def State.uncompensated (s : State) (step : WorkflowStepExecution) : Bool :=
  step.compensateOperation.isSome && step.integrationRequestId.any (fun forward => s.Succeeded forward) &&
    s.history.all fun event => match event with
      | .created .compensation _ stepId requestId => stepId ≠ step.id || ¬ s.Succeeded requestId
      | _ => true

/-- A cancelled execution whose forward effect is not undone: because the
provider finished after the cancellation, and because the compensation was
refused and the workflow then cancelled under review. -/
theorem cancelled_uncompensated :
    (∃ c, Reachable Sample.settings c ∧ ∃ e, c.state.db.executions.get 100 = some e ∧ e.status = .cancelled ∧
      e.manualReviewReason = none ∧ ∃ step ∈ e.steps, c.state.uncompensated step = true) ∧
    (∃ c, Reachable Sample.settings c ∧ ∃ e, c.state.db.executions.get 100 = some e ∧ e.status = .cancelled ∧
      e.manualReviewReason ≠ none ∧ ∃ step ∈ e.steps, c.state.uncompensated step = true) :=
  ⟨reachable_replay Sample.settings Sample.lateSuccess _ (by decide),
    reachable_replay Sample.settings Sample.reviewedCancel _ (by decide)⟩

theorem saga_effect_safety_cancelled :
    ∃ c e, ReachableUnder Sample.settings NoLateForwardResult c ∧ c.state.db.executions.get 100 = some e ∧
      e.status = .cancelled ∧ ∃ step ∈ e.steps, step.id = 101 ∧ ∃ requestId,
        step.compensationRequestId = some requestId ∧
        Event.created .compensation 100 step.id requestId ∈ c.state.history ∧ c.state.Succeeded requestId := by
  let unwind := Sample.cancelled (Sample.answered .succeeded "op-2") ++ Sample.work 1 9 0 1
  obtain ⟨c₀, reach₀, ⟨e₀, stored₀, step₀, member₀, id, succeeded, operation⟩, c, onward, e, stored, status, reason⟩ :=
    reachableUnder_replay Sample.settings NoLateForwardResult Sample.firstSucceeded
      (fun c₀ => (∃ e, c₀.state.db.executions.get 100 = some e ∧ ∃ step ∈ e.steps, step.id = 101 ∧
          step.status = .succeeded ∧ step.compensateOperation ≠ none) ∧
        ∃ c, (orchestrator Sample.settings).replay (fun c a => decide (NoLateForwardResult c a)) c₀ unwind = some c ∧
          ∃ e, c.state.db.executions.get 100 = some e ∧ e.status = .cancelled ∧ e.manualReviewReason = none) (by decide)
  have reach : (orchestrator Sample.settings).Reach NoLateForwardResult c₀ c :=
    .of_replay (fun _ _ ok => of_decide_eq_true ok) onward
  obtain ⟨step, member, sameId, evidence⟩ := saga_effect_safety reach₀ reach stored₀ member₀ succeeded operation
    stored (Or.inr ⟨status, reason⟩)
  exact ⟨c, e, reach₀.trans reach, stored, status, step, member, sameId.trans id, evidence⟩

end IntegrationOrchestrator
