import IntegrationOrchestrator.Saga.CreationRefinement
import IntegrationOrchestrator.Saga.Good

namespace IntegrationOrchestrator

open WorkflowExecution

variable {licence : Licence} {now : Instant} {frame : Frame} {s s' : State} {pushed : List Frame} {ev : Evidence}
  {e e' : WorkflowExecution} {step step' : WorkflowStepExecution}

/-- The request a caller runs was created for its step. -/
def Caller.Owns (s : State) (requestId : UUID) : Caller → Prop
  | .forward executionId stepId => Event.created .forward executionId stepId requestId ∈ s.history
  | .compensation executionId stepId => Event.created .compensation executionId stepId requestId ∈ s.history
  | _ => True

/-- What a pending frame relies on, whatever other tasks do before it runs. -/
def Frame.Asserts (s : State) : Frame → Prop
  | .runForwardStep executionId _ => ∃ e, s.db.executions.get executionId = some e ∧ e.status ≠ .queued
  | .settleForward executionId stepId requestId dispatched =>
    Event.created .forward executionId stepId requestId ∈ s.history ∧
      (dispatched.status = .succeeded → s.Succeeded requestId)
  | .settleTerminal _ request => request.status = .succeeded → s.Succeeded request.id
  | .compensateStep executionId stepId => ∃ e, s.db.executions.get executionId = some e ∧
      ∃ step ∈ e.steps, step.id = stepId ∧ step.status ∈ compensationPhase
  | .settleCompensation executionId stepId requestId dispatched =>
    Event.created .compensation executionId stepId requestId ∈ s.history ∧
      (dispatched.status = .succeeded → s.Succeeded requestId)
  | .dispatch requestId caller => caller.Owns s requestId
  | .callProvider request caller => caller.Owns s request.id
  | .settleAttempt request _ caller => caller.Owns s request.id
  | _ => True

theorem WorkflowExecution.StepChange.compensationPhase_mem (change : StepChange ev licence now e step step')
    (before : step.status ∈ compensationPhase) : step'.status ∈ compensationPhase := by
  cases change <;>
    simp only [compensationPhase, List.mem_cons, List.not_mem_nil, or_false,
      WorkflowStepExecution.moved_status, WorkflowStepExecution.started_status] at * <;>
    grind

theorem Effect.owns (effect : Effect licence now frame s s' pushed) {requestId : UUID} {caller : Caller}
    (owns : caller.Owns s requestId) : caller.Owns s' requestId := by
  cases caller with
  | forward => exact effect.recalls owns
  | compensation => exact effect.recalls owns
  | _ => trivial

/-- No transaction breaks what another pending frame relies on. -/
theorem Effect.asserts (effect : Effect licence now frame s s' pushed) {other : Frame} (asserts : other.Asserts s) :
    other.Asserts s' := by
  cases other with
  | runForwardStep =>
    obtain ⟨e, stored, dequeued⟩ := asserts
    obtain ⟨e', after, moves⟩ := effect.stored stored
    exact ⟨e', after, moves.dequeued dequeued⟩
  | settleForward => exact ⟨effect.recalls asserts.1, fun status => effect.succeeded (asserts.2 status)⟩
  | settleTerminal => exact fun status => effect.succeeded (asserts status)
  | compensateStep =>
    obtain ⟨e, stored, step, member, id, phase⟩ := asserts
    obtain ⟨e', after, moves⟩ := effect.stored stored
    obtain ⟨step', inside, sameId, kept⟩ := Rows.forall₂_mem_left (moves.steps
      (R := fun old new => new.id = old.id ∧ (old.status ∈ compensationPhase → new.status ∈ compensationPhase))
      (fun _ => ⟨rfl, fun phase => phase⟩)
      (fun _ _ _ first second => ⟨second.1.trans first.1, fun phase => second.2 (first.2 phase)⟩)
      fun _ _ _ change => ⟨change.same.id, change.compensationPhase_mem⟩) member
    exact ⟨e', after, step', inside, sameId.trans id, kept phase⟩
  | settleCompensation => exact ⟨effect.recalls asserts.1, fun status => effect.succeeded (asserts.2 status)⟩
  | dispatch => exact effect.owns asserts
  | callProvider => exact effect.owns asserts
  | settleAttempt => exact effect.owns asserts
  | _ => trivial

/-- Where a frame may bring the result of a forward request to a step that is
already being compensated, or begin a compensation, the licence allows it. -/
def Frame.Within (licence : Licence) (s : State) : Frame → Prop
  | .settleTerminal executionId request => ∀ e, s.db.executions.get executionId = some e →
      ∀ step ∈ e.steps, step.status = .compensating → step.integrationRequestId = some request.id → licence.lateSuccess
  | .settleForward executionId stepId _ _ => ∀ e, s.db.executions.get executionId = some e →
      ∀ step ∈ e.steps, step.id = stepId → step.status = .compensating → licence.lateFailure
  | .continueCompensation _ => licence.unwind
  | _ => True

theorem WorkflowExecution.Sound.linked (sound : Sound ev e) : WorkflowOrchestrator.Linked ev e where
  forward := sound.forwardLinks
  phase := by
    intro step member linked
    obtain ⟨requestId, link⟩ := Option.ne_none_iff_exists'.mp linked
    by_cases compensated : step.status = .compensated
    · simp [compensated]
    · exact sound.compensationStarted step member requestId
        (sound.compensationLinks step member requestId link compensated)
  compensation := fun step member requestId status link =>
    sound.compensationLinks step member requestId link (by simp [status])

end IntegrationOrchestrator
