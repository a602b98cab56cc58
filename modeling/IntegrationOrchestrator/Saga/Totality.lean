import IntegrationOrchestrator.Saga.Refresh
import IntegrationOrchestrator.Saga.UnwindRefinement

namespace IntegrationOrchestrator

namespace WorkflowExecution

variable {e : WorkflowExecution}

/-- Every dependency names a step of the execution. -/
def Resolves (e : WorkflowExecution) : Prop :=
  ∀ step ∈ e.steps, ∀ key ∈ step.dependsOn, ∃ dep, e.stepByKey key = .ok dep

theorem Resolves.steps {steps : List WorkflowStepExecution} (resolves : e.Resolves)
    (each : List.Forall₂ SameStep e.steps steps) : ({ e with steps := steps } : WorkflowExecution).Resolves := by
  intro step' member key dependency
  obtain ⟨step, inside, same⟩ := Rows.forall₂_mem_right each member
  rw [same.dependsOn] at dependency
  obtain ⟨dep, found⟩ := resolves step inside key dependency
  obtain ⟨dep', found', _⟩ := stepByKey_moved (fun _ _ same => same) each found
  exact ⟨dep', found'⟩

theorem Resolves.of_steps {e' : WorkflowExecution} (resolves : e.Resolves) (same : e'.steps = e.steps) :
    e'.Resolves := by
  intro step member key dependency
  rw [same] at member
  obtain ⟨dep, found⟩ := resolves step member key dependency
  refine ⟨dep, ?_⟩
  rw [stepByKey, same]
  exact found

theorem allSucceeded_total {keys : List String} (found : ∀ key ∈ keys, ∃ dep, e.stepByKey key = .ok dep) :
    ∃ answer, e.allSucceeded keys = .ok answer := by
  induction keys with
  | nil => exact ⟨true, rfl⟩
  | cons key rest ih =>
    obtain ⟨dep, first⟩ := found key (List.mem_cons_self ..)
    obtain ⟨answer, below⟩ := ih fun other member => found other (List.mem_cons_of_mem _ member)
    by_cases succeeded : dep.status = .succeeded
    · exact ⟨answer, by simp [allSucceeded, first, below, succeeded, bind, Except.bind]⟩
    · exact ⟨false, by simp [allSucceeded, first, succeeded, bind, Except.bind]⟩

theorem promoteReadySteps_total (resolves : e.Resolves) (now : Instant) :
    ∃ e', e.promoteReadySteps now = .ok e' := by
  have each : ∃ steps, e.steps.mapM (fun (step : WorkflowStepExecution) => do
      if step.status = WorkflowStepStatus.pending then
        if ← e.dependenciesSatisfied step then Mutator.perform (WorkflowStepExecution.markReady now) step
        else .ok step
      else .ok step) = .ok steps := by
    refine Rows.mapM_total fun step member => ?_
    by_cases pending : step.status = .pending
    · obtain ⟨answer, satisfied⟩ := allSucceeded_total (resolves step member)
      have ready : Mutator.perform (WorkflowStepExecution.markReady now) step = .ok (step.moved .ready now) := by
        rw [WorkflowStepExecution.markReady, WorkflowStepExecution.perform_transitionTo, if_pos]
        simp [pending, stepTransitions]
      cases answer with
      | true => exact ⟨_, by simpa [pending, dependenciesSatisfied, satisfied, bind, Except.bind] using ready⟩
      | false => exact ⟨step, by simp [pending, dependenciesSatisfied, satisfied, bind, Except.bind]⟩
    · exact ⟨step, by simp [pending]⟩
  obtain ⟨steps, changed⟩ := each
  exact ⟨{ e with steps := steps }, by rw [promoteReadySteps, changed]; rfl⟩

end WorkflowExecution

namespace WorkflowOrchestrator

open WorkflowExecution

variable {e : WorkflowExecution} {t : Readings}

theorem resumeRunning_total (resolves : e.Resolves) (now : Instant) : ∃ e', resumeRunning e now = .ok e' := by
  unfold resumeRunning
  split
  · rename_i resumes
    have waiting : e.status = .waiting := by simp_all
    have promoted := promoteReadySteps_total (resolves.of_steps (moved_steps e .running now)) now
    rw [perform_transitionTo, if_pos (by simp [waiting, workflowTransitions])]
    exact promoted
  · exact ⟨e, rfl⟩

theorem completeIfSucceeded_total (e : WorkflowExecution) (t : Readings) :
    ∃ e' records, completeIfSucceeded e t = .ok (e', records) := by
  unfold completeIfSucceeded
  split
  · rename_i complete
    have running : e.status = .running := by simp_all
    exact ⟨_, _, movedTo_allowed (by simp [running, workflowTransitions]) _ _ _ _⟩
  · exact ⟨e, [], rfl⟩

/-- Refreshing the status of an execution at work never raises. -/
theorem refreshExecutionStatus_total (resolves : e.Resolves)
    (forward : e.status ∈ [WorkflowStatus.running, .waiting]) (t : Readings) :
    ∃ e' records, refreshExecutionStatus e t = .ok (e', records) := by
  have unwinds : .compensating ∈ workflowTransitions e.status := by
    rcases List.mem_pair.mp forward with status | status <;> simp [status, workflowTransitions]
  unfold refreshExecutionStatus
  split
  · exact ⟨e, [], rfl⟩
  · split
    · exact ⟨_, _, movedTo_allowed unwinds _ _ _ _⟩
    · split
      · rename_i waits
        have running : e.status = .running := by simp_all
        exact ⟨_, _, movedTo_allowed (by simp [running, workflowTransitions]) _ _ _ _⟩
      · obtain ⟨resumed, first⟩ := resumeRunning_total resolves t.refreshedAt
        rw [first]
        exact completeIfSucceeded_total resumed t

/-- The step waits for a request that has succeeded. -/
def Resumes (requests : UUID → Option IntegrationRequest) (step : WorkflowStepExecution) : Prop :=
  step.status = .waiting ∧ ∃ request, step.integrationRequestId.bind requests = some request ∧
    request.status = .succeeded

/-- `advance` resumes a step that waits for a succeeded request and leaves
every other step alone. -/
theorem resumeWaitingStep_cases (requests : UUID → Option IntegrationRequest) (now : Instant)
    (step : WorkflowStepExecution) :
    (Resumes requests step ∧ ∃ step', resumeWaitingStep requests now step = .ok step' ∧
      step'.status = .succeeded ∧ SameStep step step') ∨
    (¬ Resumes requests step ∧ resumeWaitingStep requests now step = .ok step) := by
  unfold resumeWaitingStep
  by_cases waiting : step.status = .waiting
  · rw [if_pos waiting]
    cases found : step.integrationRequestId.bind requests with
    | none => exact Or.inr ⟨fun ⟨_, _, linked, _⟩ => by simp [found] at linked, rfl⟩
    | some request =>
      by_cases succeeded : request.status = .succeeded
      · have allowed : .succeeded ∈ stepTransitions step.status := by simp [waiting, stepTransitions]
        exact Or.inl ⟨⟨waiting, request, found, succeeded⟩, _, (if_pos succeeded).trans
          (WorkflowStepExecution.perform_markSucceeded_allowed allowed _ _), rfl, rfl, rfl, rfl, rfl⟩
      · refine Or.inr ⟨?_, by simp [succeeded]⟩
        rintro ⟨_, other, linked, settled⟩
        cases found.symm.trans linked
        exact succeeded settled
  · exact Or.inr ⟨fun resumes => waiting resumes.1, if_neg waiting⟩

theorem dequeued_total (forward : e.status ∈ forwardPhase) (now : Instant) :
    ∃ running, dequeued e now = .ok running ∧ running.id = e.id ∧ running.steps = e.steps ∧
      running.status ∈ [WorkflowStatus.running, .waiting] := by
  unfold dequeued
  split
  · rename_i queued
    rw [perform_transitionTo, if_pos (by simp [queued, workflowTransitions])]
    exact ⟨_, rfl, rfl, rfl, by simp⟩
  · rename_i started
    exact ⟨e, rfl, rfl, rfl, by simpa [forwardPhase, started] using forward⟩

/-- Before its deadline, `advance` commits on an execution at work: it resumes
what waits for a succeeded request, and otherwise only promotes steps. -/
theorem advance_total (requests : UUID → Option IntegrationRequest) (resolves : e.Resolves)
    (forward : e.status ∈ forwardPhase)
    (early : ¬ (e.isPastDeadline t.now = true ∧ e.deadlineProcessedAt = none)) :
    ∃ e' records, advance e requests t = .ok (.commit e' records) ∧ e'.id = e.id ∧
      ∀ step ∈ e.steps, step.status ≠ .pending → ∃ step' ∈ e'.steps, step'.id = step.id ∧
        (Resumes requests step → step'.status = .succeeded) ∧
        (¬ Resumes requests step → step'.status = step.status) := by
  have live : e.status.isTerminal = false ∧ e.status ≠ .manualReview := by
    simp only [forwardPhase, List.mem_cons, List.not_mem_nil, or_false] at forward
    rcases forward with status | status | status <;> simp [status, WorkflowStatus.isTerminal]
  have inTime : ¬ ((e.isPastDeadline t.now && e.deadlineProcessedAt.isNone &&
      e.status ∉ [.compensating, .manualReview]) = true) := by
    intro late
    simp only [Bool.and_eq_true, Option.isNone_iff_eq_none] at late
    exact early late.1
  obtain ⟨running, dequeue, sameId, sameSteps, working⟩ := dequeued_total forward t.now
  have resumption : ∃ steps, running.steps.mapM (resumeWaitingStep requests t.now) = .ok steps :=
    Rows.mapM_total fun step _ => by
      rcases resumeWaitingStep_cases requests t.now step with ⟨_, step', ran, _⟩ | ⟨_, ran⟩
      · exact ⟨step', ran⟩
      · exact ⟨step, ran⟩
  obtain ⟨steps, resumed⟩ := resumption
  have each := Rows.mapM_ok_iff.mp resumed
  have same : List.Forall₂ SameStep running.steps steps := each.imp fun step step' changed => by
    rcases resumeWaitingStep_cases requests t.now step with ⟨_, other, ran, _, same⟩ | ⟨_, ran⟩
    · cases ran.symm.trans changed
      exact same
    · cases ran.symm.trans changed
      exact ⟨rfl, rfl, rfl, rfl⟩
  have resolvable := resolves.of_steps sameSteps
  obtain ⟨promoted, second⟩ := promoteReadySteps_total (resolvable.steps same) t.now
  obtain ⟨rest, promotions⟩ := promoteReadySteps_each second
  have promotedSame : List.Forall₂ SameStep steps promoted.steps := promotions.imp fun old new change => by
    rcases change with rfl | ⟨_, rfl⟩ <;> exact ⟨rfl, rfl, rfl, rfl⟩
  have status : promoted.status = running.status := by rw [rest]
  have resolved : promoted.Resolves := by
    rw [rest]
    exact (resolvable.steps same).steps promotedSame
  obtain ⟨e', records, third⟩ := refreshExecutionStatus_total resolved (status ▸ working) t
  refine ⟨e', records, ?_, ?_, fun step member started => ?_⟩
  · unfold advance
    rw [if_neg (by simp [live.1]), if_neg live.2, if_neg inTime, dequeue]
    simp only [bind, Except.bind, resumed, second, third, pure, Except.pure]
  · have moves : Moves .any .any t.now promoted e' :=
      refreshExecutionStatus_moves third
    rw [moves.id, rest]
    exact sameId
  · obtain ⟨middle, inside, changed⟩ := Rows.forall₂_mem_left each (sameSteps ▸ member)
    obtain ⟨ready, inside', promotion⟩ := Rows.forall₂_mem_left promotions inside
    obtain ⟨step', inside'', refreshed⟩ := Rows.forall₂_mem_left (refreshExecutionStatus_steps third) inside'
    have kept : middle.status ≠ .pending → step' = middle := by
      intro started
      have promoted := promotion.resolve_right fun change => started change.1
      rw [promoted] at refreshed
      exact refreshed.resolve_right fun change => started change.1
    refine ⟨step', inside'', ?_⟩
    rcases resumeWaitingStep_cases requests t.now step with ⟨resumes, other, ran, succeeded, unchanged⟩ | ⟨idle, ran⟩
    · cases ran.symm.trans changed
      rw [kept (by simp [succeeded])]
      exact ⟨unchanged.id, fun _ => succeeded, fun idle => absurd resumes idle⟩
    · cases ran.symm.trans changed
      rw [kept started]
      exact ⟨rfl, fun resumes => absurd resumes idle, fun _ => rfl⟩

theorem expireStep_total (now : Instant) (step : WorkflowStepExecution) : ∃ step', expireStep now step = .ok step' := by
  unfold expireStep
  split
  · rename_i unstarted
    rw [WorkflowStepExecution.perform_transitionTo, if_pos]
    · exact ⟨_, rfl⟩
    · rcases List.mem_pair.mp unstarted with status | status <;> simp [status, stepTransitions]
  · split
    · rename_i active
      refine ⟨_, WorkflowStepExecution.perform_markFailed_allowed ?_ _ _⟩
      simp only [List.mem_cons, List.not_mem_nil, or_false] at active
      rcases active with status | status | status <;> simp [status, stepTransitions]
    · exact ⟨step, rfl⟩

theorem unwindOrCancel_total (expired : e.status = .timedOut) (previous : WorkflowStatus) (actor : Actor)
    (now recordedAt : Instant) : ∃ e' records, unwindOrCancel e previous actor now recordedAt = .ok (e', records) := by
  unfold unwindOrCancel
  split
  · rw [perform_transitionTo, if_pos (by simp [expired, workflowTransitions])]
    exact ⟨_, _, rfl⟩
  · rw [perform_transitionTo, if_pos (by simp [expired, workflowTransitions])]
    exact ⟨_, _, rfl⟩

end WorkflowOrchestrator

end IntegrationOrchestrator
