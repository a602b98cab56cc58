import IntegrationOrchestrator.Saga.Notification
import IntegrationOrchestrator.Saga.RequestCount

namespace IntegrationOrchestrator

open WorkflowExecution WorkflowOrchestrator

variable {settings : Settings} {licence : Licence} {now : Instant} {frame : Frame} {s s' : State}
  {pushed : List Frame} {ev ev' : Evidence} {e e' : WorkflowExecution} {step step' : WorkflowStepExecution}
  {c : Config} {executionId stepId : UUID}

/-- The frame is no notification about the forward request of a step that is
being compensated. -/
def Frame.notLateForward (s : State) : Frame → Bool
  | .settleTerminal executionId request => (s.db.executions.get executionId).all fun e => e.steps.all fun step =>
      step.status ≠ .compensating || step.integrationRequestId ≠ some request.id
  | _ => true

/-- No notification about a step's forward request is processed while that
step is being compensated. -/
abbrev NoLateForwardNotification : Restriction := .frames fun c _ frame => frame.notLateForward c.state

theorem noLateForwardNotification_within : NoLateForwardNotification.Within ⟨False, True, True⟩ := by
  intro c task input frame rest ok atTask
  have passes := Restriction.frames_run ok atTask
  cases frame with
  | settleTerminal executionId request =>
    intro e stored step member compensating link
    simp only [Frame.notLateForward, stored, Option.all_some, List.all_eq_true] at passes
    simpa [compensating, link] using passes step member
  | settleForward => exact fun _ _ _ _ _ _ => trivial
  | _ => trivial

/-- A compensated step had nothing to undo, or is linked to a compensation
request of its own that succeeded. -/
def WorkflowStepExecution.Evidenced (ev : Evidence) (step : WorkflowStepExecution) : Prop :=
  step.status = .compensated → step.compensateOperation = none ∨
    ∃ requestId, step.compensationRequestId = some requestId ∧ ev.created .compensation step.id requestId ∧
      ev.succeeded requestId

theorem WorkflowStepExecution.Evidenced.learn (evidenced : step.Evidenced ev)
    (created : ∀ role step q, ev.created role step q → ev'.created role step q)
    (succeeded : ∀ q, ev.succeeded q → ev'.succeeded q) : step.Evidenced ev' := by
  intro compensated
  rcases evidenced compensated with none | ⟨requestId, link, origin, settled⟩
  · exact Or.inl none
  · exact Or.inr ⟨requestId, link, created _ _ _ origin, succeeded _ settled⟩

/-- Relinking a compensated step finds the one compensation request it has. -/
theorem WorkflowExecution.StepChange.evidenced (change : StepChange ev licence now e step step')
    (guarded : ¬ licence.lateSuccess)
    (unique : ∀ stepId q q', ev.created .compensation stepId q → ev.created .compensation stepId q' → q = q')
    (before : step.Evidenced ev) : step'.Evidenced ev := by
  intro compensated
  cases change with
  | keep => exact before compensated
  | link phase origin =>
    rcases before compensated with none | ⟨requestId, _, earlier, settled⟩
    · exact Or.inl none
    · cases unique _ _ _ origin earlier
      exact Or.inr ⟨_, rfl, earlier, settled⟩
  | release _ none => exact Or.inl none
  | compensate _ origin settled => exact Or.inr ⟨_, rfl, origin, settled⟩
  | lateSuccess late => exact absurd late guarded
  | _ => simp [WorkflowStepExecution.started_status] at compensated

theorem createdCount_unique {role : Role} {q q' : UUID} (single : s.createdCount role executionId stepId ≤ 1)
    (first : Event.created role executionId stepId q ∈ s.history)
    (second : Event.created role executionId stepId q' ∈ s.history) : q = q' := by
  by_contra differ
  have two : [Event.created role executionId stepId q, .created role executionId stepId q'].Subperm s.history := by
    refine List.Nodup.subperm ?_ ?_
    · simpa using differ
    · intro event member
      simp only [List.mem_cons, List.not_mem_nil, or_false] at member
      rcases member with rfl | rfl
      · exact first
      · exact second
  have counted := two.countP_le (Event.isCreation role executionId stepId)
  simp only [List.countP_cons, List.countP_nil, Event.isCreation] at counted
  unfold State.createdCount at single
  simp at counted
  omega

theorem compensation_unique {allowed : Restriction} (reach : ReachableUnder settings allowed c)
    (executionId stepId q q' : UUID) (first : (c.state.evidence executionId).created .compensation stepId q)
    (second : (c.state.evidence executionId).created .compensation stepId q') : q = q' := by
  have free : Reachable settings c := reach.mono fun _ _ _ => trivial
  have bound := compensation_created_le free executionId stepId
  exact createdCount_unique (by omega) first second

theorem WorkflowExecution.Moves.evidenced (moves : Moves ev licence now e e') (guarded : ¬ licence.lateSuccess)
    (unique : ∀ stepId q q', ev.created .compensation stepId q → ev.created .compensation stepId q' → q = q')
    (before : ∀ step ∈ e.steps, step.Evidenced ev) : ∀ step ∈ e'.steps, step.Evidenced ev := by
  intro step' member
  have each := moves.steps (R := fun old new => old.Evidenced ev → new.Evidenced ev) (fun _ same => same)
    (fun _ _ _ first second known => second (first known)) fun _ _ _ change => change.evidenced guarded unique
  obtain ⟨step, inside, kept⟩ := Rows.forall₂_mem_right each member
  exact kept (before step inside)

/-- In every run without late forward notifications a compensated step is
backed by its own succeeded compensation request. -/
theorem compensated_evidenced (reach : ReachableUnder settings NoLateForwardNotification c) :
    ∀ executionId e, c.state.db.executions.get executionId = some e →
      ∀ step ∈ e.steps, step.Evidenced (c.state.evidence executionId) := by
  refine stays (fun s => ∀ executionId e, s.db.executions.get executionId = some e →
    ∀ step ∈ e.steps, step.Evidenced (s.evidence executionId)) noLateForwardNotification_within
    ?_ .start (by simp [Config.initial]) reach
  intro c c' _ _ _ _ _ _ reach' _ _ held effect executionId e' stored
  have unique := compensation_unique reach' executionId
  rcases effect.origin stored with ⟨e, before, moves⟩ | ⟨_, _, _, _, origin, fresh, moves⟩
  · refine moves.evidenced (fun late => late) unique fun step member => ?_
    exact (held executionId e before step member).learn (fun _ _ _ => effect.recalls) fun _ => effect.succeeded
  · refine moves.evidenced (fun late => late) unique fun step member compensated => ?_
    exact absurd ((fresh.steps step member).1.symm.trans compensated) (by simp)

namespace Sample

/-- A webhook settles the first of two parallel steps; before its hook runs, a
worker resumes the step and the workflow is cancelled. -/
def lateHook : List Action :=
  .spawn (start [stage "first" [], stage "second" []] none) :: work 0 1 100 2 ++ work 0 2 200 3 ++
    answer 0 3 (answered .pending "op-1") :: work 0 4 300 4 ++
    .spawn (.processWebhook
      { provider := provider, normalizedStatus := .succeeded, providerReference := some "op-1" }) ::
    work 1 5 0 1 ++ .spawn (.advance 100) :: work 2 6 0 1 ++
    .spawn (.cancelWorkflow 100 { type := .apiClient } none) :: work 3 7 0 2 ++ work 1 8 0 2

end Sample

namespace Sample

/-- The first of two parallel steps has succeeded. -/
def firstSucceeded : List Action :=
  .spawn (start [stage "first" [], stage "second" []] none) :: work 0 1 100 2 ++ work 0 2 200 3 ++
    answer 0 3 (answered .succeeded "op-1") :: work 0 4 300 3

/-- The workflow is cancelled, and the first compensation gets this answer. -/
def cancelled (outcome : AdapterOutcome) : List Action :=
  .spawn (.cancelWorkflow 100 { type := .apiClient } none) :: work 1 5 0 2 ++ work 1 6 400 2 ++
    answer 1 7 outcome :: work 1 8 0 3

end Sample

end IntegrationOrchestrator
