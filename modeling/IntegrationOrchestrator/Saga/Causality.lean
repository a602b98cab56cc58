import IntegrationOrchestrator.Saga.Runs

namespace IntegrationOrchestrator

open WorkflowExecution

variable {settings : Settings} {licence : Licence} {now : Instant} {frame : Frame} {s s' : State} {pushed : List Frame}
  {ev : Evidence} {e e' : WorkflowExecution} {step step' : WorkflowStepExecution} {c c₀ : Config}

/-- The forward request of a step is never replaced once the step has ended. -/
theorem WorkflowExecution.StepChange.forward_link (change : StepChange ev licence now e step step')
    (past : step.status ∈ pastSuccess) : step'.integrationRequestId = step.integrationRequestId := by
  cases change <;> simp [pastSuccess, WorkflowStepExecution.moved] at * <;> grind

theorem WorkflowExecution.Sound.dependency_succeeded (sound : Sound ev e) (member : step ∈ e.steps)
    (ready : step.status = .ready) (forward : e.status ∈ forwardPhase) {key : String} (dependency : key ∈ step.dependsOn) :
    (∃ dep ∈ e.steps, dep.stepKey = key) ∧ ∀ dep ∈ e.steps, dep.stepKey = key → dep.status = .succeeded ∧
      ∃ requestId, dep.integrationRequestId = some requestId ∧ ev.succeeded requestId := by
  obtain ⟨dep, found, succeeded⟩ := sound.ready forward step member ready key dependency
  obtain ⟨inside, sameKey, _⟩ := stepByKey_ok found
  refine ⟨⟨dep, inside, sameKey⟩, fun other here otherKey => ?_⟩
  cases List.inj_on_of_nodup_map sound.keys inside here (sameKey.trans otherKey.symm)
  exact ⟨succeeded, sound.evidence dep inside (by simp [succeeded])⟩

/-- The step `stepId` of the execution has a forward request that succeeded. -/
def State.ForwardSucceeded (s : State) (executionId stepId : UUID) : Prop :=
  ∃ e, s.db.executions.get executionId = some e ∧ ∃ step ∈ e.steps, step.id = stepId ∧
    step.status ∈ pastSuccess ∧ ∃ requestId, step.integrationRequestId = some requestId ∧ s.Succeeded requestId

theorem Effect.forwardSucceeded (effect : Effect licence now frame s s' pushed) {executionId stepId : UUID}
    (before : s.ForwardSucceeded executionId stepId) : s'.ForwardSucceeded executionId stepId := by
  obtain ⟨e, stored, step, member, id, past, requestId, link, succeeded⟩ := before
  obtain ⟨e', after, moves⟩ := effect.stored stored
  obtain ⟨step', inside, sameId, kept⟩ := Rows.forall₂_mem_left (moves.steps
    (R := fun old new => new.id = old.id ∧ (old.status ∈ pastSuccess → new.status ∈ pastSuccess ∧
      new.integrationRequestId = old.integrationRequestId))
    (fun _ => ⟨rfl, fun past => ⟨past, rfl⟩⟩)
    (fun _ _ _ first second => ⟨second.1.trans first.1, fun past =>
      ⟨(second.2 (first.2 past).1).1, ((second.2 (first.2 past).1).2).trans (first.2 past).2⟩⟩)
    fun _ _ _ change => ⟨change.same.id, fun past => ⟨change.pastSuccess_mem past, change.forward_link past⟩⟩) member
  exact ⟨e', after, step', inside, sameId.trans id, (kept past).1, requestId, (kept past).2.trans link,
    effect.succeeded succeeded⟩

/-- Forward causality over every run. A forward request is created only when
every dependency of its step has succeeded by a succeeded request; a step that
has succeeded keeps its succeeded request whatever happens to it later; and an
execution succeeds only with all of its steps. -/
theorem forward_causality (reach : Reachable settings c) :
    (∀ a c', (orchestrator settings).next c a = some c' → ∀ executionId stepId requestId,
      Event.created .forward executionId stepId requestId ∈ c'.state.history →
      Event.created .forward executionId stepId requestId ∉ c.state.history →
      ∃ e step, c.state.db.executions.get executionId = some e ∧ step ∈ e.steps ∧ step.id = stepId ∧
        ∀ key ∈ step.dependsOn, (∃ dep ∈ e.steps, dep.stepKey = key) ∧
          ∀ dep ∈ e.steps, dep.stepKey = key → dep.status = .succeeded ∧
            ∃ forward, dep.integrationRequestId = some forward ∧ c.state.Succeeded forward) ∧
    (∀ c₀, Reachable settings c₀ → (orchestrator settings).Reach (fun _ _ => True) c₀ c →
      ∀ executionId e step, c₀.state.db.executions.get executionId = some e → step ∈ e.steps →
        step.status = .succeeded → c.state.ForwardSucceeded executionId step.id) ∧
    (∀ executionId e, c.state.db.executions.get executionId = some e → e.status = .succeeded →
      ∀ step ∈ e.steps, step.status = .succeeded) := by
  have within := Restriction.within_any fun _ _ => True
  have good := (reachable_good within reach).1
  refine ⟨?_, ?_, fun executionId e stored => (good.sound executionId e stored).complete⟩
  · intro a c' next executionId stepId requestId after before
    rcases next_effect within reach trivial next with same | ⟨_, _, _, _, _, _, _, effect⟩
    · exact absurd (same ▸ after) before
    · rcases effect.created_origin after with old | ⟨e, step, stored, member, id, _, _, ready, running⟩
      · exact absurd old before
      · refine ⟨e, step, stored, member, id, fun key dependency => ?_⟩
        refine (good.sound executionId e stored).dependency_succeeded member ready ?_ dependency
        rcases List.mem_pair.mp running with status | status <;> simp [forwardPhase, status]
  · intro c₀ reached onward executionId e step stored member succeeded
    refine stays (fun s => s.ForwardSucceeded executionId step.id) within
      (fun _ _ _ _ _ _ _ _ _ _ _ held effect => effect.forwardSucceeded held) reached ?_ onward
    have sound := (reachable_good within reached).1.sound executionId e stored
    exact ⟨e, stored, step, member, rfl, by simp [pastSuccess, succeeded],
      sound.evidence step member (by simp [succeeded])⟩

namespace Sample

/-- Two steps in sequence, up to the moment before the second one starts. -/
def chain : List Action :=
  .spawn (start [stage "first" [], stage "second" ["first"]] none) :: work 0 1 100 2 ++ work 0 2 200 3 ++
    answer 0 3 (answered .succeeded "op-1") :: work 0 4 300 4

end Sample

theorem forward_causality_chain :
    ∃ c c', Reachable Sample.settings c ∧
      (orchestrator Sample.settings).next c (.run 0 (Sample.input 5 400 .crashed)) = some c' ∧
      Event.created .forward 100 102 400 ∈ c'.state.history ∧
      ∃ e step, c.state.db.executions.get 100 = some e ∧ step ∈ e.steps ∧ step.id = 102 ∧
        ∀ key ∈ step.dependsOn, (∃ dep ∈ e.steps, dep.stepKey = key) ∧
          ∀ dep ∈ e.steps, dep.stepKey = key → dep.status = .succeeded ∧
            ∃ forward, dep.integrationRequestId = some forward ∧ c.state.Succeeded forward := by
  obtain ⟨c, reach, absent, c', next, made⟩ := reachable_replay Sample.settings Sample.chain
    (fun c => Event.created .forward 100 102 400 ∉ c.state.history ∧
      ∃ c', (orchestrator Sample.settings).next c (.run 0 (Sample.input 5 400 .crashed)) = some c' ∧
        Event.created .forward 100 102 400 ∈ c'.state.history) (by decide)
  exact ⟨c, c', reach, next, made, (forward_causality reach).1 _ _ next 100 102 400 made absent⟩

end IntegrationOrchestrator
