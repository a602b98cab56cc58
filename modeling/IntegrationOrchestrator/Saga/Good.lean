import IntegrationOrchestrator.Saga.Effects

namespace IntegrationOrchestrator

open WorkflowExecution

variable {licence : Licence} {now : Instant} {frame : Frame} {s s' : State} {pushed : List Frame} {ev ev' : Evidence}
  {e e' : WorkflowExecution}

/-- When a request of this role may be created for a step. -/
def Role.Admits (e : WorkflowExecution) (step : WorkflowStepExecution) : Role → Prop
  | .forward => step.status = .ready ∧ e.status ∈ [WorkflowStatus.running, .waiting]
  | .compensation => step.status ∈ compensationPhase ∧ step.compensateOperation ≠ none

/-- Where a recorded creation comes from. -/
theorem Effect.created_origin (effect : Effect licence now frame s s' pushed) {role : Role}
    {executionId stepId requestId : UUID} (after : Event.created role executionId stepId requestId ∈ s'.history) :
    Event.created role executionId stepId requestId ∈ s.history ∨
    ∃ e step, s.db.executions.get executionId = some e ∧ step ∈ e.steps ∧ step.id = stepId ∧
      s.db.requests.get requestId = none ∧
      s'.history = s.history ++ [.created role executionId stepId requestId] ∧ role.Admits e step := by
  have single : ∀ {made : Role} {step : WorkflowStepExecution} {q : IntegrationRequest}
      {e e' : WorkflowExecution}, s.Created s' made step.id q e e' → step ∈ e.steps → made.Admits e step →
      Event.created role executionId stepId requestId ∈ s.history ∨
      ∃ e step, s.db.executions.get executionId = some e ∧ step ∈ e.steps ∧ step.id = stepId ∧
        s.db.requests.get requestId = none ∧
        s'.history = s.history ++ [.created role executionId stepId requestId] ∧ role.Admits e step := by
    intro made step q e e' created member admits
    rw [created.history] at after
    rcases List.mem_append.mp after with old | new
    · exact Or.inl old
    · cases List.mem_singleton.mp new
      exact Or.inr ⟨e, step, created.stored, member, rfl, created.fresh, created.history, admits⟩
  cases effect with
  | requests _ _ extra _ =>
    obtain ⟨extra, history, none⟩ := extra
    rw [history] at after
    exact Or.inl ((List.mem_append.mp after).resolve_right (none _ _ _ _))
  | moves _ _ history => exact Or.inl (history ▸ after)
  | begins _ _ _ _ history => exact Or.inl (history ▸ after)
  | creates _ created member ready phase => exact single created member ⟨ready, phase⟩
  | compensates _ created member phase operation => exact single created member ⟨phase, operation⟩
  | starts _ _ _ history => exact Or.inl (history ▸ after)

/-- The invariant survives learning more, as long as compensation requests
are created for steps under compensation only. -/
theorem WorkflowExecution.Sound.learn (sound : Sound ev e)
    (created : ∀ role step q, ev.created role step q → ev'.created role step q)
    (succeeded : ∀ q, ev.succeeded q → ev'.succeeded q)
    (started : ∀ step ∈ e.steps, ∀ q, ev'.created .compensation step.id q →
      ev.created .compensation step.id q ∨ step.status ∈ compensationPhase) : Sound ev' e :=
  { sound with
    forwardLinks := fun step member q link => created _ _ _ (sound.forwardLinks step member q link)
    evidence := fun step member status =>
      (sound.evidence step member status).imp fun _ both => ⟨both.1, succeeded _ both.2⟩
    compensationLinks := fun step member q link status =>
      created _ _ _ (sound.compensationLinks step member q link status)
    compensationStarted := fun step member q made =>
      (started step member q made).elim (sound.compensationStarted step member q) fun phase => phase }

theorem WorkflowExecution.Fresh.sound (fresh : e.Fresh) (ids : (e.steps.map (·.id)).Nodup)
    (keys : (e.steps.map (·.stepKey)).Nodup) (none : ∀ step q, ¬ ev.created .compensation step q) :
    Sound ev e := by
  have pending := fun step member => (fresh.steps step member).1
  have status := fresh.queued
  exact {
    ids := ids
    keys := keys
    statuses := by simp [status]
    stepStatuses := fun step member => by simp [pending step member]
    forwardLinks := fun step member q link => by simp [(fresh.steps step member).2.1] at link
    unstarted := fun step member _ => (fresh.steps step member).2.1
    evidence := fun step member status => by simp [pending step member] at status
    compensationLinks := fun step member q link => by simp [(fresh.steps step member).2.2.1] at link
    compensationStarted := fun step _ q made => absurd made (none _ _)
    ready := fun _ step member ready => by simp [pending step member] at ready
    dependencies := fun step member status => by simp [pending step member] at status
    unwinding := fun step member status => by simp [pending step member] at status
    queued := fun _ step member => by simp [pending step member]
    complete := by simp [status]
    closed := by simp [status]
    unwound := by simp [status]
    reviewed := by simp [status]
    reasoned := fun given => absurd fresh.reason given }

/-- The invariant of the stored state: every execution is sound by what the
tables and the history say about its requests. -/
structure State.Good (s : State) : Prop where
  sound : ∀ executionId e, s.db.executions.get executionId = some e → Sound (s.evidence executionId) e
  known : ∀ role executionId stepId requestId, Event.created role executionId stepId requestId ∈ s.history →
    ∃ e, s.db.executions.get executionId = some e

theorem State.Good.initial : State.Good {} := ⟨by simp, by simp⟩

/-- What a transaction makes known leaves a stored execution sound. -/
theorem Effect.sound (effect : Effect licence now frame s s' pushed) (good : s.Good) {executionId : UUID}
    (before : s.db.executions.get executionId = some e) : Sound (s'.evidence executionId) e := by
  have sound := good.sound executionId e before
  refine sound.learn (fun _ _ _ => effect.recalls) (fun _ => effect.succeeded) ?_
  intro step member q made
  refine (effect.created_origin made).imp (fun old => old) ?_
  rintro ⟨stored, other, here, inside, sameId, _, _, phase, _⟩
  cases before.symm.trans here
  cases List.inj_on_of_nodup_map sound.ids inside member sameId
  exact phase

/-- Every execution stored after a transaction comes by the saga's moves from
a sound one: the one stored before, or a fresh one. -/
theorem Effect.before (effect : Effect licence now frame s s' pushed) (good : s.Good) {executionId : UUID}
    (after : s'.db.executions.get executionId = some e') :
    ∃ e, (s.db.executions.get executionId = some e ∨ e.Fresh) ∧ Sound (s'.evidence executionId) e ∧
      Moves (s'.evidence executionId) licence now e e' := by
  rcases effect.origin after with ⟨e, before, moves⟩ | ⟨absent, history, ids, keys, origin, fresh, moves⟩
  · exact ⟨e, Or.inl before, effect.sound good before, moves⟩
  · refine ⟨origin, Or.inr fresh, fresh.sound ?_ ?_ ?_, moves⟩
    · rwa [← Rows.forall₂_map_eq (fun _ _ change => change.id) moves.same]
    · rwa [← Rows.forall₂_map_eq (fun _ _ change => change.stepKey) moves.same]
    · intro step q (made : Event.created _ _ _ _ ∈ s'.history)
      obtain ⟨e, stored⟩ := good.known _ _ _ _ (history ▸ made)
      exact absurd (stored.symm.trans absent) (by simp)

/-- A committed frame keeps the invariant. -/
theorem Effect.good (effect : Effect licence now frame s s' pushed) (good : s.Good) : s'.Good where
  sound := by
    intro executionId e' after
    obtain ⟨e, _, sound, moves⟩ := effect.before good after
    exact Sound.moves sound moves
  known := by
    intro role executionId stepId requestId made
    have before : ∃ e, s.db.executions.get executionId = some e := by
      rcases effect.created_origin made with old | ⟨e, _, stored, _⟩
      · exact good.known _ _ _ _ old
      · exact ⟨e, stored⟩
    obtain ⟨e, stored⟩ := before
    obtain ⟨e', after, _⟩ := effect.stored stored
    exact ⟨e', after⟩

end IntegrationOrchestrator
