import IntegrationOrchestrator.Saga.Causality
import IntegrationOrchestrator.Saga.CreationCount

namespace IntegrationOrchestrator

open WorkflowExecution

variable {settings : Settings} {licence : Licence} {now : Instant} {frame : Frame} {s s' : State}
  {pushed : List Frame} {ev : Evidence} {e e' : WorkflowExecution} {c c' : Config} {executionId stepId : UUID}

/-- A forward request is created out of the readiness of its step, which is
never regained. -/
theorem forward_created_le (reach : Reachable settings c) (executionId stepId : UUID) :
    c.state.createdCount .forward executionId stepId +
      (c.state.stepIn executionId stepId beforeForward).toNat ≤ 1 := by
  have within := Restriction.within_any fun _ _ => True
  refine stays (fun s => s.createdCount .forward executionId stepId +
    (s.stepIn executionId stepId beforeForward).toNat ≤ 1) within ?_ .start (Nat.zero_le 1) reach
  intro c c' _ _ _ _ _ reach _ _ _ held effect
  have good := (reachable_good within reach).1
  have left := effect.stepIn executionId stepId StepChange.beforeForward_mem
  rcases effect.createdCount good .forward executionId stepId with same | ⟨more, creation⟩
  · rw [same]
    by_cases after : c'.state.stepIn executionId stepId beforeForward = true
    · rcases left after with before | absent
      · rw [before] at held
        rw [after]
        exact held
      · have none := good.createdCount_absent absent .forward stepId
        have one := Bool.toNat_le (c'.state.stepIn executionId stepId beforeForward)
        omega
    · rw [Bool.not_eq_true] at after
      rw [after, Bool.toNat_false]
      omega
  · rcases creation with ⟨_, _, before, after⟩ | ⟨role, _⟩
    · rw [before, Bool.toNat_true] at held
      rw [more, after, Bool.toNat_false]
      omega
    · cases role

/-- A pending `_compensate_step` of this step. -/
def Frame.startsCompensation (executionId stepId : UUID) : Frame → Nat
  | .compensateStep e step => if e = executionId ∧ step = stepId then 1 else 0
  | _ => 0

theorem Frame.startsCompensation_pos (pending : frame.startsCompensation executionId stepId ≠ 0) :
    frame = .compensateStep executionId stepId := by
  cases frame <;> simp_all [Frame.startsCompensation]

theorem Unstarting.startsCompensation (unstarting : Unstarting pushed) :
    (pushed.map (Frame.startsCompensation executionId stepId)).sum = 0 := by
  refine List.sum_eq_zero fun value member => ?_
  obtain ⟨frame, inside, rfl⟩ := List.mem_map.mp member
  by_contra pending
  rw [Frame.startsCompensation_pos pending] at inside
  exact unstarting _ _ inside

/-- What an effect pushes is paid for by the step whose compensation begins. -/
theorem Effect.compensation_begins (effect : Effect licence now frame s s' pushed) (good : s.Good)
    (executionId stepId : UUID) :
    (pushed.map (Frame.startsCompensation executionId stepId)).sum = 0 ∨
    ((pushed.map (Frame.startsCompensation executionId stepId)).sum = 1 ∧ s'.history = s.history ∧
      s.stepIn executionId stepId beforeCompensation = true ∧
      s'.stepIn executionId stepId beforeCompensation = false) := by
  have good' := effect.good good
  cases effect with
  | @begins e e' step _ _ replaced _ history unwinding member succeeded _ swap =>
    by_cases this : e.id = executionId ∧ step.id = stepId
    · obtain ⟨rfl, rfl⟩ := this
      refine Or.inr ⟨by simp [Frame.startsCompensation], history, ?_, ?_⟩
      · exact State.stepIn_iff.mpr
          ⟨e, replaced.stored, step, member, rfl, by simp [beforeCompensation, succeeded]⟩
      · exact replaced.stepIn good' swap rfl (by simp [beforeCompensation])
    · exact Or.inl (by simp [Frame.startsCompensation, this])
  | requests _ _ _ unstarting => exact Or.inl unstarting.startsCompensation
  | moves _ _ _ _ unstarting => exact Or.inl unstarting.startsCompensation
  | creates _ _ _ _ _ _ unstarting => exact Or.inl unstarting.startsCompensation
  | compensates _ _ _ _ _ _ unstarting => exact Or.inl unstarting.startsCompensation
  | starts _ _ _ _ _ _ _ _ unstarting => exact Or.inl unstarting.startsCompensation

/-- A compensation request is created by a pending `_compensate_step`, which
comes out of the step's success, which is never regained. -/
theorem compensation_created_le (reach : Reachable settings c) (executionId stepId : UUID) :
    c.state.createdCount .compensation executionId stepId +
      (c.state.stepIn executionId stepId beforeCompensation).toNat +
      c.load (Frame.startsCompensation executionId stepId) ≤ 1 := by
  have within := Restriction.within_any fun _ _ => True
  refine reach.load_invariant (Frame.startsCompensation executionId stepId)
    (fun s => s.createdCount .compensation executionId stepId +
      (s.stepIn executionId stepId beforeCompensation).toNat) 1 (Nat.zero_le 1) ?_ ?_
  · intro frame entry
    cases frame <;> first | rfl | cases entry
  · intro c task input frame rest s' pushed reach ok atTask ran held
    obtain ⟨good, asserts⟩ := reachable_good within reach
    have top := TaskPool.mem_frames_top atTask
    have effect := (Frame.effect good (asserts frame top) (within c task input frame rest ok atTask) ran).1
    have absentLoad : c.state.db.executions.get executionId = none →
        c.load (Frame.startsCompensation executionId stepId) = 0 := by
      intro absent
      refine TaskPool.load_eq_zero fun other member => ?_
      by_contra pending
      have asserted := asserts other member
      rw [Frame.startsCompensation_pos pending] at asserted
      obtain ⟨e, stored, _⟩ := asserted
      exact absurd (stored.symm.trans absent) (by simp)
    have room : (s'.stepIn executionId stepId beforeCompensation).toNat ≤
          (c.state.stepIn executionId stepId beforeCompensation).toNat ∨
        c.state.db.executions.get executionId = none := by
      by_cases after : s'.stepIn executionId stepId beforeCompensation = true
      · rcases effect.stepIn executionId stepId StepChange.beforeCompensation_mem after with before | absent
        · exact Or.inl (by rw [after, before])
        · exact Or.inr absent
      · exact Or.inl (by simp [after])
    rcases effect.createdCount good .compensation executionId stepId with same | ⟨more, creation⟩
    · rcases effect.compensation_begins good executionId stepId with none | ⟨one, _, before, after⟩
      · rcases room with fewer | absent
        · omega
        · have count := good.createdCount_absent absent .compensation stepId
          have load := absentLoad absent
          have bit := Bool.toNat_le (s'.stepIn executionId stepId beforeCompensation)
          omega
      · rw [before, Bool.toNat_true] at held
        rw [after, Bool.toNat_false]
        omega
    · obtain ⟨role, _⟩ | ⟨_, rfl⟩ := creation
      · cases role
      · have weight : Frame.startsCompensation executionId stepId (.compensateStep executionId stepId) = 1 := by
          simp [Frame.startsCompensation]
        have none : (pushed.map (Frame.startsCompensation executionId stepId)).sum = 0 := by
          rcases effect.compensation_begins good executionId stepId with none | ⟨_, history, _⟩
          · exact none
          · rw [State.createdCount, State.createdCount, history] at more
            omega
        obtain ⟨e, stored, _⟩ := asserts _ top
        rcases room with fewer | absent
        · omega
        · exact absurd (stored.symm.trans absent) (by simp)

/-- An execution that stopped working forward never does so again. -/
theorem WorkflowExecution.Moves.stopped (moves : Moves ev licence now e e') (before : e.status ∉ forwardPhase) :
    e'.status ∉ forwardPhase := by
  refine Moves.invariant (fun e => e.status ∉ forwardPhase) ?_ moves before
  intro e e' before move
  cases move with
  | status change => exact fun after => before (change.from_forward after)
  | review => simp [forwardPhase]
  | _ => exact before

theorem Effect.stopped (effect : Effect licence now frame s s' pushed) (good : s.Good)
    (stored : s.db.executions.get executionId = some e) (before : e.status ∉ forwardPhase) (stepId : UUID) :
    (∃ e', s'.db.executions.get executionId = some e' ∧ e'.status ∉ forwardPhase) ∧
      s'.createdCount .forward executionId stepId = s.createdCount .forward executionId stepId := by
  obtain ⟨e', after, moves⟩ := effect.stored stored
  refine ⟨⟨e', after, moves.stopped before⟩, ?_⟩
  rcases effect.createdCount good .forward executionId stepId with same | ⟨_, ⟨_, working, _⟩ | ⟨role, _⟩⟩
  · exact same
  · obtain ⟨other, here, forward⟩ := working
    cases stored.symm.trans here
    exact absurd forward before
  · cases role

/-- One request per step and no resurrection, over every run: at most one
request of each role is ever created for a step, and none to move forward once
the execution has left its forward phase. -/
theorem one_request_per_step (reach : Reachable settings c) (executionId stepId : UUID) :
    c.state.createdCount .forward executionId stepId ≤ 1 ∧
    c.state.createdCount .compensation executionId stepId ≤ 1 ∧
    ∀ e c', c.state.db.executions.get executionId = some e → e.status ∉ forwardPhase →
      (orchestrator settings).Reach (fun _ _ => True) c c' →
      c'.state.createdCount .forward executionId stepId = c.state.createdCount .forward executionId stepId := by
  have forward := forward_created_le reach executionId stepId
  have compensation := compensation_created_le reach executionId stepId
  have within := Restriction.within_any fun _ _ => True
  refine ⟨by omega, by omega, fun e c' stored left onward => ?_⟩
  refine (stays (fun s => (∃ e, s.db.executions.get executionId = some e ∧ e.status ∉ forwardPhase) ∧
    s.createdCount .forward executionId stepId = c.state.createdCount .forward executionId stepId)
    within ?_ reach ⟨⟨e, stored, left⟩, rfl⟩ onward).2
  rintro c c' _ _ _ _ _ reach _ _ _ ⟨⟨e, stored, left⟩, same⟩ effect
  obtain ⟨after, kept⟩ := effect.stopped (reachable_good within reach).1 stored left stepId
  exact ⟨after, kept.trans same⟩

theorem one_request_per_step_chain :
    ∃ c, Reachable Sample.settings c ∧ c.state.createdCount .forward 100 101 = 1 ∧
      c.state.createdCount .forward 100 101 ≤ 1 ∧ c.state.createdCount .compensation 100 101 ≤ 1 := by
  obtain ⟨c, reach, created⟩ := reachable_replay Sample.settings Sample.chain
    (fun c => c.state.createdCount .forward 100 101 = 1) (by decide)
  obtain ⟨forward, compensation, _⟩ := one_request_per_step reach 100 101
  exact ⟨c, reach, created, forward, compensation⟩

end IntegrationOrchestrator
