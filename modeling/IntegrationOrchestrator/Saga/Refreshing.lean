import IntegrationOrchestrator.Saga.Refresh
import IntegrationOrchestrator.Saga.Runs
import IntegrationOrchestrator.Saga.Transactions

namespace IntegrationOrchestrator

open WorkflowExecution WorkflowOrchestrator

variable {settings : Settings} {input : Input} {s s' : State} {pushed : List Frame} {ev : Evidence}
  {e e' : WorkflowExecution} {step step' : WorkflowStepExecution} {executionId stepId : UUID}
  {records : List WorkflowRecord} {t : Readings} {c : Config}

/-- Every stored execution has the status that its steps call for. -/
def State.Refreshed (s : State) : Prop :=
  ∀ executionId e, s.db.executions.get executionId = some e → WorkflowOrchestrator.Refreshed e

theorem State.Refreshed.put (held : s.Refreshed) (fixed : WorkflowOrchestrator.Refreshed e')
    (executions : s'.db.executions = s.db.executions.put e') : s'.Refreshed := by
  intro executionId e stored
  rw [executions, Table.get_put] at stored
  split at stored
  · cases stored
    exact fixed
  · exact held executionId e stored

/-- Replacing a step by one with the same status, or starting a ready one,
leaves nothing to refresh. -/
theorem WorkflowOrchestrator.Refreshed.replaced (fixed : WorkflowOrchestrator.Refreshed e)
    (swap : StepReplaced e e' step step')
    (quiet : step'.status = step.status ∨ (step.status = .ready ∧ step'.status = .running)) :
    WorkflowOrchestrator.Refreshed e' := by
  have status : e'.status = e.status := by rw [swap.rest]
  have each : List.Forall₂ (fun old new => new.status = old.status ∨
      (old.status = .ready ∧ new.status = .running)) e.steps e'.steps :=
    swap.steps.imp fun old new change => by
      rcases change with same | ⟨rfl, rfl⟩
      · exact Or.inl (by rw [same])
      · exact quiet
  refine ⟨fun new member failed => ?_, fun running => ⟨fun new member waiting => ?_, ?_⟩, fun waiting => ?_⟩
  · obtain ⟨old, inside, same | ⟨_, started⟩⟩ := Rows.forall₂_mem_right each member
    · rw [status]
      exact fixed.failed old inside (same.symm.trans failed)
    · simp [started] at failed
  · obtain ⟨old, inside, same | ⟨_, started⟩⟩ := Rows.forall₂_mem_right each member
    · exact (fixed.running (status ▸ running)).1 old inside (same.symm.trans waiting)
    · simp [started] at waiting
  · obtain ⟨old, inside, unfinished⟩ := (fixed.running (status ▸ running)).2
    obtain ⟨new, member, same | ⟨_, started⟩⟩ := Rows.forall₂_mem_left each inside
    · exact ⟨new, member, by rw [same]; exact unfinished⟩
    · exact ⟨new, member, by simp [started]⟩
  · obtain ⟨old, inside, waits⟩ := fixed.waiting (status ▸ waiting)
    obtain ⟨new, member, same | ⟨ready, _⟩⟩ := Rows.forall₂_mem_left each inside
    · exact ⟨new, member, same.trans waits⟩
    · simp [waits] at ready

namespace WorkflowOrchestrator

theorem unwindOrCancel_refreshed {previous : WorkflowStatus} {actor : Actor} {at' recordedAt : Instant}
    (run : unwindOrCancel e previous actor at' recordedAt = .ok (e', records)) : Refreshed e' := by
  rcases unwindOrCancel_ok run with ⟨_, rfl⟩ | ⟨_, _, rfl⟩ <;> exact .of_status (by simp)

theorem cancel_refreshed {actor : Actor} {reason : Option String}
    (run : cancel e actor reason t = .ok (some (e', records))) : Refreshed e' := by
  rcases cancel_ok run with ⟨unwinding, rfl, _⟩ | ⟨_, _, _, ending⟩
  · refine .of_status ?_
    show e.status ∉ _
    simp [unwinding]
  · exact unwindOrCancel_refreshed ending

theorem enforceDeadline_refreshed (run : enforceDeadline e t = .ok (some (e', records))) : Refreshed e' := by
  obtain ⟨steps, _, run⟩ := Rows.bind_eq_ok.mp (enforceDeadline_ok run).2
  obtain ⟨⟨timedOut, first⟩, _, run⟩ := Rows.bind_eq_ok.mp run
  obtain ⟨⟨ended, second⟩, ending, done⟩ := Rows.bind_eq_ok.mp run
  cases done
  rcases unwindOrCancel_ok ending with ⟨_, rfl⟩ | ⟨_, _, rfl⟩ <;> exact .of_status (by simp)

theorem applyTerminal_refreshed {request : IntegrationRequest}
    (run : applyTerminal e request t = .ok (some (e', records))) : Refreshed e' := by
  obtain ⟨_, _, _, _, _, _, _, _, refreshed, _⟩ := applyTerminal_ok run
  exact refreshExecutionStatus_refreshed refreshed

theorem settleForward_refreshed {requestId : UUID} {dispatched : IntegrationRequest}
    (run : settleForward e stepId requestId dispatched t = .ok (e', records)) : Refreshed e' := by
  obtain ⟨steps, _, run⟩ := Rows.bind_eq_ok.mp run
  exact refreshExecutionStatus_refreshed run

theorem advance_refreshed {requests : UUID → Option IntegrationRequest}
    (run : advance e requests t = .ok (.commit e' records)) : Refreshed e' := by
  obtain ⟨_, _, _, _, _, _, _, refreshed⟩ := advance_commit run
  exact refreshExecutionStatus_refreshed refreshed

theorem finishUnwind_refreshed (unwinding : e.status = .compensating)
    (run : finishUnwind e t = .ok (e', records)) : Refreshed e' := by
  unfold finishUnwind at run
  split at run
  · split at run <;> obtain ⟨_, rfl⟩ := movedTo_ok run <;> exact .of_status (by simp)
  · cases run
    exact .of_status (by simp [unwinding])

/-- The settle transaction of a compensation leaves nothing to refresh: the
execution is under review or goes on unwinding. -/
theorem settleCompensation_refreshed {requestId : UUID} {dispatched : IntegrationRequest} {now : Instant}
    (fixed : Refreshed e) (sound : Sound ev e)
    (run : settleCompensation e stepId requestId dispatched now = .ok e') : Refreshed e' := by
  unfold settleCompensation at run
  split at run
  · obtain ⟨steps, modified, done⟩ := Rows.bind_eq_ok.mp run
    obtain ⟨step, found⟩ := Rows.modifyFirst_found modified
    obtain ⟨step', _, performed⟩ := Rows.modifyFirst_mem found modified
    have compensating := compensated_from (WorkflowStepExecution.perform_markCompensated_ok performed).1
    have unwinding := sound.unwinding_compensating (List.mem_of_find?_eq_some found) compensating
    cases done
    refine .of_status ?_
    simp only [List.mem_cons, List.not_mem_nil, or_false] at unwinding ⊢
    grind
  · cases run
    exact fixed
  · obtain ⟨step, here, run⟩ := Rows.bind_eq_ok.mp run
    obtain ⟨failed, changed, performed⟩ := Rows.bind_eq_ok.mp run
    obtain ⟨_, rfl⟩ := perform_transitionTo_ok performed
    exact .of_status (by simp)

theorem compensateStep_refreshed {requestId minted : UUID} {now : Instant} (sound : Sound ev e)
    (run : compensateStep e stepId requestId minted now = .ok (.done e')) : Refreshed e' := by
  obtain ⟨step, here, run⟩ := Rows.bind_eq_ok.mp run
  have found := stepById_ok here
  split at run
  · obtain ⟨done, changed, same⟩ := Rows.bind_eq_ok.mp run
    cases same
    obtain ⟨step', performed⟩ := onStep_performed found changed
    have compensating := compensated_from (WorkflowStepExecution.perform_markCompensated_ok performed).1
    have unwinding := sound.unwinding_compensating (List.mem_of_find?_eq_some found) compensating
    have status : e'.status = e.status := by rw [(onStep_replaced found performed changed).rest]
    refine .of_status ?_
    simp only [status, List.mem_cons, List.not_mem_nil, or_false] at unwinding ⊢
    grind
  · obtain ⟨request, _, run⟩ := Rows.bind_eq_ok.mp run
    obtain ⟨linked, _, done⟩ := Rows.bind_eq_ok.mp run
    cases done

theorem startExecution_refreshed {command : StartCommand} {newId : Nat → UUID} {now : Instant}
    (run : startExecution command newId now = .ok e) : Refreshed e := by
  obtain ⟨origin, fresh, promoted⟩ := startExecution_ok run
  obtain ⟨same, each⟩ := promoteReadySteps_each promoted
  have queued : e.status = .queued := by rw [same]; exact fresh.queued
  refine ⟨fun step member failed => ?_, by simp [queued], by simp [queued]⟩
  obtain ⟨old, inside, kept | ⟨_, moved⟩⟩ := Rows.forall₂_mem_right each member
  · have pending := (fresh.steps old inside).1
    simp [← kept, failed] at pending
  · simp [moved] at failed

end WorkflowOrchestrator

/-- Every transaction leaves its execution refreshed. -/
theorem Transaction.refreshed {requests : UUID → Option IntegrationRequest} (fixed : WorkflowOrchestrator.Refreshed e)
    (sound : Sound ev e) (transaction : Transaction requests input e e') : WorkflowOrchestrator.Refreshed e' := by
  cases transaction with
  | claim => exact ⟨fixed.failed, fixed.running, fixed.waiting⟩
  | advance run => exact advance_refreshed run
  | refresh run => exact refreshExecutionStatus_refreshed run
  | start run =>
    obtain ⟨step, _, ready, _, _, _, _, _, swap⟩ := runForwardStep_start run
    exact fixed.replaced swap (Or.inr ⟨ready, rfl⟩)
  | settleForward run => exact settleForward_refreshed run
  | expire run => exact enforceDeadline_refreshed run
  | cancel run => exact cancel_refreshed run
  | terminal run => exact applyTerminal_refreshed run
  | begin run =>
    obtain ⟨unwinding, _, _, _, _, _, swap⟩ := continueCompensation_begin sound.ids run
    have status : e'.status = .compensating := by rw [swap.rest]; exact unwinding
    exact .of_status (by simp [status])
  | finish run =>
    obtain ⟨unwinding, finished⟩ := continueCompensation_finish run
    exact finishUnwind_refreshed unwinding finished
  | release run => exact compensateStep_refreshed sound run
  | compensate run =>
    obtain ⟨step, _, _, _, _, _, swap⟩ := compensateStep_start run
    exact fixed.replaced swap (Or.inl rfl)
  | settleCompensation run => exact settleCompensation_refreshed fixed sound run

/-- Every committed frame leaves each stored execution refreshed. -/
theorem ExecutionStep.refreshed {frame : Frame} (good : s.Good) (held : s.Refreshed)
    (step : ExecutionStep input frame s s') : s'.Refreshed := by
  cases step with
  | same executions =>
    intro executionId e stored
    rw [executions] at stored
    exact held executionId e stored
  | inserts _ started _ executions =>
    exact held.put (startExecution_refreshed started) executions
  | commits stored transaction executions =>
    have fixed := transaction.refreshed (held _ _ stored) (good.sound _ _ stored)
    exact held.put fixed executions

/-- In every run the status of each stored execution agrees with its steps. -/
theorem reachable_refreshed {allowed : Restriction} (reach : ReachableUnder settings allowed c) :
    c.state.Refreshed := by
  refine reach.state_invariant State.Refreshed ?_ ?_
  · intro executionId e stored
    cases stored
  · intro c task input frame rest state pushed reached held _ _ ran
    exact (Frame.executionStep ran).refreshed (reachable_good allowed.within_any reached).1 held

end IntegrationOrchestrator
