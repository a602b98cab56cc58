import IntegrationOrchestrator.Saga.Notification
import IntegrationOrchestrator.Saga.Refreshing

namespace IntegrationOrchestrator

open WorkflowExecution WorkflowOrchestrator

variable {settings : Settings} {licence : Licence} {now : Instant} {ev : Evidence} {t : Readings} {input : Input}
  {e e' : WorkflowExecution} {step step' : WorkflowStepExecution} {records : List WorkflowRecord}
  {request : IntegrationRequest} {executionId stepId requestId : UUID} {s s' : State} {c c' : Config}
  {frame : Frame} {pushed : List Frame}

/-- The statuses of an execution whose steps are still being dispatched. -/
def dispatchingStatuses : List WorkflowStatus := [.created, .queued, .running, .waiting, .retryScheduled]

theorem WorkflowExecution.Move.ended (move : Move ev licence now e e') (before : e.status ∉ dispatchingStatuses) :
    e'.status ∉ dispatchingStatuses := by
  cases move with
  | status change =>
    cases change <;>
      simp only [dispatchingStatuses, List.mem_cons, List.not_mem_nil, or_false, moved_status] at * <;> grind
  | review unwinding => simp [dispatchingStatuses]
  | _ => exact before

/-- The forward phase ends once: an execution that left it does not return. -/
theorem WorkflowExecution.Moves.ended (moves : Moves ev licence now e e') (before : e.status ∉ dispatchingStatuses) :
    e'.status ∉ dispatchingStatuses := by
  induction moves with
  | refl => exact before
  | tail _ move ih => exact move.ended ih

theorem ended_stays (reach : Reachable settings c)
    (before : ∃ e, c.state.db.executions.get executionId = some e ∧ e.status ∉ dispatchingStatuses)
    (onward : (orchestrator settings).Reach (fun _ _ => True) c c') :
    ∃ e, c'.state.db.executions.get executionId = some e ∧ e.status ∉ dispatchingStatuses := by
  refine stays (fun s => ∃ e, s.db.executions.get executionId = some e ∧ e.status ∉ dispatchingStatuses)
    (Restriction.within_any _) ?_ reach before onward
  rintro c c' _ _ _ _ _ _ _ _ _ ⟨e, stored, ended⟩ effect
  obtain ⟨e', after, moves⟩ := effect.stored stored
  exact ⟨e', after, moves.ended ended⟩

namespace WorkflowOrchestrator

/-- Only a failed step, or the success of all, makes a refresh leave the
forward phase. -/
theorem refreshExecutionStatus_forward (forward : e.status ∈ [WorkflowStatus.running, .waiting])
    (calm : ∀ step ∈ e.steps, step.status ≠ .failed) (unfinished : ∃ step ∈ e.steps, step.status ≠ .succeeded)
    (run : refreshExecutionStatus e t = .ok (e', records)) : e'.status ∈ [WorkflowStatus.running, .waiting] := by
  have noFailed : e.steps.any (·.status = .failed) = false := by simpa using calm
  have live : e.status ∉ [WorkflowStatus.cancelled, .compensated, .succeeded, .deadLettered] := by
    rcases List.mem_pair.mp forward with status | status <;> simp [status]
  unfold refreshExecutionStatus at run
  rw [if_neg live, noFailed, Bool.false_and, if_neg (by simp)] at run
  split at run
  · obtain ⟨_, rfl⟩ := movedTo_ok run
    simp
  · obtain ⟨resumed, first, second⟩ := Rows.bind_eq_ok.mp run
    have kept : resumed.status ∈ [WorkflowStatus.running, .waiting] ∧
        ∃ step ∈ resumed.steps, step.status ≠ .succeeded := by
      unfold resumeRunning at first
      split at first
      · obtain ⟨running, moved, promoted⟩ := Rows.bind_eq_ok.mp first
        obtain ⟨_, rfl⟩ := perform_transitionTo_ok moved
        obtain ⟨same, each⟩ := promoteReadySteps_each promoted
        obtain ⟨old, inside, open'⟩ := unfinished
        refine ⟨by rw [same]; simp, ?_⟩
        obtain ⟨new, member, kept | ⟨_, ready⟩⟩ := Rows.forall₂_mem_left each inside
        · exact ⟨new, member, kept ▸ open'⟩
        · exact ⟨new, member, by simp [ready]⟩
      · cases first
        exact ⟨forward, unfinished⟩
    obtain ⟨forward, step, member, open'⟩ := kept
    unfold completeIfSucceeded at second
    split at second
    · rename_i complete
      simp only [Bool.and_eq_true, allForwardSucceeded, List.all_eq_true, decide_eq_true_eq] at complete
      exact absurd (complete.1 step member) open'
    · cases second
      exact forward

/-- A refreshed execution of the forward phase has no failed step, and one
that has not succeeded. -/
theorem Refreshed.unfinished (fixed : Refreshed e) (forward : e.status ∈ [WorkflowStatus.running, .waiting]) :
    (∀ step ∈ e.steps, step.status ≠ .failed) ∧ ∃ step ∈ e.steps, step.status ≠ .succeeded := by
  rcases List.mem_pair.mp forward with status | status
  · refine ⟨fun step member failed => ?_, (fixed.running status).2⟩
    simpa [status] using fixed.failed step member failed
  · refine ⟨fun step member failed => ?_, ?_⟩
    · simpa [status] using fixed.failed step member failed
    · obtain ⟨step, member, waiting⟩ := fixed.waiting status
      exact ⟨step, member, by simp [waiting]⟩

/-- A cancelled request leaves the execution in its forward phase. -/
theorem applyTerminal_cancelled (fixed : Refreshed e) (forward : e.status ∈ [WorkflowStatus.running, .waiting])
    (cancelled : request.status = .cancelled) (run : applyTerminal e request t = .ok (some (e', records))) :
    e'.status ∈ [WorkflowStatus.running, .waiting] := by
  obtain ⟨calm, open', inside, unfinished⟩ := fixed.unfinished forward
  obtain ⟨step, steps, _, _, _, found, changed, second, third, _⟩ := applyTerminal_ok run
  have unconcerned : compensationRejected { e with steps := steps } step request t = .ok ({ e with steps := steps }, []) :=
    compensationRejected_unconcerned (by simp [cancelled])
  cases unconcerned.symm.trans second
  have each : List.Forall₂ (fun old new : WorkflowStepExecution => new = old ∨ new.status = .cancelled) e.steps steps :=
    Rows.modifyFirst_forall₂ (fun _ => Or.inl rfl) (fun old new _ change => by
      simp only [terminalStep, cancelled] at change
      split at change
      · exact Or.inr (by rw [(WorkflowStepExecution.perform_transitionTo_ok change).2]; rfl)
      · exact Or.inl (Except.ok.inj change).symm) changed
  refine refreshExecutionStatus_forward (e := { e with steps := steps }) forward (fun new member => ?_) ?_ third
  · obtain ⟨old, before, rfl | status⟩ := Rows.forall₂_mem_right each member
    · exact calm _ before
    · simp [status]
  · obtain ⟨new, member, rfl | status⟩ := Rows.forall₂_mem_left each inside
    · exact ⟨_, member, unfinished⟩
    · exact ⟨new, member, by simp [status]⟩

/-- A settle transaction of `_run_forward_step` cancels no step. -/
theorem forwardStep_uncancelled {dispatched : IntegrationRequest}
    (run : forwardStep requestId dispatched now step = .ok step') (cancelled : step'.status = .cancelled) :
    step' = step := by
  unfold forwardStep at run
  repeat' split at run
  all_goals first
    | cases run; rfl
    | rw [(WorkflowStepExecution.perform_markSucceeded_ok run).2] at cancelled; cases cancelled
    | rw [(WorkflowStepExecution.perform_markFailed_ok run).2] at cancelled; cases cancelled
    | rw [(WorkflowStepExecution.perform_transitionTo_ok run).2] at cancelled; cases cancelled

/-- Only a cancelled request makes `on_request_terminal` cancel a step. -/
theorem terminalStep_uncancelled (run : terminalStep request now step = .ok step')
    (cancelled : step'.status = .cancelled) (kept : request.status ≠ .cancelled) : step' = step := by
  unfold terminalStep at run
  repeat' split at run
  all_goals first
    | cases run; rfl
    | exact absurd ‹request.status = .cancelled› kept
    | rw [(WorkflowStepExecution.perform_markCompensated_ok run).2] at cancelled; cases cancelled
    | rw [(WorkflowStepExecution.perform_markSucceeded_ok run).2] at cancelled; cases cancelled
    | rw [(WorkflowStepExecution.perform_markFailed_ok run).2] at cancelled; cases cancelled

/-- A refresh cancels no step. -/
theorem refreshExecutionStatus_uncancelled (run : refreshExecutionStatus e t = .ok (e', records))
    (member : step ∈ e'.steps) (cancelled : step.status = .cancelled) : step ∈ e.steps := by
  obtain ⟨old, inside, same | ⟨_, ready⟩⟩ := Rows.forall₂_mem_right (refreshExecutionStatus_steps run) member
  · exact same ▸ inside
  · simp [ready] at cancelled

/-- A step that is cancelled after one row was changed was there before, or is
what the change made. -/
theorem modifyFirst_uncancelled {missing : Exn} {test : WorkflowStepExecution → Bool}
    {change : WorkflowStepExecution → Except Exn WorkflowStepExecution} {steps steps' : List WorkflowStepExecution}
    (only : ∀ step step', change step = .ok step' → step'.status = .cancelled → step' = step)
    (run : Rows.modifyFirst missing test change steps = .ok steps') (member : step ∈ steps')
    (cancelled : step.status = .cancelled) : step ∈ steps := by
  have each : List.Forall₂ (fun old new : WorkflowStepExecution => new.status = .cancelled → new = old) steps steps' :=
    Rows.modifyFirst_forall₂ (fun _ _ => rfl) (fun old new _ changed => only old new changed) run
  obtain ⟨old, inside, same⟩ := Rows.forall₂_mem_right each member
  exact same cancelled ▸ inside

theorem settleForward_uncancelled {dispatched : IntegrationRequest}
    (run : settleForward e stepId requestId dispatched t = .ok (e', records)) (member : step ∈ e'.steps)
    (cancelled : step.status = .cancelled) : step ∈ e.steps := by
  obtain ⟨steps, changed, refreshed⟩ := Rows.bind_eq_ok.mp run
  have inside := refreshExecutionStatus_uncancelled refreshed member cancelled
  exact modifyFirst_uncancelled (fun _ _ => forwardStep_uncancelled) changed inside cancelled

theorem applyTerminal_uncancelled (kept : request.status ≠ .cancelled)
    (run : applyTerminal e request t = .ok (some (e', records))) (member : step ∈ e'.steps)
    (cancelled : step.status = .cancelled) : step ∈ e.steps := by
  obtain ⟨_, steps, rejected, _, _, _, changed, second, third, _⟩ := applyTerminal_ok run
  have inside := refreshExecutionStatus_uncancelled third member cancelled
  have same : rejected.steps = steps := by
    rcases compensationRejected_cases second with ⟨rfl, _⟩ | ⟨_, _, _, rfl, ⟨_, rfl⟩ | ⟨_, rfl⟩⟩ <;> rfl
  exact modifyFirst_uncancelled (fun _ _ run status => terminalStep_uncancelled run status kept) changed
    (same ▸ inside) cancelled

/-- The settle transaction of a cancelled forward request finds nothing to do. -/
theorem settleForward_cancelled {dispatched : IntegrationRequest} (fixed : Refreshed e)
    (cancelled : dispatched.status = .cancelled)
    (run : settleForward e stepId requestId dispatched t = .ok (e', records)) : e' = e := by
  obtain ⟨steps, changed, refreshed⟩ := Rows.bind_eq_ok.mp run
  obtain ⟨step, found⟩ := Rows.modifyFirst_found changed
  have same : Rows.modifyFirst Exn.stopIteration (·.id = stepId) (forwardStep requestId dispatched t.now) e.steps =
      .ok e.steps := Rows.modifyFirst_same found (by simp [forwardStep, cancelled])
  cases same.symm.trans changed
  cases (fixed.refresh t).symm.trans refreshed
  rfl

end WorkflowOrchestrator

/-- The outcome that a settle transaction brings to an execution. -/
def Frame.observed : Frame → Option (UUID × IntegrationRequest)
  | .settleForward executionId _ _ dispatched => some (executionId, dispatched)
  | .settleTerminal executionId request => some (executionId, request)
  | _ => none

theorem State.savedExecution_row {after : WorkflowExecution}
    (stored' : (s.savedExecution after records).db.executions.get executionId = some e') :
    e' = after ∨ s.db.executions.get executionId = some e' := by
  have row : (s.db.executions.put after).get executionId = some e' := stored'
  rw [Table.get_put] at row
  split at row
  · exact Or.inl (Option.some.inj row).symm
  · exact Or.inr row

/-- What a settle transaction does to the execution it observes an outcome for. -/
theorem Frame.observed_ok (observes : frame.observed = some (executionId, request))
    (run : frame.exec settings input s = .ok (s', pushed))
    (stored : s.db.executions.get executionId = some e) (stored' : s'.db.executions.get executionId = some e') :
    e' = e ∨ ∃ records, (∃ stepId requestId, WorkflowOrchestrator.settleForward e stepId requestId request
        input.readings = .ok (e', records)) ∨
      applyTerminal e request input.readings = .ok (some (e', records)) := by
  cases frame with
  | settleForward id stepId requestId dispatched =>
    cases observes
    obtain ⟨before, found, run⟩ := Rows.bind_eq_ok.mp run
    cases stored.symm.trans (State.execution_ok found).1
    obtain ⟨⟨after, records⟩, settled, done⟩ := Rows.bind_eq_ok.mp run
    cases done
    rcases State.savedExecution_row stored' with rfl | same
    · exact Or.inr ⟨records, Or.inl ⟨stepId, requestId, settled⟩⟩
    · exact Or.inl (Option.some.inj (same.symm.trans stored))
  | settleTerminal id request =>
    cases observes
    obtain ⟨before, found, run⟩ := Rows.bind_eq_ok.mp run
    cases stored.symm.trans (State.execution_ok found).1
    obtain ⟨outcome, decided, run⟩ := Rows.bind_eq_ok.mp run
    cases outcome with
    | none =>
      cases run
      exact Or.inl (Option.some.inj (stored'.symm.trans stored))
    | some outcome =>
      cases run
      rcases State.savedExecution_row stored' with rfl | same
      · exact Or.inr ⟨_, Or.inr decided⟩
      · exact Or.inl (Option.some.inj (same.symm.trans stored))
  | _ => cases observes

/-- A dead forward step ends the forward phase unless its request was
cancelled. After any other outcome the execution never works towards success
again; after a cancellation the transaction that observed it leaves the
execution in its forward phase, with the step dead. -/
theorem dead_step_ends_forward_phase (reach : Reachable settings c) {task : Nat} {rest : List Frame}
    (atTask : c.tasks[task]? = some (frame :: rest)) (observes : frame.observed = some (executionId, request))
    (next : (orchestrator settings).next c (.run task input) = some c')
    (stored : c.state.db.executions.get executionId = some e)
    (forward : e.status ∈ [WorkflowStatus.running, .waiting]) (member : step ∈ e.steps)
    (alive : step.status ∉ [WorkflowStepStatus.failed, .cancelled])
    (stored' : c'.state.db.executions.get executionId = some e') (member' : step' ∈ e'.steps)
    (same : step'.id = step.id) (dead : step'.status ∈ [WorkflowStepStatus.failed, .cancelled]) :
    (request.status ≠ .cancelled → ∀ c'', (orchestrator settings).Reach (fun _ _ => True) c' c'' →
      ∃ e'', c''.state.db.executions.get executionId = some e'' ∧ e''.status ∉ [WorkflowStatus.running, .waiting]) ∧
    (request.status = .cancelled → e'.status ∈ [WorkflowStatus.running, .waiting]) := by
  have reach' : Reachable settings c' := reach.next trivial next
  have fixed := reachable_refreshed reach executionId e stored
  have ids : (e.steps.map (·.id)).Nodup := ((reachable_good (Restriction.within_any _) reach).1.sound _ _ stored).ids
  -- a dead step of the outcome is not a step of the state before
  have changed : step' ∉ e.steps := by
    intro inside
    cases List.inj_on_of_nodup_map ids inside member same
    exact alive dead
  obtain ⟨records, outcome⟩ : ∃ records, (∃ stepId requestId, WorkflowOrchestrator.settleForward e stepId requestId
      request input.readings = .ok (e', records)) ∨
      applyTerminal e request input.readings = .ok (some (e', records)) := by
    rcases TaskPool.next_cases next with ⟨_, spawns, _⟩ |
      ⟨_, _, _, _, state, pushed, runs, here, ran, rfl⟩ | ⟨_, _, _, _, _, _, _, _, rfl⟩
    · cases spawns
    · cases runs
      cases atTask.symm.trans here
      refine (Frame.observed_ok observes ran stored stored').resolve_left ?_
      rintro rfl
      exact changed member'
    · cases stored.symm.trans stored'
      exact absurd member' changed
  constructor
  · intro kept c'' onward
    have failed : step'.status = .failed := by
      refine (List.mem_pair.mp dead).resolve_right fun cancelled => changed ?_
      rcases outcome with ⟨stepId, requestId, settled⟩ | applied
      · exact settleForward_uncancelled settled member' cancelled
      · exact applyTerminal_uncancelled kept applied member' cancelled
    have ended := (reachable_refreshed reach' executionId e' stored').failed step' member' failed
    obtain ⟨e'', after, still⟩ := ended_stays reach' ⟨e', stored', ended⟩ onward
    refine ⟨e'', after, fun again => still ?_⟩
    rcases List.mem_pair.mp again with status | status <;> simp [dispatchingStatuses, status]
  · intro cancelled
    rcases outcome with ⟨stepId, requestId, settled⟩ | applied
    · rw [settleForward_cancelled fixed cancelled settled]
      exact forward
    · exact applyTerminal_cancelled fixed forward cancelled applied

open scoped TaskPool in
/-- The provider cancels the operation of the only step: the call that
observed it has returned, the step is cancelled and the execution runs on. -/
theorem cancelled_step_keeps_running :
    ∃ c, Reachable Sample.settings c ∧ c.tasks[0]? = some [] ∧
      ∃ e, c.state.db.executions.get 100 = some e ∧ e.status = .running ∧ ∃ step ∈ e.steps,
        step.status = .cancelled ∧ step.integrationRequestId = some 200 ∧
        ∃ q, c.state.db.requests.get 200 = some q ∧ q.status = .cancelled :=
  reachable_replay Sample.settings (Sample.onlyStep (Sample.answered .cancelled "op-1") ++ Sample.work 0 4 300 8) _
    (by decide)

/-- The first task is about to tell the workflow how a request ended, and the
test holds of the request. -/
def Sample.tellsNext (test : IntegrationRequest → Bool) (c : Config) : Bool := match c.tasks[0]? with
  | some (Frame.settleTerminal 100 request :: _) => test request
  | _ => false

theorem Sample.tellsNext_iff {c : Config} {test : IntegrationRequest → Bool} (found : Sample.tellsNext test c = true) :
    ∃ request rest, c.tasks[0]? = some (.settleTerminal 100 request :: rest) ∧ test request = true := by
  unfold Sample.tellsNext at found
  split at found
  · rename_i request rest atTask
    exact ⟨request, rest, atTask, found⟩
  · cases found

theorem dead_step_ends_forward_phase_refused :
    ∃ c', Reachable Sample.settings c' ∧ (∃ e', c'.state.db.executions.get 100 = some e' ∧
        ∃ step' ∈ e'.steps, step'.status = .failed) ∧
      ∀ c'', (orchestrator Sample.settings).Reach (fun _ _ => True) c' c'' →
        ∃ e'', c''.state.db.executions.get 100 = some e'' ∧ e''.status ∉ [WorkflowStatus.running, .waiting] := by
  obtain ⟨c, reach, found⟩ := reachable_replay Sample.settings
    (Sample.onlyStep (Sample.answered .unknown "op-1") ++ Sample.work 0 4 300 2)
    (fun (c : Config) => Sample.tellsNext (fun request => request.status = .manualReview &&
      ((orchestrator Sample.settings).next c (.run 0 (Sample.input 5 0 .crashed))).any fun (c' : Config) =>
        (c.state.db.executions.get 100).any fun e => e.status = .running && e.steps.any fun step =>
          step.status = .running && (c'.state.db.executions.get 100).any fun e' => e'.steps.any fun step' =>
            step'.id = step.id && step'.status = .failed) c) (by decide)
  obtain ⟨request, rest, atTask, found⟩ := Sample.tellsNext_iff found
  simp only [Option.any_eq_true, List.any_eq_true, Bool.and_eq_true, decide_eq_true_eq] at found
  obtain ⟨reviewed, c', next, e, stored, running, step, member, alive, e', stored', step', member', same, dead⟩ :=
    found
  have ended := dead_step_ends_forward_phase reach atTask rfl next stored (by simp [running]) member
    (by simp [alive]) stored' member' same (by simp [dead])
  exact ⟨c', reach.next trivial next, ⟨e', stored', step', member', dead⟩, ended.1 (by simp [reviewed])⟩

end IntegrationOrchestrator
