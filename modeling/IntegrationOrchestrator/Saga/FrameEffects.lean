import IntegrationOrchestrator.Saga.Asserts
import IntegrationOrchestrator.System.WorkflowSteps

namespace IntegrationOrchestrator

open WorkflowExecution WorkflowOrchestrator

variable {settings : Settings} {licence : Licence} {input : Input} {now : Instant} {frame : Frame} {s s' : State}
  {pushed : List Frame} {e e' : WorkflowExecution} {executionId stepId requestId : UUID}

/-- An effect, with the frames pushed justified in the state it commits. -/
def Justified (licence : Licence) (now : Instant) (frame : Frame) (s s' : State) (pushed : List Frame) : Prop :=
  Effect licence now frame s s' pushed ∧ ∀ next ∈ pushed, next.Asserts s'

theorem Justified.same (unstarting : Unstarting pushed) (asserts : ∀ next ∈ pushed, next.Asserts s) :
    Justified licence now frame s s pushed :=
  ⟨.requests rfl (fun _ known => known) ⟨[], by simp, by simp⟩ unstarting, asserts⟩

theorem Justified.saved {records : List WorkflowRecord} (stored : s.db.executions.get executionId = some e)
    (moves : Moves (s.evidence executionId) licence.steady now e e') (unstarting : Unstarting pushed)
    (asserts : ∀ next ∈ pushed, next.Asserts (s.savedExecution e' records)) :
    Justified licence now frame s (s.savedExecution e' records) pushed := by
  cases Table.get_key stored
  exact ⟨.moves ⟨stored, moves.id, rfl⟩ rfl rfl moves unstarting, asserts⟩

theorem unwindIf_unstarting {p : Prop} [Decidable p] : Unstarting (unwindIf p executionId) := by
  unfold unwindIf
  split <;> simp [Unstarting]

theorem unwindIf_asserts {p : Prop} [Decidable p] : ∀ next ∈ unwindIf p executionId, next.Asserts s := by
  unfold unwindIf
  split <;> simp [Frame.Asserts]

/-- Every committed frame of a workflow has one of the effects of a saga. -/
theorem WorkflowStep.justified (good : s.Good) (asserts : frame.Asserts s) (within : frame.Within licence s)
    (step : WorkflowStep input s frame s' pushed) : Justified licence input.readings.now frame s s' pushed := by
  cases step with
  | inserted started added =>
    obtain ⟨absent, ids, keys, rfl⟩ := Database.addExecution_ok added
    obtain ⟨origin, fresh, promoted⟩ := startExecution_ok started
    exact ⟨.starts absent rfl rfl rfl ids keys fresh (promoteReadySteps_moves promoted (by rw [fresh.queued]; rfl))
      (by simp [Unstarting]), by simp [Frame.Asserts]⟩
  | claimed stored =>
    refine .saved stored Move.lease.moves ?_ ?_
    · split <;> simp [Unstarting]
    · split <;> simp [Frame.Asserts]
  | @halted e e' _ stored decided =>
    obtain ⟨moves, _⟩ : Moves (s.evidence e.id) licence.steady input.readings.now e e' ∧ e'.status ≠ .queued :=
      advance_moves (good.sound e.id e stored).linked.forward (fun _ _ => Table.get_key)
        (fun _ q found status => ⟨q, found, status⟩) decided
    exact .saved stored moves (by simp [Unstarting]) (by simp)
  | @advanced e e' _ stored decided =>
    obtain ⟨moves, dequeued⟩ : Moves (s.evidence e.id) licence.steady input.readings.now e e' ∧ e'.status ≠ .queued :=
      advance_moves (good.sound e.id e stored).linked.forward (fun _ _ => Table.get_key)
        (fun _ q found status => ⟨q, found, status⟩) decided
    refine .saved stored moves (by simp [Unstarting]) ?_
    intro frame member
    simp only [List.mem_append, List.mem_map, List.mem_singleton] at member
    rcases member with ⟨stepId, _, rfl⟩ | rfl
    · exact ⟨e', by rw [← moves.id]; exact Table.get_put_self _ _, dequeued⟩
    · trivial
  | refreshed stored decided =>
    exact .saved stored (refreshExecutionStatus_moves decided) (by simp [Unstarting]) (by simp)
  | @sent e e' stepId q s' stored decided _ created =>
    obtain ⟨step, here, ready, live, alive, id, received, _, swap⟩ := runForwardStep_start decided
    obtain ⟨other, same, dequeued⟩ := asserts
    cases stored.symm.trans same
    have member := List.mem_of_find?_eq_some here
    have sameId : step.id = stepId := by simpa using List.find?_some here
    subst sameId
    have made := State.created_ok (e := e) created stored (by rw [swap.rest]) received
    have running : e.status ∈ [WorkflowStatus.running, .waiting] := by
      have statuses := (good.sound e.id e stored).statuses
      cases status : e.status <;> simp_all [WorkflowStatus.isTerminal]
    refine ⟨.creates rfl made member ready running (id ▸ swap) (by simp [Unstarting]), ?_⟩
    intro frame member
    cases List.mem_singleton.mp member
    exact made.recorded
  | settled stored decided =>
    exact .saved stored (settleForward_moves asserts.1 asserts.2 (within _ stored) decided) unwindIf_unstarting
      unwindIf_asserts
  | timedOut stored decided => exact .saved stored (enforceDeadline_moves decided) unwindIf_unstarting unwindIf_asserts
  | cancelled stored decided => exact .saved stored (cancel_moves decided) unwindIf_unstarting unwindIf_asserts
  | applied stored decided =>
    have links := (good.sound _ _ stored).linked
    refine .saved stored (applyTerminal_moves links asserts (within _ stored) decided) ?_ ?_
    · split
      · simp [Unstarting]
      · exact unwindIf_unstarting
    · split
      · simp [Frame.Asserts]
      · exact unwindIf_asserts
  | @begun e e' _ stored decided =>
    obtain ⟨unwinding, step, member, rfl, succeeded, latest, swap⟩ :=
      continueCompensation_begin (good.sound e.id e stored).ids decided
    have replaced : s.Replaced (s.savedExecution e' []) e e' := ⟨stored, by rw [swap.rest], rfl⟩
    refine ⟨.begins rfl within replaced rfl rfl unwinding member succeeded latest swap, ?_⟩
    intro frame pushed
    cases List.mem_singleton.mp pushed
    exact ⟨e', by simp [replaced.get], _, swap.made, rfl, by simp [compensationPhase]⟩
  | unwound stored decided =>
    obtain ⟨unwinding, finished⟩ := continueCompensation_finish decided
    exact .saved stored (finishUnwind_moves unwinding finished) (by simp [Unstarting]) (by simp)
  | released stored decided =>
    exact .saved stored (compensateStep_done decided) (by simp [Unstarting]) (by simp [Frame.Asserts])
  | @undone e e' stepId q s' stored decided _ created =>
    obtain ⟨step, here, operation, id, received, _, swap⟩ := compensateStep_start decided
    obtain ⟨other, same, begun, inside, begunId, phase⟩ := asserts
    cases stored.symm.trans same
    have member := List.mem_of_find?_eq_some here
    have sameId : step.id = stepId := by simpa using List.find?_some here
    subst sameId
    cases List.inj_on_of_nodup_map (good.sound e.id e stored).ids inside member begunId
    have made := State.created_ok (e := e) created stored (by rw [swap.rest]) received
    refine ⟨.compensates rfl made member phase operation (id ▸ swap) (by simp [Unstarting]), ?_⟩
    intro frame member
    cases List.mem_singleton.mp member
    exact made.recorded
  | compensated stored decided =>
    have sound := good.sound _ _ stored
    refine .saved stored (settleCompensation_moves asserts.1 asserts.2 ?_ ?_ decided) unwindIf_unstarting
      unwindIf_asserts
    · rintro step member rfl
      exact sound.compensationStarted step member _ asserts.1
    · exact fun step member status => sound.unwinding_compensating member status
  | _ => exact .same (by simp [Unstarting]) (by simp [Frame.Asserts])

end IntegrationOrchestrator
