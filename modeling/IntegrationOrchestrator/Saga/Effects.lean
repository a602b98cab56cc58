import IntegrationOrchestrator.Saga.Sound
import IntegrationOrchestrator.System.Program

namespace IntegrationOrchestrator

open WorkflowExecution

namespace State

def Succeeded (s : State) (requestId : UUID) : Prop :=
  ∃ q, s.db.requests.get requestId = some q ∧ q.status = .succeeded

instance (s : State) (requestId : UUID) : Decidable (s.Succeeded requestId) :=
  decidable_of_iff ((s.db.requests.get requestId).any (·.status = .succeeded) = true) (by
    simp [Succeeded, Option.any_eq_true])

/-- What the tables and the history say about the requests of one execution. -/
def evidence (s : State) (executionId : UUID) : Evidence where
  created role stepId requestId := Event.created role executionId stepId requestId ∈ s.history
  succeeded := s.Succeeded

/-- The stored execution `e` was replaced by `e'`. -/
structure Replaced (s s' : State) (e e' : WorkflowExecution) : Prop where
  stored : s.db.executions.get e.id = some e
  id : e'.id = e.id
  executions : s'.db.executions = s.db.executions.put e'

/-- The request `q` was created for a step of the stored execution `e`. -/
structure Created (s s' : State) (role : Role) (stepId : UUID) (q : IntegrationRequest)
    (e e' : WorkflowExecution) : Prop extends Replaced s s' e e' where
  fresh : s.db.requests.get q.id = none
  received : q.status = .received
  requests : s'.db.requests = s.db.requests.put q
  history : s'.history = s.history ++ [.created role e.id stepId q.id]

end State

/-- The frames start no compensation. -/
def Unstarting (pushed : List Frame) : Prop :=
  ∀ executionId stepId, Frame.compensateStep executionId stepId ∉ pushed

/-- The licence without the right to begin a compensation. -/
def Licence.steady (licence : Licence) : Licence := { licence with unwind := False }

/-- Everything one committed frame can do to executions and to the requests
created for their steps. -/
inductive Effect (licence : Licence) (now : Instant) (frame : Frame) (s s' : State) : List Frame → Prop
  | requests {pushed} : s'.db.executions = s.db.executions → (∀ id, s.Succeeded id → s'.Succeeded id) →
      (∃ extra, s'.history = s.history ++ extra ∧ ∀ role e step q, Event.created role e step q ∉ extra) →
      Unstarting pushed → Effect licence now frame s s' pushed
  | moves {e e' pushed} : s.Replaced s' e e' → s'.db.requests = s.db.requests → s'.history = s.history →
      Moves (s.evidence e.id) licence.steady now e e' → Unstarting pushed → Effect licence now frame s s' pushed
  | begins {e e' step} : frame = .continueCompensation e.id → licence.unwind → s.Replaced s' e e' → s'.db.requests = s.db.requests → s'.history = s.history →
      e.status = .compensating → step ∈ e.steps → step.status = .succeeded →
      (∀ other ∈ e.steps, other.status = .succeeded → completionTime other ≤ completionTime step) →
      StepReplaced e e' step (step.moved .compensating now) →
      Effect licence now frame s s' [.compensateStep e.id step.id]
  | creates {e e' step q pushed} : frame = .runForwardStep e.id step.id →
      s.Created s' .forward step.id q e e' → step ∈ e.steps → step.status = .ready →
      e.status ∈ [WorkflowStatus.running, .waiting] → StepReplaced e e' step (step.started q.id now) →
      Unstarting pushed → Effect licence now frame s s' pushed
  | compensates {e e' step q pushed} : frame = .compensateStep e.id step.id →
      s.Created s' .compensation step.id q e e' → step ∈ e.steps → step.status ∈ compensationPhase →
      step.compensateOperation ≠ none →
      StepReplaced e e' step { step with compensationRequestId := some q.id } → Unstarting pushed →
      Effect licence now frame s s' pushed
  | starts {origin e pushed} : s.db.executions.get e.id = none → s'.db.executions = s.db.executions.put e →
      s'.db.requests = s.db.requests → s'.history = s.history → (e.steps.map (·.id)).Nodup →
      (e.steps.map (·.stepKey)).Nodup → origin.Fresh →
      Moves (s.evidence e.id) licence.steady now origin e →
      Unstarting pushed → Effect licence now frame s s' pushed

variable {licence : Licence} {now : Instant} {frame : Frame} {s s' : State} {pushed : List Frame}

theorem State.Replaced.get {e e' : WorkflowExecution} (replaced : s.Replaced s' e e') (executionId : UUID) :
    s'.db.executions.get executionId =
      if executionId = e.id then some e' else s.db.executions.get executionId := by
  rw [replaced.executions, Table.get_put, replaced.id]

theorem State.Created.recorded {role : Role} {stepId : UUID} {q : IntegrationRequest} {e e' : WorkflowExecution}
    (created : s.Created s' role stepId q e e') : Event.created role e.id stepId q.id ∈ s'.history :=
  created.history ▸ List.mem_append_right _ (List.mem_singleton.mpr rfl)

theorem State.created_ok {role : Role} {stepId : UUID} {q : IntegrationRequest} {e e' : WorkflowExecution}
    (run : s.created role stepId e' q = .ok s') (stored : s.db.executions.get e.id = some e)
    (id : e'.id = e.id) (received : q.status = .received) : s.Created s' role stepId q e e' := by
  obtain ⟨db, added, done⟩ := Rows.bind_eq_ok.mp run
  cases done
  obtain ⟨fresh, rfl⟩ := Database.addRequest_ok added
  exact ⟨⟨stored, id, rfl⟩, fresh, received, rfl, by rw [id]⟩

/-- The moves of a steady transaction stay moves when more is known and more
is allowed. -/
theorem WorkflowExecution.Moves.learn {ev ev' : Evidence} {e e' : WorkflowExecution}
    (created : ∀ role step q, ev.created role step q → ev'.created role step q)
    (succeeded : ∀ q, ev.succeeded q → ev'.succeeded q) (moves : Moves ev licence.steady now e e') :
    Moves ev' licence now e e' := by
  have learned : ∀ e step step', StepChange ev licence.steady now e step step' →
      StepChange ev' licence now e step step' := by
    intro e step step' change
    cases change with
    | keep => exact .keep
    | ready pending satisfied live => exact .ready pending satisfied live
    | cancel active => exact .cancel active
    | start ready live dequeued origin => exact .start ready live dequeued (created _ _ _ origin)
    | wait running => exact .wait running
    | retry running => exact .retry running
    | fail active => exact .fail active
    | succeed active origin settled => exact .succeed active (created _ _ _ origin) (succeeded _ settled)
    | beginCompensation never => exact absurd never (fun never => never)
    | link phase origin => exact .link phase (created _ _ _ origin)
    | release status none => exact .release status none
    | compensate status origin settled => exact .compensate status (created _ _ _ origin) (succeeded _ settled)
    | compensationFailed status review => exact .compensationFailed status review
    | lateSuccess late status link => exact .lateSuccess late status link
    | lateFailure late status => exact .lateFailure late status
  refine Relation.ReflTransGen.mono ?_ _ _ moves
  intro before after move
  cases move with
  | steps each => exact .steps (each.imp fun old new change => learned _ old new change)
  | status change => exact .status change
  | review unwinding => exact .review unwinding
  | remark elsewhere compensating => exact .remark elsewhere compensating
  | askCancel asked => exact .askCancel asked
  | deadline => exact .deadline
  | lease => exact .lease

namespace Effect

/-- No transaction forgets a success or a creation. -/
theorem remembers (effect : Effect licence now frame s s' pushed) :
    (∀ id, s.Succeeded id → s'.Succeeded id) ∧ ∃ extra, s'.history = s.history ++ extra := by
  have put : ∀ q : IntegrationRequest, s.db.requests.get q.id = none → s'.db.requests = s.db.requests.put q →
      ∀ id, s.Succeeded id → s'.Succeeded id := by
    rintro q fresh requests id ⟨other, stored, status⟩
    refine ⟨other, ?_, status⟩
    rw [requests, Table.get_put, if_neg, stored]
    rintro rfl
    exact absurd (fresh.symm.trans stored) (by simp)
  have same : s'.db.requests = s.db.requests → ∀ id, s.Succeeded id → s'.Succeeded id := by
    rintro requests id ⟨q, stored, status⟩
    exact ⟨q, requests ▸ stored, status⟩
  cases effect with
  | requests _ kept extra _ => exact ⟨kept, extra.imp fun _ both => both.1⟩
  | moves _ requests history => exact ⟨same requests, [], by simp [history]⟩
  | begins _ _ _ requests history => exact ⟨same requests, [], by simp [history]⟩
  | creates _ created => exact ⟨put _ created.fresh created.requests, _, created.history⟩
  | compensates _ created => exact ⟨put _ created.fresh created.requests, _, created.history⟩
  | starts _ _ requests history => exact ⟨same requests, [], by simp [history]⟩

theorem succeeded (effect : Effect licence now frame s s' pushed) {id : UUID} (before : s.Succeeded id) :
    s'.Succeeded id := effect.remembers.1 id before

theorem recalls (effect : Effect licence now frame s s' pushed) {event : Event} (before : event ∈ s.history) :
    event ∈ s'.history := by
  obtain ⟨extra, history⟩ := effect.remembers.2
  exact history ▸ List.mem_append_left _ before

theorem learns (effect : Effect licence now frame s s' pushed) {executionId : UUID} {e e' : WorkflowExecution}
    (moves : Moves (s.evidence executionId) licence.steady now e e') :
    Moves (s'.evidence executionId) licence now e e' :=
  moves.learn (fun _ _ _ => effect.recalls) fun _ => effect.succeeded

/-- The executions after a transaction: the old ones, moved, and a new one. -/
theorem origin (effect : Effect licence now frame s s' pushed) {executionId : UUID} {e' : WorkflowExecution}
    (after : s'.db.executions.get executionId = some e') :
    (∃ e, s.db.executions.get executionId = some e ∧ Moves (s'.evidence executionId) licence now e e') ∨
    (s.db.executions.get executionId = none ∧ s'.history = s.history ∧ (e'.steps.map (·.id)).Nodup ∧
      (e'.steps.map (·.stepKey)).Nodup ∧
      ∃ origin : WorkflowExecution, origin.Fresh ∧ Moves (s'.evidence executionId) licence now origin e') := by
  have replaced : ∀ e changed, s.Replaced s' e changed → Moves (s'.evidence e.id) licence now e changed →
      ∃ e, s.db.executions.get executionId = some e ∧ Moves (s'.evidence executionId) licence now e e' := by
    intro e changed replaced moves
    rw [replaced.get] at after
    split at after
    · rename_i same
      cases after
      exact ⟨e, same ▸ replaced.stored, same ▸ moves⟩
    · exact ⟨e', after, .refl⟩
  have whole := effect
  cases effect with
  | requests executions => exact Or.inl ⟨e', executions ▸ after, .refl⟩
  | moves write _ _ moves => exact Or.inl (replaced _ _ write (whole.learns moves))
  | begins _ may write _ _ unwinding member succeeded latest swap =>
    exact Or.inl (replaced _ _ write (swap.moves (.beginCompensation may succeeded unwinding latest)))
  | creates _ created member ready phase swap =>
    refine Or.inl (replaced _ _ created.toReplaced (swap.moves (.start ready ?_ ?_ ?_)))
    · rcases List.mem_pair.mp phase with status | status <;> rw [status] <;> rfl
    · rcases List.mem_pair.mp phase with status | status <;> simp [status]
    · exact created.recorded
  | compensates _ created member phase _ swap =>
    exact Or.inl (replaced _ _ created.toReplaced (swap.moves (.link phase created.recorded)))
  | @starts origin e _ fresh executions _ history ids keys start moves =>
    rw [executions, Table.get_put] at after
    split at after
    · rename_i same
      cases after
      subst same
      exact Or.inr ⟨fresh, history, ids, keys, origin, start, whole.learns moves⟩
    · exact Or.inl ⟨e', after, .refl⟩

/-- Every stored execution stays stored, and makes the saga's moves only. -/
theorem stored (effect : Effect licence now frame s s' pushed) {executionId : UUID} {e : WorkflowExecution}
    (before : s.db.executions.get executionId = some e) :
    ∃ e', s'.db.executions.get executionId = some e' ∧ Moves (s'.evidence executionId) licence now e e' := by
  have kept : ∃ e', s'.db.executions.get executionId = some e' := by
    have replaced : ∀ old new, s.Replaced s' old new → ∃ e', s'.db.executions.get executionId = some e' := by
      intro old new replaced
      rw [replaced.get]
      split
      · exact ⟨new, rfl⟩
      · exact ⟨e, before⟩
    cases effect with
    | requests executions => exact ⟨e, executions ▸ before⟩
    | moves write => exact replaced _ _ write
    | begins _ _ write => exact replaced _ _ write
    | creates _ created => exact replaced _ _ created.toReplaced
    | compensates _ created => exact replaced _ _ created.toReplaced
    | @starts _ fresh _ _ executions =>
      rw [executions, Table.get_put]
      split
      · exact ⟨fresh, rfl⟩
      · exact ⟨e, before⟩
  obtain ⟨e', after⟩ := kept
  rcases effect.origin after with ⟨old, here, moves⟩ | ⟨absent, _⟩
  · cases before.symm.trans here
    exact ⟨e', after, moves⟩
  · exact absurd (before.symm.trans absent) (by simp)

end Effect

end IntegrationOrchestrator
