import IntegrationOrchestrator.System.Reports

namespace IntegrationOrchestrator

open WorkflowOrchestrator
open Rows (bind_eq_ok)

/-- A request as the orchestrator makes it for a step. -/
structure IntegrationRequest.IsNew (now : Instant) (q : IntegrationRequest) : Prop where
  received : q.status = .received
  unattempted : q.attemptCount = 0
  unlinked : q.providerReference = none
  unowned : q.ownerSubject = none
  createdAt : q.createdAt = now

/-- The units of work on one execution. -/
def Frame.isWorkflow : Frame → Bool
  | .startWorkflow _ | .createExecution _ | .claimRunnable _ | .advance _ | .runForwardStep _ _
  | .settleForward _ _ _ _ | .advanceFinish _ | .enforceDeadline _ | .cancelWorkflow _ _ _
  | .settleTerminal _ _ | .continueCompensation _ | .compensateStep _ _ | .settleCompensation _ _ _ _ => true
  | _ => false

/-- The units of work that go on with an execution. -/
def Frame.isWalk : Frame → Bool
  | .advance _ | .runForwardStep _ _ | .advanceFinish _ | .enforceDeadline _ | .continueCompensation _
  | .compensateStep _ _ => true
  | _ => false

/-- What follows a transaction that may have begun the unwind. -/
def unwindIf (p : Prop) [Decidable p] (executionId : UUID) : List Frame :=
  if p then [.continueCompensation executionId] else []

/-- Everything one committed frame of a workflow does, by the function of the
source that decides it: the state it commits, and the frames that follow. -/
inductive WorkflowStep (input : Input) (s : State) : Frame → State → List Frame → Prop
  | known {command existing} : WorkflowStep input s (.startWorkflow command) s [.advance existing]
  | unknown {command} : WorkflowStep input s (.startWorkflow command) s [.createExecution command]
  | inserted {command e db} : startExecution command input.newId input.readings.now = .ok e →
      s.db.addExecution e = .ok db → WorkflowStep input s (.createExecution command)
        { s with db := db.recordWorkflow [record e .workflowStarted command.actor .created e.status
          input.readings.recordedAt] } [.advance e.id]
  | unclaimed {executionId} : WorkflowStep input s (.claimRunnable executionId) s []
  | claimed {e till t} : s.db.executions.get e.id = some e → WorkflowStep input s (.claimRunnable e.id)
      (s.savedExecution { e with claimLeaseUntil := till, updatedAt := t } [])
      [if e.status = .compensating then .continueCompensation e.id else .advance e.id]
  | stopped {e} : s.db.executions.get e.id = some e →
      advance e s.db.requests.get input.readings = .ok .stop → WorkflowStep input s (.advance e.id) s []
  | overdue {e} : s.db.executions.get e.id = some e →
      advance e s.db.requests.get input.readings = .ok .deadline →
      WorkflowStep input s (.advance e.id) s [.enforceDeadline e.id]
  | halted {e e' records} : s.db.executions.get e.id = some e →
      advance e s.db.requests.get input.readings = .ok (.commit e' records) →
      WorkflowStep input s (.advance e.id) (s.savedExecution e' records) []
  | advanced {e e' records} : s.db.executions.get e.id = some e →
      advance e s.db.requests.get input.readings = .ok (.commit e' records) →
      WorkflowStep input s (.advance e.id) (s.savedExecution e' records)
        ((readySteps e').map (.runForwardStep e.id) ++ [.advanceFinish e.id])
  | refreshed {e e' records} : s.db.executions.get e.id = some e →
      refreshExecutionStatus e input.readings = .ok (e', records) →
      WorkflowStep input s (.advanceFinish e.id) (s.savedExecution e' records) []
  | skipped {e stepId} : WorkflowStep input s (.runForwardStep e stepId) s []
  | expired {e stepId} : s.db.executions.get e.id = some e →
      runForwardStep e stepId (input.newId 0) (input.newId 1) input.readings.now = .ok .deadline →
      WorkflowStep input s (.runForwardStep e.id stepId) s [.enforceDeadline e.id]
  | sent {e e' stepId q s'} : s.db.executions.get e.id = some e →
      runForwardStep e stepId (input.newId 0) (input.newId 1) input.readings.now = .ok (.start e' q) →
      q.IsNew input.readings.now → s.created .forward stepId e' q = .ok s' →
      WorkflowStep input s (.runForwardStep e.id stepId) s' [.dispatch q.id (.forward e.id stepId)]
  | settled {e e' stepId requestId dispatched records} : s.db.executions.get e.id = some e →
      settleForward e stepId requestId dispatched input.readings = .ok (e', records) →
      WorkflowStep input s (.settleForward e.id stepId requestId dispatched) (s.savedExecution e' records)
        (unwindIf (e'.status = .compensating) e.id)
  | inTime {executionId} : WorkflowStep input s (.enforceDeadline executionId) s []
  | timedOut {e e' records} : s.db.executions.get e.id = some e →
      enforceDeadline e input.readings = .ok (some (e', records)) →
      WorkflowStep input s (.enforceDeadline e.id) (s.savedExecution e' records)
        (unwindIf (e'.status = .compensating) e.id)
  | uncancelled {executionId actor reason} : WorkflowStep input s (.cancelWorkflow executionId actor reason) s []
  | cancelled {e e' actor reason records} : s.db.executions.get e.id = some e →
      cancel e actor reason input.readings = .ok (some (e', records)) →
      WorkflowStep input s (.cancelWorkflow e.id actor reason) (s.savedExecution e' records)
        (unwindIf (e.status ≠ .compensating && e'.status = .compensating) e.id)
  | unrelated {e request} : s.db.executions.get e.id = some e → applyTerminal e request input.readings = .ok none →
      WorkflowStep input s (.settleTerminal e.id request) s []
  | applied {e e' request records} : s.db.executions.get e.id = some e →
      applyTerminal e request input.readings = .ok (some (e', records)) →
      WorkflowStep input s (.settleTerminal e.id request) (s.savedExecution e' records)
        (if e'.status = .running then [.advance e.id] else unwindIf (e'.status = .compensating) e.id)
  | idle {executionId} : WorkflowStep input s (.continueCompensation executionId) s []
  | begun {e e' stepId} : s.db.executions.get e.id = some e →
      continueCompensation e input.readings = .ok (.begin e' stepId) →
      WorkflowStep input s (.continueCompensation e.id) (s.savedExecution e' []) [.compensateStep e.id stepId]
  | unwound {e e' records} : s.db.executions.get e.id = some e →
      continueCompensation e input.readings = .ok (.finish e' records) →
      WorkflowStep input s (.continueCompensation e.id) (s.savedExecution e' records) []
  | released {e e' stepId} : s.db.executions.get e.id = some e →
      compensateStep e stepId (input.newId 0) (input.newId 1) input.readings.now = .ok (.done e') →
      WorkflowStep input s (.compensateStep e.id stepId) (s.savedExecution e' []) [.continueCompensation e.id]
  | undone {e e' stepId q s'} : s.db.executions.get e.id = some e →
      compensateStep e stepId (input.newId 0) (input.newId 1) input.readings.now = .ok (.start e' q) →
      q.IsNew input.readings.now → s.created .compensation stepId e' q = .ok s' →
      WorkflowStep input s (.compensateStep e.id stepId) s' [.dispatch q.id (.compensation e.id stepId)]
  | compensated {e e' stepId requestId dispatched} : s.db.executions.get e.id = some e →
      settleCompensation e stepId requestId dispatched input.readings.now = .ok e' →
      WorkflowStep input s (.settleCompensation e.id stepId requestId dispatched) (s.savedExecution e' [])
        (unwindIf (e'.status = .compensating) e.id)

namespace WorkflowOrchestrator

variable {e e' : WorkflowExecution} {stepId requestId minted : UUID} {now : Instant} {q : IntegrationRequest}

theorem stepRequest_isNew {step : WorkflowStepExecution} {operation : OperationType} {reference : String}
    (run : stepRequest e step operation reference requestId minted now = .ok q) : q.IsNew now := by
  obtain ⟨provider, _, run⟩ := bind_eq_ok.mp run
  obtain ⟨external, _, run⟩ := bind_eq_ok.mp run
  obtain ⟨correlation, _, done⟩ := bind_eq_ok.mp run
  cases done
  exact ⟨rfl, rfl, rfl, rfl, rfl⟩

theorem runForwardStep_isNew (run : runForwardStep e stepId requestId minted now = .ok (.start e' q)) :
    q.IsNew now := by
  obtain ⟨step, _, run⟩ := bind_eq_ok.mp run
  split at run
  · cases run
  · split at run
    · cases run
    · split at run
      · cases run
      · obtain ⟨_, _, run⟩ := bind_eq_ok.mp run
        obtain ⟨made, requested, done⟩ := bind_eq_ok.mp run
        cases done
        exact stepRequest_isNew requested

theorem compensateStep_isNew (run : compensateStep e stepId requestId minted now = .ok (.start e' q)) :
    q.IsNew now := by
  obtain ⟨step, _, run⟩ := bind_eq_ok.mp run
  split at run
  · obtain ⟨_, _, done⟩ := bind_eq_ok.mp run
    cases done
  · obtain ⟨made, requested, run⟩ := bind_eq_ok.mp run
    obtain ⟨_, _, done⟩ := bind_eq_ok.mp run
    cases done
    exact stepRequest_isNew requested

end WorkflowOrchestrator

variable {settings : Settings} {input : Input} {s s' : State} {frame : Frame} {pushed : List Frame}
  {q : IntegrationRequest}

/-- Everything that the creation of a step's request does to the tables. -/
theorem State.created_writes {role : Role} {stepId : UUID} {e : WorkflowExecution} {q : IntegrationRequest}
    (run : s.created role stepId e q = .ok s') :
    s.db.requests.get q.id = none ∧ s'.db.executions = s.db.executions.put e ∧
      s'.db.requests = s.db.requests.put q ∧
      s'.db.requestRecords = s.db.requestRecords ++ [creationRecord q workflowActor] ∧
      s'.db.workflowRecords = s.db.workflowRecords ∧
      s'.history = s.history ++ [.created role e.id stepId q.id] := by
  obtain ⟨db, added, done⟩ := bind_eq_ok.mp run
  cases done
  obtain ⟨fresh, rfl⟩ := Database.addRequest_ok added
  exact ⟨fresh, rfl, rfl, rfl, rfl, rfl⟩

theorem unwindIf_walks {p : Prop} [Decidable p] {executionId : UUID} :
    ∀ next ∈ unwindIf p executionId, next.isWalk = true := by
  unfold unwindIf
  split <;> simp [Frame.isWalk]

/-- What a frame of a workflow does to the requests, and what follows it. -/
theorem WorkflowStep.requests (step : WorkflowStep input s frame s' pushed) :
    (s'.db.requests = s.db.requests ∧ s'.db.requestRecords = s.db.requestRecords ∧ s'.history = s.history ∧
      ((∀ next ∈ pushed, next.isWalk = true) ∨
        ∃ command, frame = .startWorkflow command ∧ pushed = [.createExecution command])) ∨
    ∃ q role stepId e caller, q.IsNew input.readings.now ∧ s.created role stepId e q = .ok s' ∧
      pushed = [.dispatch q.id caller] := by
  cases step with
  | unknown => exact .inl ⟨rfl, rfl, rfl, .inr ⟨_, rfl, rfl⟩⟩
  | inserted _ added =>
    obtain ⟨_, _, _, rfl⟩ := Database.addExecution_ok added
    exact .inl ⟨rfl, rfl, rfl, .inl (by simp [Frame.isWalk])⟩
  | sent _ _ new created => exact .inr ⟨_, _, _, _, _, new, created, rfl⟩
  | undone _ _ new created => exact .inr ⟨_, _, _, _, _, new, created, rfl⟩
  | claimed => exact .inl ⟨rfl, rfl, rfl, .inl (by split <;> simp [Frame.isWalk])⟩
  | advanced =>
    refine .inl ⟨rfl, rfl, rfl, .inl fun next member => ?_⟩
    simp only [List.mem_append, List.mem_map, List.mem_singleton] at member
    rcases member with ⟨_, _, rfl⟩ | rfl <;> rfl
  | settled | timedOut | cancelled | compensated => exact .inl ⟨rfl, rfl, rfl, .inl unwindIf_walks⟩
  | applied =>
    refine .inl ⟨rfl, rfl, rfl, .inl ?_⟩
    split
    · simp [Frame.isWalk]
    · exact unwindIf_walks
  | _ => exact .inl ⟨rfl, rfl, rfl, .inl (by simp [Frame.isWalk])⟩

/-- Neither an execution nor a row about one was written. -/
structure State.WorkflowsKept (s s' : State) : Prop where
  executions : s'.db.executions = s.db.executions
  records : s'.db.workflowRecords = s.db.workflowRecords

theorem State.WorkflowsKept.saved {rows : List RequestRecord} (run : s.savedRequest q rows = .ok s') :
    s.WorkflowsKept s' := by
  obtain ⟨db, updated, done⟩ := bind_eq_ok.mp run
  cases done
  obtain rfl := Database.updateRequest_ok updated
  exact ⟨rfl, rfl⟩

theorem ReportStep.workflowsKept (step : ReportStep input s frame s' pushed) : s.WorkflowsKept s' := by
  cases step with
  | cancelled _ _ _ saved | escalated _ _ _ _ saved | polled _ _ _ saved | delivered _ _ _ saved => exact .saved saved
  | _ => exact ⟨rfl, rfl⟩

namespace Frame

theorem workflowStep (workflow : frame.isWorkflow = true) (run : frame.exec settings input s = .ok (s', pushed)) :
    WorkflowStep input s frame s' pushed := by
  cases frame <;> try cases workflow
  case startWorkflow command =>
    simp only [exec, execStartWorkflow] at run
    split at run
    · split at run <;> cases run
      · exact .known
      · exact .unknown
    · cases run
      exact .unknown
  case createExecution command =>
    obtain ⟨e, started, run⟩ := bind_eq_ok.mp run
    obtain ⟨db, added, done⟩ := bind_eq_ok.mp run
    cases done
    exact .inserted started added
  case claimRunnable executionId =>
    simp only [exec, execClaimRunnable] at run
    split at run
    · cases run
      exact .unclaimed
    · rename_i e stored
      cases Table.get_key stored
      split at run <;> cases run
      · exact .claimed stored
      · exact .unclaimed
  all_goals
    obtain ⟨e, found, body⟩ := bind_eq_ok.mp run
    obtain ⟨stored, rfl⟩ := State.execution_ok found
    obtain ⟨decision, decided, run⟩ := bind_eq_ok.mp body
  case advance =>
    cases decision with
    | stop => cases run; exact .stopped stored decided
    | deadline => cases run; exact .overdue stored decided
    | commit e' records =>
      dsimp only at run
      split at run <;> cases run
      · exact .halted stored decided
      · exact .advanced stored decided
  case runForwardStep =>
    cases decision with
    | skip => cases run; exact .skipped
    | deadline => cases run; exact .expired stored decided
    | start e' q =>
      obtain ⟨saved, created, done⟩ := bind_eq_ok.mp run
      cases done
      exact .sent stored decided (runForwardStep_isNew decided) created
  case settleForward => cases run; exact .settled stored decided
  case advanceFinish => cases run; exact .refreshed stored decided
  case enforceDeadline =>
    cases decision with
    | none => cases run; exact .inTime
    | some expired => cases run; exact .timedOut stored decided
  case cancelWorkflow =>
    cases decision with
    | none => cases run; exact .uncancelled
    | some cancelled => cases run; exact .cancelled stored decided
  case settleTerminal =>
    cases decision with
    | none => cases run; exact .unrelated stored decided
    | some settled => cases run; exact .applied stored decided
  case continueCompensation =>
    cases decision with
    | idle => cases run; exact .idle
    | begin e' stepId => cases run; exact .begun stored decided
    | finish e' records => cases run; exact .unwound stored decided
  case compensateStep =>
    cases decision with
    | done e' => cases run; exact .released stored decided
    | start e' q =>
      obtain ⟨saved, created, done⟩ := bind_eq_ok.mp run
      cases done
      exact .undone stored decided (compensateStep_isNew decided) created
  case settleCompensation => cases run; exact .compensated stored decided

/-- The frames about requests leave the workflows alone. -/
theorem workflowsKept (other : ¬ frame.isWorkflow = true) (run : frame.exec settings input s = .ok (s', pushed)) :
    s.WorkflowsKept s' := by
  cases frame <;> try exact absurd rfl other
  case createRequest command =>
    simp only [exec, execCreateRequest] at run
    split at run
    · cases run
    · split at run
      · cases run
      · obtain ⟨db, added, done⟩ := bind_eq_ok.mp run
        cases done
        obtain ⟨_, rfl⟩ := Database.addRequest_ok added
        exact ⟨rfl, rfl⟩
  case dispatch =>
    obtain ⟨q, _, run⟩ := bind_eq_ok.mp run
    obtain ⟨⟨q', records⟩, _, run⟩ := bind_eq_ok.mp run
    obtain ⟨saved, wrote, done⟩ := bind_eq_ok.mp run
    cases done
    exact .saved wrote
  case callProvider =>
    obtain ⟨descriptor, _, rfl, _⟩ := execCallProvider_ok run
    exact ⟨rfl, rfl⟩
  case settleAttempt =>
    obtain ⟨current, _, run⟩ := bind_eq_ok.mp run
    obtain ⟨⟨settled, records⟩, _, run⟩ := bind_eq_ok.mp run
    obtain ⟨saved, wrote, done⟩ := bind_eq_ok.mp run
    cases done
    unfold savedSettlement at wrote
    split at wrote
    · exact .saved wrote
    · cases wrote; exact ⟨rfl, rfl⟩
  case claimRetry requestId =>
    simp only [exec, execClaimRetry] at run
    split at run
    · cases run; exact ⟨rfl, rfl⟩
    · split at run
      · obtain ⟨⟨q', records⟩, _, run⟩ := bind_eq_ok.mp run
        obtain ⟨saved, wrote, done⟩ := bind_eq_ok.mp run
        cases done
        exact .saved wrote
      · cases run; exact ⟨rfl, rfl⟩
  case retryRequest =>
    obtain ⟨q, _, run⟩ := bind_eq_ok.mp run
    split at run
    · cases run
    · obtain ⟨⟨q', records⟩, _, run⟩ := bind_eq_ok.mp run
      obtain ⟨saved, wrote, done⟩ := bind_eq_ok.mp run
      cases done
      have kept := State.WorkflowsKept.saved wrote
      exact ⟨kept.executions, kept.records⟩
  all_goals exact (reportStep rfl run).workflowsKept

end Frame

end IntegrationOrchestrator
