import IntegrationOrchestrator.System.WorkflowSteps

namespace IntegrationOrchestrator

open WorkflowExecution WorkflowOrchestrator

/-- Every transaction of the orchestrator on one locked execution, by the
function of the source that decides what is committed. -/
inductive Transaction (requests : UUID → Option IntegrationRequest) (input : Input) (e : WorkflowExecution) :
    WorkflowExecution → Prop
  | claim {till t} : Transaction requests input e { e with claimLeaseUntil := till, updatedAt := t }
  | advance {e' records} : WorkflowOrchestrator.advance e requests input.readings = .ok (.commit e' records) →
      Transaction requests input e e'
  | refresh {e' records} : refreshExecutionStatus e input.readings = .ok (e', records) →
      Transaction requests input e e'
  | start {e' stepId q} : runForwardStep e stepId (input.newId 0) (input.newId 1) input.readings.now =
      .ok (.start e' q) → Transaction requests input e e'
  | settleForward {e' stepId requestId dispatched records} :
      WorkflowOrchestrator.settleForward e stepId requestId dispatched input.readings = .ok (e', records) →
      Transaction requests input e e'
  | expire {e' records} : enforceDeadline e input.readings = .ok (some (e', records)) →
      Transaction requests input e e'
  | cancel {e' actor reason records} : WorkflowOrchestrator.cancel e actor reason input.readings =
      .ok (some (e', records)) → Transaction requests input e e'
  | terminal {e' request records} : applyTerminal e request input.readings = .ok (some (e', records)) →
      Transaction requests input e e'
  | begin {e' stepId} : continueCompensation e input.readings = .ok (.begin e' stepId) →
      Transaction requests input e e'
  | finish {e' records} : continueCompensation e input.readings = .ok (.finish e' records) →
      Transaction requests input e e'
  | release {e' stepId} : compensateStep e stepId (input.newId 0) (input.newId 1) input.readings.now =
      .ok (.done e') → Transaction requests input e e'
  | compensate {e' stepId q} : compensateStep e stepId (input.newId 0) (input.newId 1) input.readings.now =
      .ok (.start e' q) → Transaction requests input e e'
  | settleCompensation {e' stepId requestId dispatched} :
      WorkflowOrchestrator.settleCompensation e stepId requestId dispatched input.readings.now = .ok e' →
      Transaction requests input e e'

/-- Everything one committed frame can do to the stored executions. -/
inductive ExecutionStep (input : Input) (frame : Frame) (s s' : State) : Prop
  | same : s'.db.executions = s.db.executions → ExecutionStep input frame s s'
  | inserts {command e db} : frame = .createExecution command →
      startExecution command input.newId input.readings.now = .ok e → s.db.addExecution e = .ok db →
      s'.db.executions = s.db.executions.put e → ExecutionStep input frame s s'
  | commits {e e'} : s.db.executions.get e.id = some e → Transaction s.db.requests.get input e e' →
      s'.db.executions = s.db.executions.put e' → ExecutionStep input frame s s'

variable {settings : Settings} {input : Input} {s s' : State} {frame : Frame} {pushed : List Frame}
theorem WorkflowStep.executionStep (step : WorkflowStep input s frame s' pushed) :
    ExecutionStep input frame s s' := by
  cases step with
  | inserted started added =>
    obtain ⟨_, _, _, updated⟩ := Database.addExecution_ok added
    exact .inserts rfl started added (by rw [updated]; rfl)
  | claimed stored => exact .commits stored .claim rfl
  | halted stored decided => exact .commits stored (.advance decided) rfl
  | advanced stored decided => exact .commits stored (.advance decided) rfl
  | refreshed stored decided => exact .commits stored (.refresh decided) rfl
  | sent stored decided _ created => exact .commits stored (.start decided) (State.created_writes created).2.1
  | settled stored decided => exact .commits stored (.settleForward decided) rfl
  | timedOut stored decided => exact .commits stored (.expire decided) rfl
  | cancelled stored decided => exact .commits stored (.cancel decided) rfl
  | applied stored decided => exact .commits stored (.terminal decided) rfl
  | begun stored decided => exact .commits stored (.begin decided) rfl
  | unwound stored decided => exact .commits stored (.finish decided) rfl
  | released stored decided => exact .commits stored (.release decided) rfl
  | undone stored decided _ created => exact .commits stored (.compensate decided) (State.created_writes created).2.1
  | compensated stored decided => exact .commits stored (.settleCompensation decided) rfl
  | _ => exact .same rfl

/-- Every committed frame leaves the stored executions alone, inserts a new
one, or commits one transaction. -/
theorem Frame.executionStep (run : frame.exec settings input s = .ok (s', pushed)) :
    ExecutionStep input frame s s' := by
  by_cases workflow : frame.isWorkflow = true
  · exact (workflowStep workflow run).executionStep
  · exact .same (workflowsKept workflow run).executions

end IntegrationOrchestrator
