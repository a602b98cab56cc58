import IntegrationOrchestrator.Journal.WorkflowRecords
import IntegrationOrchestrator.System.WorkflowSteps

namespace IntegrationOrchestrator

open WorkflowExecution WorkflowOrchestrator

variable {settings : Settings} {input : Input} {s s' : State} {frame : Frame} {pushed : List Frame}
  {e e' : WorkflowExecution} {q : IntegrationRequest} {c : Config} {executionId : UUID}

/-- The part of an outbox event that tells which change it announces. -/
structure WorkflowEvent where
  aggregateId : UUID
  eventType : String
  status : WorkflowStatus
  deriving DecidableEq

/-- The outbox row `_record` writes beside an audit row. -/
def WorkflowRecord.event (row : WorkflowRecord) : WorkflowEvent :=
  { aggregateId := row.executionId, eventType := "workflow.execution." ++ row.new.value ++ ".v1", status := row.new }

namespace Database

/-- The audit rows of an execution that record a status change, in commit
order. -/
def workflowChanges (db : Database) (executionId : UUID) : List WorkflowRecord :=
  db.workflowRecords.filter fun row => row.executionId = executionId && row.changes

/-- Every outbox event ever written about an execution. -/
def workflowEvents (db : Database) (executionId : UUID) : List WorkflowEvent :=
  (db.workflowRecords.filter (·.executionId = executionId)).map WorkflowRecord.event

/-- The history of an execution is a path from `created` to its status, and
the outbox announced every link of it. -/
def FaithfulWorkflow (db : Database) (e : WorkflowExecution) : Prop :=
  WorkflowPath .created (db.workflowChanges e.id) e.status ∧
    ((db.workflowChanges e.id).map WorkflowRecord.event).Sublist (db.workflowEvents e.id)

end Database

/-- The frame would commit a status change of an execution that it does not
record, or record one that it does not make: a pass over a queued execution, a
settled step that lets a waiting execution run again, a compensation that did
not succeed, and the failure of a compensation whose execution is no longer
being unwound. -/
def Frame.untold (input : Input) (s : State) : Frame → Bool
  | .advance executionId => (s.db.executions.get executionId).any fun e =>
    match WorkflowOrchestrator.advance e s.db.requests.get input.readings with
    | .ok (.commit _ _) => e.status = .queued ||
      resumesWith e (e.steps.mapM (resumeWaitingStep s.db.requests.get input.readings.now))
    | _ => false
  | .advanceFinish executionId => (s.db.executions.get executionId).any resumes
  | .settleForward executionId stepId requestId dispatched => (s.db.executions.get executionId).any fun e =>
    resumesWith e (Rows.modifyFirst .stopIteration (·.id = stepId)
      (forwardStep requestId dispatched input.readings.now) e.steps)
  | .settleTerminal executionId request => (s.db.executions.get executionId).any fun e =>
    terminalUntold e request input.readings.now
  | .settleCompensation _ _ _ dispatched => dispatched.status ∉ [.succeeded, .pending]
  | _ => false

/-- Everything one committed frame does to the executions and to the rows
about them. -/
inductive Chronicles (frame : Frame) (input : Input) (s s' : State) : Prop
  | kept : s.WorkflowsKept s' → frame.untold input s = false → Chronicles frame input s s'
  | started {e : WorkflowExecution} {actor : Actor} {at' : Instant} : s.db.executions.get e.id = none →
      e.status = .queued → s'.db.executions = s.db.executions.put e →
      s'.db.workflowRecords = s.db.workflowRecords ++ [record e .workflowStarted actor .created .queued at'] →
      frame.untold input s = false → Chronicles frame input s s'
  | committed {e e' : WorkflowExecution} {rows : List WorkflowRecord} : s.db.executions.get e.id = some e →
      Tells e e' rows (frame.untold input s) → s'.db.executions = s.db.executions.put e' →
      s'.db.workflowRecords = s.db.workflowRecords ++ rows → Chronicles frame input s s'

theorem WorkflowOrchestrator.startExecution_queued {command : StartCommand} {newId : Nat → UUID} {now : Instant}
    (run : startExecution command newId now = .ok e) : e.status = .queued := by
  obtain ⟨steps, _, run⟩ := Rows.bind_eq_ok.mp run
  obtain ⟨queued, moved, promoted⟩ := Rows.bind_eq_ok.mp run
  obtain ⟨_, rfl⟩ := perform_transitionTo_ok moved
  exact (promoteReadySteps_same promoted).2

/-- A frame that commits one transaction on a stored execution. -/
theorem Chronicles.saved {records : List WorkflowRecord} (stored : s.db.executions.get e.id = some e)
    (tells : Tells e e' records (frame.untold input s)) : Chronicles frame input s (s.savedExecution e' records) :=
  .committed stored tells rfl rfl

/-- A frame that stores the request of a step with the step's link to it. -/
theorem Chronicles.created {role : Role} {stepId : UUID} (stored : s.db.executions.get e.id = some e)
    (run : s.created role stepId e' q = .ok s') (id : e'.id = e.id) (status : e'.status = e.status)
    (told : frame.untold input s = false) : Chronicles frame input s s' := by
  obtain ⟨_, executions, _, _, records, _⟩ := State.created_writes run
  have tells : Tells e e' [] (frame.untold input s) := told ▸ .same id status
  exact .committed stored tells executions (by rw [records, List.append_nil])

theorem WorkflowStep.chronicles (step : WorkflowStep input s frame s' pushed) : Chronicles frame input s s' := by
  cases step with
  | inserted started added =>
    have queued := startExecution_queued started
    obtain ⟨fresh, _, _, rfl⟩ := Database.addExecution_ok added
    exact .started fresh queued rfl (by rw [queued]; rfl) rfl
  | claimed stored => exact .saved stored (.same rfl rfl)
  | stopped stored decided => exact .kept ⟨rfl, rfl⟩ (by simp [Frame.untold, stored, decided])
  | overdue stored decided => exact .kept ⟨rfl, rfl⟩ (by simp [Frame.untold, stored, decided])
  | halted stored decided =>
    exact .saved stored (by simpa only [Frame.untold, stored, decided, Option.any_some] using advance_tells decided)
  | advanced stored decided =>
    exact .saved stored (by simpa only [Frame.untold, stored, decided, Option.any_some] using advance_tells decided)
  | refreshed stored decided =>
    exact .saved stored (by
      simpa only [Frame.untold, stored, Option.any_some] using refreshExecutionStatus_tells decided)
  | sent stored decided _ created =>
    obtain ⟨step, _, _, _, _, _, _, _, swap⟩ := runForwardStep_start decided
    exact .created stored created (by rw [swap.rest]) (by rw [swap.rest]) rfl
  | settled stored decided =>
    exact .saved stored (by simpa only [Frame.untold, stored, Option.any_some] using settleForward_tells decided)
  | timedOut stored decided => exact .saved stored (enforceDeadline_tells decided)
  | cancelled stored decided => exact .saved stored (cancel_tells decided)
  | unrelated stored decided =>
    refine .kept ⟨rfl, rfl⟩ ?_
    -- no step is linked to the request
    unfold applyTerminal at decided
    split at decided
    · rename_i unlinked
      simp [Frame.untold, stored, terminalUntold, unlinked]
    · obtain ⟨_, _, decided⟩ := Rows.bind_eq_ok.mp decided
      obtain ⟨_, _, decided⟩ := Rows.bind_eq_ok.mp decided
      obtain ⟨_, _, done⟩ := Rows.bind_eq_ok.mp decided
      cases done
  | applied stored decided =>
    exact .saved stored (by simpa only [Frame.untold, stored, Option.any_some] using applyTerminal_tells decided)
  | begun stored decided => exact .saved stored (continueCompensation_begin_tells decided)
  | unwound stored decided => exact .saved stored (continueCompensation_finish_tells decided)
  | released stored decided => exact .saved stored (compensateStep_tells decided)
  | undone stored decided _ created =>
    obtain ⟨step, _, _, _, _, _, swap⟩ := compensateStep_start decided
    exact .created stored created (by rw [swap.rest]) (by rw [swap.rest]) rfl
  | compensated stored decided => exact .saved stored (settleCompensation_tells decided)
  | _ => exact .kept ⟨rfl, rfl⟩ rfl

theorem Frame.chronicles (run : frame.exec settings input s = .ok (s', pushed)) : Chronicles frame input s s' := by
  by_cases workflow : frame.isWorkflow = true
  · exact (workflowStep workflow run).chronicles
  · refine .kept (workflowsKept workflow run) ?_
    cases frame <;> first | rfl | exact absurd rfl workflow


/-- The path of an execution, without the events, which every row brings. -/
theorem faithfulWorkflow_iff {db : Database} :
    db.FaithfulWorkflow e ↔ WorkflowPath .created (db.workflowChanges e.id) e.status := by
  refine ⟨And.left, fun path => ⟨path, List.Sublist.map _ ?_⟩⟩
  have smaller : db.workflowChanges e.id =
      (db.workflowRecords.filter (·.executionId = e.id)).filter (·.changes) := by
    rw [List.filter_filter]
    exact List.filter_congr fun row _ => Bool.and_comm _ _
  rw [smaller]
  exact List.filter_sublist

/-- Every row is about a stored execution. -/
def State.RowsStored (s : State) : Prop :=
  ∀ row ∈ s.db.workflowRecords, ∃ e, s.db.executions.get row.executionId = some e

def State.Faithful (s : State) : Prop :=
  ∀ executionId e, s.db.executions.get executionId = some e →
    WorkflowPath .created (s.db.workflowChanges executionId) e.status

theorem workflowChanges_append {rows : List WorkflowRecord}
    (records : s'.db.workflowRecords = s.db.workflowRecords ++ rows) (executionId : UUID) :
    s'.db.workflowChanges executionId = s.db.workflowChanges executionId ++
      rows.filter fun row => row.executionId = executionId && row.changes := by
  simp only [Database.workflowChanges, records, List.filter_append]

theorem filter_about {rows : List WorkflowRecord} (about : ∀ row ∈ rows, row.executionId = e.id)
    (executionId : UUID) : rows.filter (fun row => row.executionId = executionId && row.changes) =
      if executionId = e.id then rows.filter (·.changes) else [] := by
  split
  · rename_i same
    refine List.filter_congr fun row member => ?_
    simp [about row member, same]
  · rename_i other
    refine List.filter_eq_nil_iff.mpr fun row member => ?_
    simp [about row member, Ne.symm other]

namespace Chronicles

theorem rowsStored (step : Chronicles frame input s s') (held : s.RowsStored) : s'.RowsStored := by
  have present : ∀ (executionId : UUID) (old new : WorkflowExecution), s.db.executions.get executionId = some old →
      ∃ e, (s.db.executions.put new).get executionId = some e := by
    intro executionId old new found
    rw [Table.get_put]
    split
    · exact ⟨new, rfl⟩
    · exact ⟨old, found⟩
  cases step with
  | kept kept _ =>
    unfold State.RowsStored
    rw [kept.records, kept.executions]
    exact held
  | @started e _ _ _ _ executions records =>
    unfold State.RowsStored
    rw [records, executions]
    refine List.forall_mem_append.mpr ⟨fun row member => ?_, fun row member => ?_⟩
    · obtain ⟨old, found⟩ := held row member
      exact present _ old e found
    · cases List.mem_singleton.mp member
      exact ⟨e, Table.get_put_self _ _⟩
  | @committed e e' rows stored tells executions records =>
    unfold State.RowsStored
    rw [records, executions]
    refine List.forall_mem_append.mpr ⟨fun row member => ?_, fun row member => ?_⟩
    · obtain ⟨old, found⟩ := held row member
      exact present _ old e' found
    · rw [tells.about row member]
      exact present _ e e' stored

/-- A committed frame keeps the histories faithful exactly if it tells. -/
theorem faithful_iff (step : Chronicles frame input s s') (stored : s.RowsStored) (faithful : s.Faithful) :
    s'.Faithful ↔ frame.untold input s = false := by
  cases step with
  | kept kept told =>
    refine ⟨fun _ => told, fun _ executionId e found => ?_⟩
    rw [Database.workflowChanges, kept.records]
    exact faithful executionId e (kept.executions ▸ found)
  | @started e actor at' fresh queued executions records told =>
    refine ⟨fun _ => told, fun _ executionId other found => ?_⟩
    have about : ∀ row ∈ [record e .workflowStarted actor .created .queued at'], row.executionId = e.id := by
      intro row member
      cases List.mem_singleton.mp member
      rfl
    rw [executions, Table.get_put] at found
    rw [workflowChanges_append records, filter_about about]
    split at found
    · rename_i same
      cases found
      have unborn : s.db.workflowChanges executionId = [] := by
        refine List.filter_eq_nil_iff.mpr fun row member => ?_
        simp only [Bool.and_eq_true, decide_eq_true_eq, not_and]
        intro here
        obtain ⟨old, present⟩ := stored row member
        rw [here, same, fresh] at present
        cases present
      rw [if_pos same, unborn, List.filter_singleton, record_changes (by simp), queued]
      exact ⟨rfl, rfl, rfl⟩
    · rename_i differ
      rw [if_neg differ, List.append_nil]
      exact faithful executionId other found
  | @committed e e' rows here tells executions records =>
    have path := faithful e.id e here
    rw [← tells.path]
    constructor
    · intro after
      have found : s'.db.executions.get e.id = some e' := by
        rw [executions, Table.get_put, if_pos tells.id.symm]
      have whole := after e.id e' found
      rw [workflowChanges_append records, filter_about tells.about, if_pos rfl] at whole
      obtain ⟨middle, before, rest⟩ := Trail.path_append_iff.mp whole
      rw [path.unique before]
      exact rest
    · intro rest executionId other found
      rw [executions, Table.get_put, tells.id] at found
      rw [workflowChanges_append records, filter_about tells.about]
      split at found
      · rename_i same
        cases found
        subst same
        rw [if_pos rfl]
        exact path.append rest
      · rename_i differ
        rw [if_neg differ, List.append_nil]
        exact faithful executionId other found

end Chronicles

theorem reachable_rowsStored {allowed : Restriction} (reach : ReachableUnder settings allowed c) :
    c.state.RowsStored := by
  refine reach.state_invariant State.RowsStored ?_ ?_
  · intro row member
    cases member
  · intro c task input frame rest state pushed _ held _ _ ran
    exact (Frame.chronicles ran).rowsStored held

/-- The runs whose every frame records the status changes it makes. -/
def telling : Restriction := Restriction.frames fun c input frame => !frame.untold input c.state

instance (c : Config) (a : Action) : Decidable (telling c a) :=
  inferInstanceAs (Decidable (Restriction.frames _ c a))

theorem reachable_faithful (reach : ReachableUnder settings telling c) : c.state.Faithful := by
  refine reach.state_invariant State.Faithful ?_ ?_
  · intro executionId e found
    simp [Config.initial] at found
  · intro c task input frame rest state pushed reached faithful allowed atTask ran
    have told : frame.untold input c.state = false := by simpa using Restriction.frames_run allowed atTask
    exact ((Frame.chronicles ran).faithful_iff (reachable_rowsStored reached) faithful).mpr told

theorem faithful_workflows_iff : (∀ e ∈ s.db.executions.rows, s.db.FaithfulWorkflow e) ↔ s.Faithful := by
  constructor
  · intro all executionId e found
    have id : e.id = executionId := Table.get_key found
    subst id
    exact faithfulWorkflow_iff.mp (all e (Table.mem_of_get found))
  · intro faithful e member
    exact faithfulWorkflow_iff.mpr (faithful e.id e (Table.mem_rows_iff.mp member))

/-- In every run whose frames all tell, the history of every stored execution
is faithful; and a frame that does not tell spoils, from any reachable state
whose histories are faithful, the history of some execution. -/
theorem workflow_history_faithful (settings : Settings) :
    (∀ c, ReachableUnder settings telling c → ∀ e ∈ c.state.db.executions.rows, c.state.db.FaithfulWorkflow e) ∧
    ∀ (c : Config) (frame : Frame) (input : Input) (s : State) (pushed : List Frame), Reachable settings c →
      (∀ e ∈ c.state.db.executions.rows, c.state.db.FaithfulWorkflow e) →
      frame.exec settings input c.state = .ok (s, pushed) → frame.untold input c.state = true →
      ∃ e ∈ s.db.executions.rows, ¬ s.db.FaithfulWorkflow e := by
  constructor
  · intro c reach
    exact faithful_workflows_iff.mpr (reachable_faithful reach)
  · intro c frame input s pushed reach faithful ran untold
    by_contra spared
    push Not at spared
    have told := ((Frame.chronicles ran).faithful_iff (reachable_rowsStored reach)
      (faithful_workflows_iff.mp faithful)).mp (faithful_workflows_iff.mp spared)
    rw [untold] at told
    cases told

/-- An execution that is queued, expires before any pass and is cancelled. -/
theorem workflow_history_faithful_expired :
    ∃ c e, ReachableUnder Sample.settings telling c ∧ c.state.db.executions.get 100 = some e ∧
      (c.state.db.workflowChanges 100).map WorkflowRecord.new = [.queued, .timedOut, .cancelled] ∧
      c.state.db.FaithfulWorkflow e := by
  obtain ⟨c, reach, found⟩ := reachableUnder_replay Sample.settings telling
    (.spawn (Sample.start [Sample.stage "only" []] (some 2)) :: Sample.work 0 1 100 2 ++ Sample.work 0 3 200 2)
    (fun (c : Config) => (c.state.db.executions.get 100).isSome &&
      (c.state.db.workflowChanges 100).map WorkflowRecord.new = [.queued, .timedOut, .cancelled]) (by decide +kernel)
  simp only [Bool.and_eq_true, decide_eq_true_eq, Option.isSome_iff_exists] at found
  obtain ⟨⟨e, stored⟩, changes⟩ := found
  exact ⟨c, e, reach, stored, changes,
    (workflow_history_faithful Sample.settings).1 c reach e (Table.mem_of_get stored)⟩

/-- The first pass over a workflow: it runs, and its history says that it is
queued. -/
theorem workflow_start_unrecorded :
    ∃ c e, Reachable Sample.settings c ∧ c.state.db.executions.get 100 = some e ∧ e.status = .running ∧
      (c.state.db.workflowChanges 100).map (fun row => (row.previous, row.new)) = [(some .created, .queued)] ∧
      ¬ c.state.db.FaithfulWorkflow e := by
  obtain ⟨c, reach, ⟨e, stored, running⟩, changes⟩ := reachable_replay Sample.settings
    (.spawn (Sample.start [Sample.stage "only" []] none) :: Sample.work 0 1 100 2 ++ Sample.work 0 2 200 1)
    (fun (c : Config) => (∃ e, c.state.db.executions.get 100 = some e ∧ e.status = .running) ∧
      (c.state.db.workflowChanges 100).map (fun row => (row.previous, row.new)) = [(some .created, .queued)])
    (by decide +kernel)
  refine ⟨c, e, reach, stored, running, changes, fun faithful => ?_⟩
  have id : e.id = 100 := Table.get_key stored
  have path := faithful.1
  rw [id, running] at path
  obtain ⟨row, only, pair⟩ := List.map_eq_singleton_iff.mp changes
  rw [only] at path
  have queued : row.new = .queued := congrArg Prod.snd pair
  exact absurd (queued.symm.trans path.2.2) (by simp)

end IntegrationOrchestrator
