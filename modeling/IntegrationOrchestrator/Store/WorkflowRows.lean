import IntegrationOrchestrator.Domain.ValueObjects
import IntegrationOrchestrator.Domain.Workflow
import IntegrationOrchestrator.Foundation.Table

namespace IntegrationOrchestrator

/-- A row of `workflow_executions`. The steps are rows of their own table. -/
structure WorkflowExecutionRow where
  id : UUID
  definitionId : UUID
  definitionName : String
  definitionVersion : Int
  status : WorkflowStatus
  correlationId : String
  idempotencyKey : Option String
  ownerSubject : Option String
  inputPayload : Payload
  manualReviewReason : Option String
  version : Int
  claimLeaseUntil : Option Instant
  deadlineAt : Option Instant
  cancelReason : Option String
  deadlineProcessedAt : Option Instant
  createdAt : Instant
  updatedAt : Instant
  completedAt : Option Instant

def workflowExecutionToRow (e : WorkflowExecution) : WorkflowExecutionRow :=
  { id := e.id, definitionId := e.definitionId, definitionName := e.definitionName
    definitionVersion := e.definitionVersion, status := e.status, correlationId := e.correlationId
    idempotencyKey := e.idempotencyKey, ownerSubject := e.ownerSubject, inputPayload := e.inputPayload
    manualReviewReason := e.manualReviewReason, version := e.version, claimLeaseUntil := e.claimLeaseUntil
    deadlineAt := e.deadlineAt, cancelReason := e.cancelReason, deadlineProcessedAt := e.deadlineProcessedAt
    createdAt := e.createdAt, updatedAt := e.updatedAt, completedAt := e.completedAt }

def workflowExecutionToDomain (row : WorkflowExecutionRow) (steps : List WorkflowStepExecution) :
    WorkflowExecution :=
  { id := row.id, definitionId := row.definitionId, definitionName := row.definitionName
    definitionVersion := row.definitionVersion, status := row.status, correlationId := row.correlationId
    idempotencyKey := row.idempotencyKey, inputPayload := row.inputPayload, steps := steps
    createdAt := row.createdAt, updatedAt := row.updatedAt, completedAt := row.completedAt
    manualReviewReason := row.manualReviewReason, version := row.version, ownerSubject := row.ownerSubject
    claimLeaseUntil := row.claimLeaseUntil, deadlineAt := row.deadlineAt, cancelReason := row.cancelReason
    deadlineProcessedAt := row.deadlineProcessedAt }

/-- The two tables of `SqlWorkflowExecutionRepository`. A step row has the
columns of the step. -/
structure WorkflowTables where
  executions : Table WorkflowExecutionRow.id := .empty
  steps : Table WorkflowStepExecution.id := .empty

namespace WorkflowTables

def add (t : WorkflowTables) (e : WorkflowExecution) : WorkflowTables :=
  { executions := t.executions.put (workflowExecutionToRow e)
    steps := e.steps.foldl Table.put t.steps }

/-- `_load`. -/
def load (t : WorkflowTables) (executionId : UUID) : Option WorkflowExecution :=
  (t.executions.get executionId).map fun row =>
    workflowExecutionToDomain row (t.steps.rows.filter (·.workflowExecutionId = executionId))

/-- The columns of the execution row that `update` writes. -/
def writtenExecution (row : WorkflowExecutionRow) (e : WorkflowExecution) : WorkflowExecutionRow :=
  { row with
    status := e.status
    manualReviewReason := e.manualReviewReason
    ownerSubject := e.ownerSubject
    claimLeaseUntil := e.claimLeaseUntil
    deadlineAt := e.deadlineAt
    cancelReason := e.cancelReason
    deadlineProcessedAt := e.deadlineProcessedAt
    updatedAt := e.updatedAt
    completedAt := e.completedAt
    version := max e.version (row.version + 1) }

/-- The columns of a step row that `update` writes. -/
def writtenStep (row step : WorkflowStepExecution) : WorkflowStepExecution :=
  { row with
    status := step.status
    attemptCount := step.attemptCount
    integrationRequestId := step.integrationRequestId
    compensationRequestId := step.compensationRequestId
    outputPayload := step.outputPayload
    errorCode := step.errorCode
    errorMessage := step.errorMessage
    updatedAt := step.updatedAt
    completedAt := step.completedAt
    version := max step.version (row.version + 1) }

/-- The body of the loop of `update`: the row that takes the place of `old`. -/
def updatedStep : Option WorkflowStepExecution → WorkflowStepExecution → Except Exn WorkflowStepExecution
  | none, step => .ok step
  | some old, step =>
    if old.version > step.version then .error (.concurrencyConflict (uuidText step.id))
    else .ok (writtenStep old step)

/-- `update`, on the rows it locks. -/
def update (t : WorkflowTables) (e : WorkflowExecution) : Except Exn WorkflowTables :=
  match t.executions.get e.id with
  | none => .error (.conflict "workflow execution not found")
  | some row =>
    if row.version > e.version then .error (.concurrencyConflict (uuidText e.id))
    else match Table.putAll updatedStep e.steps t.steps with
      | .error raised => .error raised
      | .ok steps => .ok { executions := t.executions.put (writtenExecution row e), steps := steps }

/-- A transaction that raises is rolled back. -/
def transaction (t : WorkflowTables) (body : WorkflowTables → Except Exn WorkflowTables) :
    WorkflowTables × Option Exn :=
  match body t with
  | .ok t' => (t', none)
  | .error raised => (t, some raised)

variable {t t' : WorkflowTables} {e : WorkflowExecution} {row : WorkflowExecutionRow}

theorem updatedStep_id {steps : Table WorkflowStepExecution.id} {step row : WorkflowStepExecution}
    (run : updatedStep (steps.get step.id) step = .ok row) : row.id = step.id := by
  cases stored : steps.get step.id with
  | none =>
    rw [stored] at run
    cases run
    rfl
  | some old =>
    rw [stored, updatedStep] at run
    split at run
    · cases run
    · cases run
      have same : old.id = step.id := Table.get_key stored
      exact same

theorem updatedStep_ok_iff {old : Option WorkflowStepExecution} {step : WorkflowStepExecution} :
    (∃ row, updatedStep old step = .ok row) ↔ ∀ stored ∈ old, stored.version ≤ step.version := by
  cases old with
  | none => simp [updatedStep]
  | some stored =>
    by_cases behind : stored.version > step.version
    · simp [updatedStep, behind]
    · simp [updatedStep, behind, not_lt.mp behind]

/-- An execution is written exactly if neither its row nor a row of its steps
is at a later version. -/
theorem update_ok_iff (stored : t.executions.get e.id = some row) (distinct : (e.steps.map (·.id)).Nodup) :
    (∃ t', t.update e = .ok t') ↔ row.version ≤ e.version ∧
      ∀ step ∈ e.steps, ∀ old ∈ t.steps.get step.id, old.version ≤ step.version := by
  simp only [← updatedStep_ok_iff]
  rw [← Table.putAll_ok_iff updatedStep_id distinct]
  unfold update
  rw [stored]
  by_cases behind : row.version > e.version
  · simp [behind]
  · cases batch : Table.putAll updatedStep e.steps t.steps with
    | error raised => simp [behind]
    | ok steps => simp [behind, not_lt.mp behind]

/-- A refused write is refused as stale. -/
theorem update_error {raised : Exn} (stored : t.executions.get e.id = some row)
    (distinct : (e.steps.map (·.id)).Nodup) (run : t.update e = .error raised) :
    ∃ aggregateId, raised = .concurrencyConflict aggregateId := by
  unfold update at run
  rw [stored] at run
  dsimp only at run
  split at run
  · exact ⟨_, (Except.error.inj run).symm⟩
  · split at run
    · rename_i batch
      obtain ⟨step, member, refused⟩ := Table.putAll_error updatedStep_id distinct batch
      cases found : t.steps.get step.id with
      | none => simp [found, updatedStep] at refused
      | some old =>
        rw [found, updatedStep] at refused
        split at refused
        · exact ⟨_, (Except.error.inj run).symm.trans (Except.error.inj refused).symm⟩
        · cases refused
    · cases run

/-- What a write leaves: the row of the execution, the rows of its steps, and
every other row as it was. -/
theorem update_rows (stored : t.executions.get e.id = some row) (distinct : (e.steps.map (·.id)).Nodup)
    (run : t.update e = .ok t') :
    t'.executions = t.executions.put (writtenExecution row e) ∧
      (∀ step ∈ e.steps, ∀ old ∈ t.steps.get step.id, t'.steps.get step.id = some (writtenStep old step)) ∧
      ∀ stepId ∉ e.steps.map (·.id), t'.steps.get stepId = t.steps.get stepId := by
  unfold update at run
  rw [stored] at run
  dsimp only at run
  split at run
  · cases run
  · split at run
    · cases run
    · rename_i steps batch
      cases run
      refine ⟨rfl, fun step member old found => ?_, fun stepId outside =>
        Table.get_putAll_of_notMem updatedStep_id batch outside⟩
      obtain ⟨written, computed, after⟩ := Table.get_putAll_of_mem updatedStep_id distinct batch member
      rw [Option.mem_def.mp found, updatedStep] at computed
      split at computed
      · cases computed
      · cases computed
        exact after

theorem update_stepOrder (distinct : (e.steps.map (·.id)).Nodup)
    (known : ∀ step ∈ e.steps, ∃ old, t.steps.get step.id = some old) (run : t.update e = .ok t') :
    t'.steps.rows.map (·.id) = t.steps.rows.map (·.id) := by
  unfold update at run
  split at run
  · cases run
  · split at run
    · cases run
    · split at run
      · cases run
      · rename_i steps batch
        cases run
        exact Table.keys_putAll updatedStep_id distinct known batch

end WorkflowTables

end IntegrationOrchestrator
