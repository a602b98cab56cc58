import IntegrationOrchestrator.Store.ReceiptRows
import IntegrationOrchestrator.Store.RequestColumns
import IntegrationOrchestrator.Store.WorkflowRefinement

namespace IntegrationOrchestrator

open Mutator

/-! ### Executions changed in place -/

/-- The loop of `promote_ready_steps` on the step objects. An exception ends
it, and the steps before it stay promoted. -/
def WorkflowExecution.promotedSteps (e : WorkflowExecution) (now : Instant) :
    List WorkflowStepExecution → List WorkflowStepExecution
  | [] => []
  | step :: rest =>
    if step.status = .pending then
      match e.dependenciesSatisfied step with
      | .error _ => step :: rest
      | .ok true => after (WorkflowStepExecution.markReady now) step :: e.promotedSteps now rest
      | .ok false => step :: e.promotedSteps now rest
    else step :: e.promotedSteps now rest

/-- An operation on the step with an id. -/
def StepOperation.replaces (operation : StepOperation) (stepId : UUID) (step : WorkflowStepExecution) :
    Option WorkflowStepExecution :=
  if step.id = stepId then some (Mutator.after operation.method step) else none

/-- The execution after an operation; a caller that catches its exception
keeps what was written before it. -/
def ExecutionOperation.after (e : WorkflowExecution) : ExecutionOperation → WorkflowExecution
  | .transitionTo status now => Mutator.after (WorkflowExecution.transitionTo status now) e
  | .promoteReadySteps now => { e with steps := e.promotedSteps now e.steps }
  | .onStep stepId operation => { e with steps := e.steps.replaceF (operation.replaces stepId) }
  | .assignManualReviewReason reason => { e with manualReviewReason := reason }
  | .assignCancelReason reason => { e with cancelReason := reason }
  | .assignDeadlineProcessedAt processedAt => { e with deadlineProcessedAt := processedAt }

/-- The execution after any operations, failing ones included. -/
def WorkflowExecution.life (e : WorkflowExecution) (operations : List ExecutionOperation) : WorkflowExecution :=
  operations.foldl ExecutionOperation.after e

namespace WorkflowStepExecution

variable {step : WorkflowStepExecution} {status : WorkflowStepStatus} {now : Instant}

theorem later_transitionTo : Later step (after (transitionTo status now) step) := by
  unfold transitionTo
  rw [after_bind _ (call_get step)]
  split
  · rw [after_of_call (call_set ..)]
    exact ⟨rfl, by simp [moved]⟩
  · rw [after_throw]
    exact .refl step

theorem later_write {write : WorkflowStepExecution → WorkflowStepExecution} (kept : Later step (write step)) :
    Later step (after (do modify write; transitionTo status now : Mutator Exn WorkflowStepExecution Unit) step) := by
  rw [after_bind _ (call_modify write step)]
  exact kept.trans later_transitionTo

/-- What an operation leaves of a step, whether or not it raised. -/
theorem later_after (operation : StepOperation) : Later step (after operation.method step) := by
  cases operation with
  | transitionTo status now => exact later_transitionTo
  | markReady now => exact later_transitionTo
  | markRunning now => exact later_write ⟨rfl, le_rfl⟩
  | markWaiting now => exact later_transitionTo
  | markSucceeded now requestId output => exact later_write ⟨rfl, le_rfl⟩
  | markFailed now code message => exact later_write ⟨rfl, le_rfl⟩
  | beginCompensation now => exact later_transitionTo
  | markCompensated now requestId => exact later_write ⟨rfl, le_rfl⟩
  | assignRequest requestId => exact ⟨rfl, le_rfl⟩
  | assignCompensation requestId => exact ⟨rfl, le_rfl⟩

end WorkflowStepExecution

namespace WorkflowExecution

variable {e : WorkflowExecution}

theorem later_promotedSteps {now : Instant} (steps : List WorkflowStepExecution) :
    List.Forall₂ WorkflowStepExecution.Later steps (e.promotedSteps now steps) := by
  induction steps with
  | nil => exact .nil
  | cons step rest ih =>
    unfold promotedSteps
    split
    · split
      · exact List.forall₂_same.mpr fun step _ => .refl step
      · exact .cons WorkflowStepExecution.later_transitionTo ih
      · exact .cons (.refl step) ih
    · exact .cons (.refl step) ih

theorem later_replaced {stepId : UUID} {operation : StepOperation} (steps : List WorkflowStepExecution) :
    List.Forall₂ WorkflowStepExecution.Later steps (steps.replaceF (operation.replaces stepId)) := by
  induction steps with
  | nil => exact .nil
  | cons step rest ih =>
    by_cases found : step.id = stepId
    · simp only [List.replaceF, StepOperation.replaces, found, if_true]
      exact .cons (WorkflowStepExecution.later_after operation) (List.forall₂_same.mpr fun step _ => .refl step)
    · simp only [List.replaceF, StepOperation.replaces, found, if_false]
      exact .cons (.refl step) ih

theorem later_after (operation : ExecutionOperation) (e : WorkflowExecution) : Later e (operation.after e) := by
  have same : List.Forall₂ WorkflowStepExecution.Later e.steps e.steps :=
    List.forall₂_same.mpr fun step _ => .refl step
  cases operation with
  | transitionTo status now =>
    simp only [ExecutionOperation.after, transitionTo]
    rw [after_bind _ (call_get e)]
    split
    · rw [after_of_call (call_set ..)]
      exact ⟨rfl, by simp [moved], same⟩
    · rw [after_throw]
      exact .refl e
  | promoteReadySteps now => exact ⟨rfl, le_rfl, later_promotedSteps e.steps⟩
  | onStep stepId operation => exact ⟨rfl, le_rfl, later_replaced e.steps⟩
  | assignManualReviewReason reason => exact ⟨rfl, le_rfl, same⟩
  | assignCancelReason reason => exact ⟨rfl, le_rfl, same⟩
  | assignDeadlineProcessedAt processedAt => exact ⟨rfl, le_rfl, same⟩

theorem later_life (operations : List ExecutionOperation) (e : WorkflowExecution) : Later e (e.life operations) := by
  induction operations generalizing e with
  | nil => exact .refl e
  | cons operation rest ih => exact (later_after operation e).trans (ih _)

end WorkflowExecution

namespace WorkflowTables

variable {t t' : WorkflowTables} {e : WorkflowExecution}

/-- The keys of the two tables admit the rows of a new execution. -/
structure Admits (t : WorkflowTables) (e : WorkflowExecution) : Prop where
  unreferenced : ∀ row ∈ t.steps.rows, row.workflowExecutionId ≠ e.id
  own : ∀ step ∈ e.steps, step.workflowExecutionId = e.id
  distinct : (e.steps.map (·.id)).Nodup
  fresh : ∀ step ∈ e.steps, step.id ∉ t.steps.rows.map (·.id)

/-- An execution loads back as it was stored. -/
theorem load_add (admits : t.Admits e) : (t.add e).load e.id = some e := by
  have rows : (t.add e).steps.rows = t.steps.rows ++ e.steps := Table.rows_foldl_put admits.distinct admits.fresh
  have others : t.steps.rows.filter (fun row => row.workflowExecutionId = e.id) = [] :=
    List.filter_eq_nil_iff.mpr fun row member => by simpa using admits.unreferenced row member
  have steps : e.steps.filter (fun row => row.workflowExecutionId = e.id) = e.steps :=
    List.filter_eq_self.mpr fun step member => by simpa using admits.own step member
  have stored : (t.add e).executions.get e.id = some (workflowExecutionToRow e) :=
    Table.get_put_self t.executions (workflowExecutionToRow e)
  simp only [load, stored, Option.map_some, rows, List.filter_append, others, steps, List.nil_append]
  rfl

/-- Writing an execution that was stored before is not refused. It loads back
as it is, at the versions that the repository gives its rows, and no other
row changes. -/
theorem update_add (admits : t.Admits e) (operations : List ExecutionOperation) :
    ∃ t', (t.add e).update (e.life operations) = .ok t' ∧
      (t'.load e.id).map (·.unversioned) = some (e.life operations).unversioned ∧
      t'.Advanced e (e.life operations) ∧
      (∀ executionId, executionId ≠ e.id → t'.executions.get executionId = (t.add e).executions.get executionId) ∧
      ∀ stepId ∉ e.steps.map (·.id), t'.steps.get stepId = (t.add e).steps.get stepId := by
  have later := WorkflowExecution.later_life operations e
  have loaded := load_add admits
  obtain ⟨t', run, advanced⟩ := update_advances loaded .refl later
  obtain ⟨row, stored, _⟩ := Option.map_eq_some_iff.mp loaded
  have key : row.id = e.id := Table.get_key stored
  have distinct : ((e.life operations).steps.map (·.id)).Nodup := later.stepIds ▸ admits.distinct
  obtain ⟨executions, _, others⟩ := update_rows (later.id ▸ stored) distinct run
  refine ⟨t', run, load_update loaded later run, advanced, fun executionId other => ?_, fun stepId outside => ?_⟩
  · rw [executions, Table.get_put]
    exact if_neg fun same => other (same.trans key)
  · exact others stepId (later.stepIds ▸ outside)

end WorkflowTables

namespace Sample

def keyedRequest : KeyedRequest := { storedRequest with idempotencyKey := some ⟨"order-00001", by decide⟩ }

def storedReceipt : WebhookReceipt :=
  { id := 300, provider := provider, eventId := "event-1", eventType := "operation.failed", payload := []
    signatureMetadata := { scheme := "hmac", verified := true }, receivedAt := 0 }

/-- The second operation raises: a request that is validated is not begun again. -/
def validatedTwice : List RequestOperation := [.beginValidation 1, .beginValidation 2, .touch 3]

/-- The step cannot be marked ready any more; its caller goes on. -/
def readyTooLate : List ExecutionOperation := .onStep 2 (.markReady 1) :: waits

end Sample

end IntegrationOrchestrator
