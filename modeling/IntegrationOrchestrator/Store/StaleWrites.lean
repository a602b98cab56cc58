import IntegrationOrchestrator.Entities.StepOperations
import IntegrationOrchestrator.Store.WorkflowRows

namespace IntegrationOrchestrator

open Mutator

/-- The methods of an execution, those of its steps, and the attributes the
orchestrator assigns. -/
inductive ExecutionOperation where
  | transitionTo (status : WorkflowStatus) (now : Instant)
  | promoteReadySteps (now : Instant)
  | onStep (stepId : UUID) (operation : StepOperation)
  | assignManualReviewReason (reason : Option String)
  | assignCancelReason (reason : Option String)
  | assignDeadlineProcessedAt (processedAt : Option Instant)

def ExecutionOperation.apply (e : WorkflowExecution) : ExecutionOperation → Except Exn WorkflowExecution
  | .transitionTo status now => perform (WorkflowExecution.transitionTo status now) e
  | .promoteReadySteps now => e.promoteReadySteps now
  | .onStep stepId operation => e.onStep stepId operation.method
  | .assignManualReviewReason reason => .ok { e with manualReviewReason := reason }
  | .assignCancelReason reason => .ok { e with cancelReason := reason }
  | .assignDeadlineProcessedAt processedAt => .ok { e with deadlineProcessedAt := processedAt }

/-- What a writer makes of the execution it loaded. -/
def WorkflowExecution.mutated (e : WorkflowExecution) : List ExecutionOperation → Except Exn WorkflowExecution
  | [] => .ok e
  | operation :: rest => do (← operation.apply e).mutated rest

/-! ### What the operations keep -/

/-- The columns of a step that `update` does not write. -/
def WorkflowStepExecution.fixedColumns (step : WorkflowStepExecution) :=
  (step.id, step.workflowExecutionId, step.stepKey, step.provider, step.operationType, step.dependsOn,
    step.compensateOperation, step.waitForWebhook, step.maxAttempts, step.inputPayload, step.createdAt)

/-- The columns of an execution that `update` does not write. -/
def WorkflowExecution.fixedColumns (e : WorkflowExecution) :=
  (e.id, e.definitionId, e.definitionName, e.definitionVersion, e.correlationId, e.idempotencyKey,
    e.inputPayload, e.createdAt)

structure WorkflowStepExecution.Later (before after : WorkflowStepExecution) : Prop where
  fixed : after.fixedColumns = before.fixedColumns
  version : before.version ≤ after.version

structure WorkflowExecution.Later (before after : WorkflowExecution) : Prop where
  fixed : after.fixedColumns = before.fixedColumns
  version : before.version ≤ after.version
  steps : List.Forall₂ WorkflowStepExecution.Later before.steps after.steps

namespace WorkflowStepExecution

variable {a b c step step' : WorkflowStepExecution}

theorem Later.refl (step : WorkflowStepExecution) : Later step step := ⟨rfl, le_rfl⟩

theorem Later.trans (first : Later a b) (second : Later b c) : Later a c :=
  ⟨second.fixed.trans first.fixed, first.version.trans second.version⟩

theorem Later.id (later : Later a b) : b.id = a.id := congrArg Prod.fst later.fixed

theorem later_of_transitionTo {status : WorkflowStepStatus} {now : Instant}
    (run : perform (transitionTo status now) step = .ok step') : Later step step' := by
  obtain ⟨_, rfl⟩ := perform_transitionTo_ok run
  exact ⟨rfl, by simp [moved]⟩

theorem later_of_operation {operation : StepOperation} (run : perform operation.method step = .ok step') :
    Later step step' := by
  have written : Later step (operation.write step) := by cases operation <;> exact ⟨rfl, le_rfl⟩
  rcases operation.method_cases with ⟨_, assigned⟩ | ⟨status, now, _, steps⟩
  · rw [assigned] at run
    cases run
    exact written
  · rw [steps] at run
    exact written.trans (later_of_transitionTo (perform_after_write run))

end WorkflowStepExecution

namespace WorkflowExecution

variable {a b c e e' : WorkflowExecution}

theorem Later.refl (e : WorkflowExecution) : Later e e :=
  ⟨rfl, le_rfl, List.forall₂_same.mpr fun step _ => .refl step⟩

theorem Later.trans (first : Later a b) (second : Later b c) : Later a c :=
  ⟨second.fixed.trans first.fixed, first.version.trans second.version,
    Rows.forall₂_trans (fun _ _ _ => .trans) first.steps second.steps⟩

theorem Later.id (later : Later a b) : b.id = a.id := congrArg Prod.fst later.fixed

theorem Later.stepIds (later : Later a b) : b.steps.map (·.id) = a.steps.map (·.id) :=
  Rows.forall₂_map_eq (fun _ _ step => step.id) later.steps

/-- A step that is promoted is marked ready; the others are kept. -/
theorem later_of_promoteReadySteps {now : Instant} (run : e.promoteReadySteps now = .ok e') : Later e e' := by
  obtain ⟨steps, looped, done⟩ := Rows.bind_eq_ok.mp run
  cases done
  refine ⟨rfl, le_rfl, (Rows.mapM_ok_iff.mp looped).imp fun step step' change => ?_⟩
  split at change
  · obtain ⟨satisfied, _, change⟩ := Rows.bind_eq_ok.mp change
    split at change
    · exact WorkflowStepExecution.later_of_transitionTo change
    · cases change
      exact .refl step
  · cases change
    exact .refl step

theorem later_of_operation {operation : ExecutionOperation} (run : operation.apply e = .ok e') : Later e e' := by
  cases operation with
  | transitionTo status now =>
    obtain ⟨_, rfl⟩ := perform_transitionTo_ok run
    exact ⟨rfl, by simp [moved], List.forall₂_same.mpr fun step _ => .refl step⟩
  | promoteReadySteps now => exact later_of_promoteReadySteps run
  | onStep stepId operation =>
    obtain ⟨steps, changed, done⟩ := Rows.bind_eq_ok.mp run
    cases done
    exact ⟨rfl, le_rfl, Rows.modifyFirst_forall₂ .refl
      (fun _ _ _ => WorkflowStepExecution.later_of_operation) changed⟩
  | assignManualReviewReason reason =>
    cases run
    exact ⟨rfl, le_rfl, List.forall₂_same.mpr fun step _ => .refl step⟩
  | assignCancelReason reason =>
    cases run
    exact ⟨rfl, le_rfl, List.forall₂_same.mpr fun step _ => .refl step⟩
  | assignDeadlineProcessedAt processedAt =>
    cases run
    exact ⟨rfl, le_rfl, List.forall₂_same.mpr fun step _ => .refl step⟩

/-- Whatever a writer does to the execution, versions never decrease and the
columns outside `update` stay as loaded. -/
theorem later_of_mutated {operations : List ExecutionOperation} (run : e.mutated operations = .ok e') :
    Later e e' := by
  induction operations generalizing e with
  | nil =>
    cases run
    exact .refl _
  | cons operation rest ih =>
    obtain ⟨next, first, run⟩ := Rows.bind_eq_ok.mp run
    exact (later_of_operation first).trans (ih run)

end WorkflowExecution

namespace WorkflowTables

variable {t t' t'' loadedFrom : WorkflowTables} {e first second : WorkflowExecution} {executionId : UUID}

/-! ### Two writers -/

/-- What `claim_runnable` writes to a row it claims. -/
def claimed (t : WorkflowTables) (executionId : UUID) (now leaseUntil : Instant) : WorkflowTables :=
  match t.executions.get executionId with
  | none => t
  | some row =>
    { t with executions := t.executions.put { row with claimLeaseUntil := some leaseUntil, updatedAt := now } }

/-- Claims are the only writes that leave the version of an execution alone. -/
def Claims : WorkflowTables → WorkflowTables → Prop :=
  Relation.ReflTransGen fun t t' => ∃ executionId now leaseUntil, t' = t.claimed executionId now leaseUntil

theorem Claims.steps (claims : Claims t t') : t'.steps = t.steps := by
  induction claims with
  | refl => rfl
  | tail _ claim ih =>
    obtain ⟨_, _, _, rfl⟩ := claim
    rw [← ih]
    unfold claimed
    split <;> rfl

theorem Claims.version (claims : Claims t t') (executionId : UUID) :
    (t'.executions.get executionId).map (·.version) = (t.executions.get executionId).map (·.version) := by
  induction claims with
  | refl => rfl
  | @tail before _ _ claim ih =>
    obtain ⟨claimedId, _, _, rfl⟩ := claim
    rw [← ih]
    unfold claimed
    split
    · rfl
    · rename_i row stored
      rw [Table.get_put]
      split
      · rename_i same
        have key : row.id = claimedId := Table.get_key stored
        rw [same, key, stored]
        rfl
      · rfl

/-- What a load says about the rows as they still are after later claims. -/
theorem load_rows (loaded : loadedFrom.load executionId = some e) (since : Claims loadedFrom t) :
    e.id = executionId ∧ (∃ row, t.executions.get executionId = some row ∧ row.version = e.version) ∧
      e.steps = t.steps.rows.filter (·.workflowExecutionId = executionId) := by
  obtain ⟨row, stored, rfl⟩ := Option.map_eq_some_iff.mp loaded
  have version := since.version executionId
  rw [stored, Option.map_some, Option.map_eq_some_iff] at version
  have key : row.id = executionId := Table.get_key stored
  exact ⟨key, version, by rw [since.steps]; rfl⟩

theorem steps_stored (same : e.steps = t.steps.rows.filter (·.workflowExecutionId = executionId))
    {step : WorkflowStepExecution} (member : step ∈ e.steps) : t.steps.get step.id = some step := by
  rw [same] at member
  exact Table.mem_rows_iff.mp (List.mem_of_mem_filter member)

theorem steps_distinct (same : e.steps = t.steps.rows.filter (·.workflowExecutionId = executionId)) :
    (e.steps.map (·.id)).Nodup := by
  rw [same]
  exact t.steps.unique.sublist (List.filter_sublist.map _)

/-- The rows after an update of `first`, which was loaded as `loaded`: every
version is the writer's own, but at least one more than the version loaded. -/
structure Advanced (t : WorkflowTables) (loaded first : WorkflowExecution) : Prop where
  execution : ∃ row, t.executions.get loaded.id = some row ∧ row.version = max first.version (loaded.version + 1)
  steps : ∀ step ∈ loaded.steps, ∀ one ∈ first.steps, one.id = step.id →
    ∃ old, t.steps.get step.id = some old ∧ old.version = max one.version (step.version + 1)

/-- An update of what was loaded from the rows as they still are is never
refused, and it raises the version of every row it writes. -/
theorem update_advances (load : loadedFrom.load executionId = some e) (since : Claims loadedFrom t)
    (later : e.Later first) : ∃ t', t.update first = .ok t' ∧ Advanced t' e first := by
  obtain ⟨id, ⟨row, stored, version⟩, steps⟩ := load_rows load since
  have sameId : first.id = executionId := later.id.trans id
  have distinct : (first.steps.map (·.id)).Nodup := later.stepIds ▸ steps_distinct steps
  rw [← sameId] at stored
  have accepted : row.version ≤ first.version ∧
      ∀ step ∈ first.steps, ∀ old ∈ t.steps.get step.id, old.version ≤ step.version := by
    refine ⟨version ▸ later.version, fun one member old found => ?_⟩
    obtain ⟨step, inside, after⟩ := Rows.forall₂_mem_right later.steps member
    rw [after.id, steps_stored steps inside] at found
    cases found
    exact after.version
  obtain ⟨t', run⟩ := (update_ok_iff stored distinct).mpr accepted
  obtain ⟨executions, written, _⟩ := update_rows stored distinct run
  have key : (writtenExecution row first).id = e.id := (Table.get_key stored).trans later.id
  refine ⟨t', run, ⟨writtenExecution row first, ?_, ?_⟩, fun step inside one member same => ?_⟩
  · rw [executions, ← key, Table.get_put_self]
  · rw [← version]
    rfl
  · have found := written one member step (same ▸ steps_stored steps inside)
    exact ⟨_, same ▸ found, rfl⟩

theorem Advanced.claims (advanced : Advanced t e first) (claims : Claims t t') : Advanced t' e first := by
  obtain ⟨row, stored, version⟩ := advanced.execution
  have kept := claims.version e.id
  rw [stored, Option.map_some, Option.map_eq_some_iff] at kept
  obtain ⟨row', found, same⟩ := kept
  exact ⟨⟨row', found, same.trans version⟩, claims.steps ▸ advanced.steps⟩

/-- Some row that the second writer hands to `update` is below the version
the first writer's update gave it. -/
def Behind (loaded first second : WorkflowExecution) : Prop :=
  second.version < max first.version (loaded.version + 1) ∨
    ∃ step ∈ loaded.steps, ∃ one ∈ first.steps, ∃ two ∈ second.steps,
      one.id = step.id ∧ two.id = step.id ∧ two.version < max one.version (step.version + 1)

theorem Advanced.update_ok_iff (advanced : Advanced t e first) (later : e.Later second)
    (steps : List.Forall₂ WorkflowStepExecution.Later e.steps first.steps) (distinct : (e.steps.map (·.id)).Nodup) :
    (∃ t', t.update second = .ok t') ↔ ¬ Behind e first second := by
  obtain ⟨row, stored, version⟩ := advanced.execution
  rw [WorkflowTables.update_ok_iff (later.id ▸ stored) (later.stepIds ▸ distinct), version]
  constructor
  · rintro ⟨current, each⟩ (behind | ⟨step, inside, one, alike, two, member, sameOne, sameTwo, less⟩)
    · exact absurd current (not_le.mpr behind)
    · obtain ⟨old, found, at_⟩ := advanced.steps step inside one alike sameOne
      have bound := each two member old (sameTwo ▸ found)
      omega
  · intro ahead
    obtain ⟨current, each⟩ := not_or.mp ahead
    refine ⟨not_lt.mp current, fun two member old found => ?_⟩
    obtain ⟨step, inside, after⟩ := Rows.forall₂_mem_right later.steps member
    obtain ⟨one, alike, before⟩ := Rows.forall₂_mem_left steps inside
    obtain ⟨stored, found', at_⟩ := advanced.steps step inside one alike before.id
    rw [after.id, found'] at found
    cases found
    by_contra less
    exact each ⟨step, inside, one, alike, two, member, before.id, after.id, at_ ▸ not_le.mp less⟩

/-- A transaction that only updates either commits or is rolled back as stale. -/
theorem transaction_refused_iff {row : WorkflowExecutionRow} (stored : t.executions.get e.id = some row)
    (distinct : (e.steps.map (·.id)).Nodup) :
    (∃ aggregateId, t.transaction (·.update e) = (t, some (.concurrencyConflict aggregateId))) ↔
      ¬ ∃ t', t.update e = .ok t' := by
  cases run : t.update e with
  | ok t' => simp [transaction, run]
  | error raised =>
    obtain ⟨aggregateId, rfl⟩ := update_error stored distinct run
    simp [transaction, run]

/-- The second of two writers that loaded an execution at one version is
refused, and changes nothing, exactly if it is behind in some row. -/
theorem second_update_refused_iff {loadedFrom₁ loadedFrom₂ : WorkflowTables} {loaded₁ loaded₂ : WorkflowExecution}
    {operations₁ operations₂ : List ExecutionOperation}
    (load₁ : loadedFrom₁.load executionId = some loaded₁) (since₁ : Claims loadedFrom₁ t)
    (load₂ : loadedFrom₂.load executionId = some loaded₂) (since₂ : Claims loadedFrom₂ t)
    (writer₁ : loaded₁.mutated operations₁ = .ok first) (writer₂ : loaded₂.mutated operations₂ = .ok second) :
    ∃ t', t.update first = .ok t' ∧ ∀ t'', Claims t' t'' →
      ((∃ aggregateId, t''.transaction (·.update second) = (t'', some (.concurrencyConflict aggregateId))) ↔
        Behind loaded₂ first second) := by
  have later₁ := WorkflowExecution.later_of_mutated writer₁
  have later₂ := WorkflowExecution.later_of_mutated writer₂
  obtain ⟨id₁, ⟨row₁, stored₁, version₁⟩, steps₁⟩ := load_rows load₁ since₁
  obtain ⟨id₂, ⟨row₂, stored₂, version₂⟩, steps₂⟩ := load_rows load₂ since₂
  have sameId : loaded₁.id = loaded₂.id := id₁.trans id₂.symm
  have sameSteps : loaded₁.steps = loaded₂.steps := steps₁.trans steps₂.symm
  have sameRow : row₁ = row₂ := Option.some.inj (stored₁.symm.trans stored₂)
  have sameVersion : loaded₁.version = loaded₂.version := by rw [← version₁, ← version₂, sameRow]
  obtain ⟨t', run, advanced⟩ := update_advances load₁ since₁ later₁
  refine ⟨t', run, fun t'' claims => ?_⟩
  have advanced : Advanced t'' loaded₂ first := by
    obtain ⟨execution, steps⟩ := advanced.claims claims
    exact ⟨sameId ▸ sameVersion ▸ execution, sameSteps ▸ steps⟩
  have distinct : (second.steps.map (·.id)).Nodup := later₂.stepIds ▸ steps_distinct steps₂
  obtain ⟨row, stored, _⟩ := advanced.execution
  rw [transaction_refused_iff (later₂.id ▸ stored) distinct,
    advanced.update_ok_iff later₂ (sameSteps ▸ later₁.steps) (steps_distinct steps₂), not_not]

end WorkflowTables

namespace Sample

/-- A stored execution of one step, both running. -/
def storedExecution : WorkflowExecution :=
  { id := 1, definitionId := 1, definitionName := "sample", definitionVersion := 1, status := .running
    correlationId := "sample", idempotencyKey := none, inputPayload := [], createdAt := 0, updatedAt := 0
    steps :=
      [{ id := 2, workflowExecutionId := 1, stepKey := "only", provider := "northstar"
         operationType := .resourceProvision, dependsOn := [], compensateOperation := none, waitForWebhook := false
         status := .running, attemptCount := 1, maxAttempts := 3, integrationRequestId := some 3
         compensationRequestId := none, inputPayload := [], outputPayload := none, errorCode := none
         errorMessage := none, createdAt := 0, updatedAt := 0 }] }

def storedTables : WorkflowTables := WorkflowTables.add {} storedExecution

/-- A writer that learns that the step waits. -/
def waits : List ExecutionOperation := [.onStep 2 (.markWaiting 1), .transitionTo .waiting 1]

/-- A writer that learns that the step failed. -/
def fails : List ExecutionOperation := [.onStep 2 (.markFailed 1 none none), .transitionTo .compensating 1]

/-- What a writer makes of the stored execution. -/
def written (operations : List ExecutionOperation) : WorkflowExecution :=
  match storedExecution.mutated operations with
  | .ok e => e
  | .error _ => storedExecution

end Sample

namespace WorkflowTables

theorem second_update_refused_iff_waits :
    ∃ t', Sample.storedTables.update (Sample.written Sample.waits) = .ok t' ∧ ∀ t'', Claims t' t'' →
      ((∃ aggregateId, t''.transaction (·.update (Sample.written [])) =
          (t'', some (.concurrencyConflict aggregateId))) ↔
        Behind Sample.storedExecution (Sample.written Sample.waits) (Sample.written [])) := by
  have load : Sample.storedTables.load 1 = some Sample.storedExecution := rfl
  have writer₁ : Sample.storedExecution.mutated Sample.waits = .ok (Sample.written Sample.waits) := rfl
  have writer₂ : Sample.storedExecution.mutated [] = .ok (Sample.written []) := rfl
  exact second_update_refused_iff load .refl load .refl writer₁ writer₂

/-- Two writers load the same execution. The second overwrites what the first
has stored, and neither is told. -/
theorem second_update_overwrites :
    ∃ t' t'' lost stored, Sample.storedTables.load 1 = some Sample.storedExecution ∧
      Sample.storedExecution.mutated Sample.fails = .ok (Sample.written Sample.fails) ∧
      Sample.storedExecution.mutated Sample.waits = .ok (Sample.written Sample.waits) ∧
      Sample.storedTables.update (Sample.written Sample.fails) = .ok t' ∧
      t'.transaction (·.update (Sample.written Sample.waits)) = (t'', none) ∧
      t'.load 1 = some lost ∧ lost.status = .compensating ∧
      t''.load 1 = some stored ∧ stored.status = .waiting ∧ stored.steps.map (·.status) = [.waiting] :=
  ⟨_, _, _, _, rfl, rfl, rfl, rfl, rfl, rfl, rfl, rfl, rfl, rfl⟩

end WorkflowTables

end IntegrationOrchestrator
